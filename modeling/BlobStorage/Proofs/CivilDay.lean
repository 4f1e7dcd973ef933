import BlobStorage.Calendar.HttpDate

/-!
# Days of the calendar

`dateOf` names the day that `dayNumber` counts, before and after 1970 alike.  The one obstacle is
the year within an era of four hundred: the correction for leap years changes at the end of every
fourth year, of every century and of the era, so the bounds on it are found century by century.
-/

namespace BlobStorage.Calendar

theorem weekday_lt (days : Int) : weekday days < 7 := by
  unfold weekday
  omega

theorem yearOfEra_bounds {dayOfEra yearOfEra : Int} (lower : 0 ≤ dayOfEra)
    (upper : dayOfEra < 146097)
    (year : yearOfEra =
      (dayOfEra - dayOfEra / 1460 + dayOfEra / 36524 - dayOfEra / 146096) / 365) :
    (0 ≤ yearOfEra ∧ yearOfEra < 400) ∧
      0 ≤ dayOfEra - (365 * yearOfEra + yearOfEra / 4 - yearOfEra / 100) ∧
      dayOfEra - (365 * yearOfEra + yearOfEra / 4 - yearOfEra / 100) ≤ 365 := by
  refine ⟨⟨by omega, by omega⟩, ?_⟩
  have century : dayOfEra / 36524 = 0 ∨ dayOfEra / 36524 = 1 ∨ dayOfEra / 36524 = 2 ∨
      dayOfEra / 36524 = 3 ∨ dayOfEra / 36524 = 4 := by
    omega
  -- Four years take 1461 days, so that counting by 1460 runs ahead by one leap day at most.
  have leapDays : dayOfEra / 1460 = yearOfEra / 4 ∨ dayOfEra / 1460 = yearOfEra / 4 + 1 := by
    omega
  rcases century with century | century | century | century | century <;>
    rcases leapDays with leapDays | leapDays <;> omega

theorem marchMonth_bounds {dayOfYear marchMonth : Int} (lower : 0 ≤ dayOfYear)
    (upper : dayOfYear ≤ 365) (month : marchMonth = (5 * dayOfYear + 2) / 153) :
    (0 ≤ marchMonth ∧ marchMonth < 12) ∧
      0 ≤ dayOfYear - (153 * marchMonth + 2) / 5 ∧
      dayOfYear - (153 * marchMonth + 2) / 5 < 31 := by
  omega

/-- A number of days cut into era, year, month and day, with the date that they make: years start
in March, and the last two of their months belong to the next year of the calendar. -/
structure Civil (days era yearOfEra dayOfYear marchMonth : Int) : Prop where
  yearLower : 0 ≤ yearOfEra
  yearUpper : yearOfEra < 400
  dayLower : 0 ≤ dayOfYear
  dayUpper : dayOfYear ≤ 365
  month : marchMonth = (5 * dayOfYear + 2) / 153
  total : days + 719468 =
    era * 146097 + (yearOfEra * 365 + yearOfEra / 4 - yearOfEra / 100 + dayOfYear)
  date : dateOf days =
    if marchMonth < 10 then
      ⟨yearOfEra + era * 400, (marchMonth + 3).toNat,
        (dayOfYear - (153 * marchMonth + 2) / 5 + 1).toNat⟩
    else
      ⟨yearOfEra + era * 400 + 1, (marchMonth - 9).toNat,
        (dayOfYear - (153 * marchMonth + 2) / 5 + 1).toNat⟩

theorem exists_civil (days : Int) :
    ∃ era yearOfEra dayOfYear marchMonth, Civil days era yearOfEra dayOfYear marchMonth := by
  obtain ⟨dayOfEra, isDay⟩ : ∃ dayOfEra, dayOfEra = (days + 719468) % 146097 := ⟨_, rfl⟩
  obtain ⟨yearOfEra, isYear⟩ : ∃ yearOfEra, yearOfEra =
    (dayOfEra - dayOfEra / 1460 + dayOfEra / 36524 - dayOfEra / 146096) / 365 := ⟨_, rfl⟩
  obtain ⟨dayOfYear, isDayOfYear⟩ : ∃ dayOfYear, dayOfYear =
    dayOfEra - (365 * yearOfEra + yearOfEra / 4 - yearOfEra / 100) := ⟨_, rfl⟩
  obtain ⟨marchMonth, isMonth⟩ : ∃ marchMonth, marchMonth = (5 * dayOfYear + 2) / 153 := ⟨_, rfl⟩
  have year := yearOfEra_bounds (by omega) (by omega) isYear
  have day := isDayOfYear ▸ year.2
  have month := marchMonth_bounds day.1 day.2 isMonth
  refine ⟨(days + 719468) / 146097, yearOfEra, dayOfYear, marchMonth, year.1.1, year.1.2, day.1,
    day.2, isMonth, by omega, ?_⟩
  unfold dateOf
  simp only [← isDay, ← isYear, ← isDayOfYear, ← isMonth]
  by_cases early : marchMonth < 10
  · have late : ¬marchMonth + 3 ≤ 2 := by omega
    simp only [early, if_true, late, if_false]
  · have january : marchMonth - 9 ≤ 2 := by omega
    simp only [early, if_false, january, if_true]

/-- The day that `dateOf` names is the one that was counted. -/
theorem dayNumber_dateOf (days : Int) :
    dayNumber (dateOf days).year (dateOf days).month (dateOf days).day = days := by
  obtain ⟨era, yearOfEra, dayOfYear, marchMonth, civil⟩ := exists_civil days
  obtain ⟨yearLower, yearUpper, dayLower, dayUpper, month, total, date⟩ := civil
  have months := marchMonth_bounds dayLower dayUpper month
  rw [date, dayNumber]
  by_cases early : marchMonth < 10
  · have late : ¬(marchMonth + 3).toNat ≤ 2 := by omega
    simp only [early, if_true, late, if_false]
    omega
  · have january : (marchMonth - 9).toNat ≤ 2 := by omega
    simp only [early, if_false, january, if_true]
    omega

example : dateOf 11016 = ⟨2000, 2, 29⟩ := by decide

theorem dateOf_bounds (days : Int) :
    (1 ≤ (dateOf days).month ∧ (dateOf days).month ≤ 12) ∧
      1 ≤ (dateOf days).day ∧ (dateOf days).day ≤ 31 := by
  obtain ⟨era, yearOfEra, dayOfYear, marchMonth, civil⟩ := exists_civil days
  have months := marchMonth_bounds civil.dayLower civil.dayUpper civil.month
  rw [civil.date]
  by_cases early : marchMonth < 10 <;> simp only [early, if_true, if_false] <;> omega

/-- The last day of the year 9999. -/
def lastDay : Int := 2932896

theorem dateOf_year {days : Int} (lower : 0 ≤ days) (upper : days ≤ lastDay) :
    1970 ≤ (dateOf days).year ∧ (dateOf days).year ≤ 9999 := by
  obtain ⟨era, yearOfEra, dayOfYear, marchMonth, civil⟩ := exists_civil days
  obtain ⟨yearLower, yearUpper, dayLower, dayUpper, month, total, date⟩ := civil
  unfold lastDay at upper
  rw [date]
  -- The first days of 1970 still belong to the year that starts in March 1969.
  have first : 1970 ≤ yearOfEra + era * 400 ∨
      (yearOfEra + era * 400 = 1969 ∧ 306 ≤ dayOfYear) := by
    rcases Int.lt_or_le 4 era with later | earlier
    · left
      omega
    · have sameEra : era = 4 := by omega
      subst era
      rcases Int.lt_or_le 369 yearOfEra with later | earlier
      · left
        omega
      · have lastYear : yearOfEra = 369 := by omega
        subst yearOfEra
        right
        omega
  have last : yearOfEra + era * 400 < 9999 ∨
      (yearOfEra + era * 400 = 9999 ∧ dayOfYear ≤ 305) := by
    rcases Int.lt_or_le era 24 with earlier | later
    · left
      omega
    · have sameEra : era = 24 := by omega
      subst era
      rcases Int.lt_or_le yearOfEra 399 with earlier | later
      · left
        omega
      · have lastYear : yearOfEra = 399 := by omega
        subst yearOfEra
        right
        omega
  by_cases early : marchMonth < 10
  · simp only [early, if_true]
    omega
  · simp only [early, if_false]
    omega

end BlobStorage.Calendar
