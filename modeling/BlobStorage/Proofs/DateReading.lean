import BlobStorage.Calendar.Reading
import BlobStorage.Proofs.CivilDay
import BlobStorage.Proofs.SecondsText

/-!
# Reading written dates

The date of a request is read back as the whole second that it was written for.  Its text is cut
into the tokens that it was put together from; the strict form leaves them all, since it starts with
a weekday; and the lenient reading finds day, month, year and time of day in them.
-/

namespace BlobStorage

namespace Text

/-! ## Decimal digits -/

theorem digitValue?_digitChar {digit : Nat} (small : digit < 10) :
    digitValue? (unit digit.digitChar) = some digit := by
  have digits : ∀ digit < 10, digitValue? (unit (Nat.digitChar digit)) = some digit := by decide
  exact digits digit small

theorem isDigit_digitChar {digit : Nat} (small : digit < 10) :
    isDigit (unit digit.digitChar) = true := by
  have digits : ∀ digit < 10, isDigit (unit (Nat.digitChar digit)) = true := by decide
  exact digits digit small

theorem ofNat_of_lt {n : Nat} (small : n < 10) : ofNat n = [unit n.digitChar] := by
  rw [ofNat, Nat.toDigits_of_lt_base small]
  rfl

theorem ofNat_of_le {n : Nat} (large : 10 ≤ n) :
    ofNat n = ofNat (n / 10) ++ [unit (n % 10).digitChar] := by
  rw [ofNat, Nat.toDigits_of_base_le (by decide) large, List.map_append]
  rfl

theorem length_ofNat_pos (n : Nat) : 0 < (ofNat n).length := by
  rw [ofNat, List.length_map]
  exact Nat.length_toDigits_pos

theorem length_ofNat_le {n width : Nat} (positive : 0 < width) (fits : n < Nat.pow 10 width) :
    (ofNat n).length ≤ width := by
  rw [ofNat, List.length_map]
  exact (Nat.length_toDigits_le_iff (by decide) positive).mpr fits

/-- Numbers by their last digit. -/
theorem digitInduction {motive : Nat → Prop} (small : ∀ n < 10, motive n)
    (large : ∀ n, 10 ≤ n → motive (n / 10) → motive n) (n : Nat) : motive n := by
  induction n using Nat.strongRecOn with
  | ind n below =>
      rcases Nat.lt_or_ge n 10 with isSmall | isLarge
      · exact small n isSmall
      · exact large n isLarge (below (n / 10) (by omega))

theorem isDigit_of_mem_ofNat {n : Nat} : ∀ u ∈ ofNat n, isDigit u = true := by
  induction n using digitInduction with
  | small n small =>
      intro u member
      rw [ofNat_of_lt small, List.mem_singleton] at member
      rw [member]
      exact isDigit_digitChar small
  | large n large induction =>
      intro u member
      rw [ofNat_of_le large, List.mem_append, List.mem_singleton] at member
      rcases member with front | last
      · exact induction u front
      · rw [last]
        exact isDigit_digitChar (Nat.mod_lt n (by decide))

theorem head?_ofNat {n : Nat} (positive : 0 < n) :
    ∃ first, (ofNat n).head? = some first ∧ (first == unit '0') = false := by
  induction n using digitInduction with
  | small n small =>
      have digits : ∀ digit < 10, 0 < digit →
          (unit (Nat.digitChar digit) == unit '0') = false := by
        decide
      rw [ofNat_of_lt small]
      exact ⟨unit n.digitChar, rfl, digits n small positive⟩
  | large n large induction =>
      obtain ⟨first, starts, visible⟩ := induction (by omega)
      refine ⟨first, ?_, visible⟩
      rw [ofNat_of_le large, List.head?_append, starts]
      rfl

theorem toNat?_append_digit {front : Text} {value digit : Nat}
    (spelled : toNat? 10 front = some value) (small : digit < 10) :
    toNat? 10 (front ++ [unit digit.digitChar]) = some (value * 10 + digit) := by
  unfold toNat? at spelled ⊢
  split at spelled
  · cases spelled
  · rw [if_neg (by simp), List.foldlM_append, spelled]
    simp [digitValue?_digitChar small, small]

theorem toNat?_ofNat (n : Nat) : toNat? 10 (ofNat n) = some n := by
  induction n using digitInduction with
  | small n small =>
      rw [ofNat_of_lt small]
      simp [toNat?, digitValue?_digitChar small, small]
  | large n large induction =>
      rw [ofNat_of_le large, toNat?_append_digit induction (Nat.mod_lt n (by decide))]
      congr 1
      omega

theorem length_ofNatPadded {width n : Nat} (positive : 0 < width) (fits : n < Nat.pow 10 width) :
    (ofNatPadded width n).length = width := by
  have short := length_ofNat_le positive fits
  rw [ofNatPadded, List.length_append, List.length_replicate]
  omega

theorem isDigit_of_mem_ofNatPadded {width n : Nat} :
    ∀ u ∈ ofNatPadded width n, isDigit u = true := by
  intro u member
  rcases List.mem_append.mp member with zero | digit
  · rw [List.eq_of_mem_replicate zero]
    decide
  · exact isDigit_of_mem_ofNat u digit

theorem all_ne_zero_ofNatPadded (width n : Nat) :
    (ofNatPadded width n).all (· != 0) = true := by
  rw [List.all_eq_true]
  intro u member
  rw [bne_iff_ne]
  rintro rfl
  exact absurd (isDigit_of_mem_ofNatPadded 0 member) (by decide)

theorem ofNatPadded_ne_nil (width n : Nat) : ofNatPadded width n ≠ [] := by
  have positive := length_ofNat_pos n
  rw [ofNatPadded, ← List.length_pos_iff, List.length_append]
  omega

end Text

namespace Calendar

/-! ## Cutting into tokens -/

/-- A number that was filled up with zeros is read as that number. -/
theorem numberToken_ofNatPadded {width n : Nat} (positive : 0 < width)
    (fits : n < Nat.pow 10 width) (counts : n < Nat.pow 10 significantDigits) :
    numberToken (Text.ofNatPadded width n) = .number n width := by
  have zeros : ∀ u ∈ List.replicate (width - (Text.ofNat n).length) (Text.unit '0'),
      (u == Text.unit '0') = true := by
    intro u member
    rw [List.eq_of_mem_replicate member]
    decide
  have cut : (Text.ofNatPadded width n).dropWhile (· == Text.unit '0') =
      (Text.ofNat n).dropWhile (· == Text.unit '0') :=
    List.dropWhile_append_of_pos zeros
  have value : (Text.toNat? 10 (((Text.ofNat n).dropWhile (· == Text.unit '0')).take
      significantDigits)).getD 0 = n := by
    rcases Nat.eq_zero_or_pos n with isZero | isPositive
    · rw [isZero]
      decide
    obtain ⟨first, starts, visible⟩ := Text.head?_ofNat isPositive
    have kept : (Text.ofNat n).dropWhile (· == Text.unit '0') = Text.ofNat n := by
      cases digits : Text.ofNat n with
      | nil => rfl
      | cons head rest =>
          rw [digits] at starts
          obtain rfl := Option.some.inj starts
          rw [List.dropWhile_cons, visible]
          rfl
    have short : (Text.ofNat n).length ≤ significantDigits :=
      Text.length_ofNat_le (by decide) counts
    rw [kept, List.take_of_length_le short, Text.toNat?_ofNat]
    rfl
  simp only [numberToken, cut, value, Text.length_ofNatPadded positive fits]

/-- A piece that is being read goes on up to the first unit that does not belong to it. -/
theorem scan_append (run : Text → Run) {test : UInt16 → Bool}
    (step : ∀ reversed u rest, scan (run reversed) (u :: rest) =
      if test u then scan (run (u :: reversed)) rest
      else (run reversed).close ++ scan .nothing (u :: rest))
    {piece rest : Text} (all : ∀ u ∈ piece, test u = true) (stops : rest.head?.any test = false)
    (ends : ∀ reversed, scan (run reversed) [] = (run reversed).close) (reversed : Text) :
    scan (run reversed) (piece ++ rest) =
      (run (piece.reverse ++ reversed)).close ++ scan .nothing rest := by
  induction piece generalizing reversed with
  | nil =>
      cases rest with
      | nil => exact (ends reversed).trans (List.append_nil _).symm
      | cons u rest =>
          rw [List.head?_cons, Option.any_some] at stops
          exact (step reversed u rest).trans (if_neg (Bool.eq_false_iff.mp stops))
  | cons u piece induction =>
      rw [List.cons_append, step, if_pos (all u List.mem_cons_self),
        induction (fun v member => all v (List.mem_cons_of_mem u member)),
        List.reverse_cons, List.append_assoc, List.singleton_append]

theorem scan_digits {digits rest : Text} (some : digits ≠ [])
    (all : ∀ u ∈ digits, Text.isDigit u = true)
    (stops : rest.head?.any Text.isDigit = false) :
    scan .nothing (digits ++ rest) = numberToken digits :: scan .nothing rest := by
  cases digits with
  | nil => exact absurd rfl some
  | cons first digits =>
      have begun : Run.start first = ([], .digits [first]) := by
        rw [Run.start, if_pos (all first List.mem_cons_self)]
      have read := scan_append .digits (fun _ _ _ => rfl)
        (fun u member => all u (List.mem_cons_of_mem first member)) stops (fun _ => rfl) [first]
      rw [List.cons_append, scan, begun]
      simpa [Run.close] using read

theorem not_isDigit_of_isWordUnit {u : UInt16} (ofWord : isWordUnit u = true) :
    Text.isDigit u = false ∧ isSign u = false := by
  have signs : (Text.ofString ":-+.)").all (· < Text.unit 'A') = true := by decide
  have above : Text.unit 'A' ≤ u := by
    rw [isWordUnit, Bool.and_eq_true] at ofWord
    exact of_decide_eq_true ofWord.1
  constructor
  · have notDigit : ¬u ≤ Text.unit '9' := by
      intro below
      exact absurd (UInt16.le_trans above below) (by decide)
    rw [Text.isDigit, decide_eq_false notDigit, Bool.and_false]
  · rw [isSign, Bool.eq_false_iff, ne_eq, List.contains_iff_mem]
    intro member
    have below : u < Text.unit 'A' := of_decide_eq_true (List.all_eq_true.mp signs u member)
    exact UInt16.not_le.mpr below above

theorem scan_word {word rest : Text} (some : word ≠ [])
    (all : ∀ u ∈ word, isWordUnit u = true)
    (stops : rest.head?.any isWordUnit = false) :
    scan .nothing (word ++ rest) = .word (classify word) word.length :: scan .nothing rest := by
  cases word with
  | nil => exact absurd rfl some
  | cons first word =>
      have ofWord := all first List.mem_cons_self
      have above := not_isDigit_of_isWordUnit ofWord
      have begun : Run.start first = ([], .word [first]) := by
        simp only [Run.start, above.1, above.2, ofWord, Bool.false_eq_true, if_false, if_true]
      have read := scan_append .word (fun _ _ _ => rfl)
        (fun u member => all u (List.mem_cons_of_mem first member)) stops (fun _ => rfl) [first]
      rw [List.cons_append, scan, begun]
      simpa [Run.close] using read

theorem scan_ofNatPadded {width n : Nat} {rest : Text} (positive : 0 < width)
    (counts : width ≤ significantDigits) (fits : n < Nat.pow 10 width)
    (stops : rest.head?.any Text.isDigit = false) :
    scan .nothing (Text.ofNatPadded width n ++ rest) = .number n width :: scan .nothing rest := by
  have significant : n < Nat.pow 10 significantDigits :=
    Nat.lt_of_lt_of_le fits (Nat.pow_le_pow_right (by decide) counts)
  rw [scan_digits (Text.ofNatPadded_ne_nil width n) Text.isDigit_of_mem_ofNatPadded stops,
    numberToken_ofNatPadded positive fits significant]

theorem scan_blank (rest : Text) :
    scan .nothing (Text.unit ' ' :: rest) = .blank :: scan .nothing rest := rfl

theorem scan_colon (rest : Text) :
    scan .nothing (Text.unit ':' :: rest) = .sign (Text.unit ':') :: scan .nothing rest := rfl

theorem scan_comma (rest : Text) :
    scan .nothing (Text.unit ',' :: rest) = .remark :: scan .nothing rest := rfl

/-! ## The tokens of a written date -/

theorem classify_weekdayName {day : Nat} (isDay : day < 7) :
    classify (weekdayNames.getD day []) = .other ∧ (weekdayNames.getD day []).length = 3 ∧
      ∀ u ∈ weekdayNames.getD day [], isWordUnit u = true := by
  have names : ∀ day < 7, classify (weekdayNames.getD day []) = .other ∧
      (weekdayNames.getD day []).length = 3 ∧
      (weekdayNames.getD day []).all isWordUnit = true := by
    decide +kernel
  obtain ⟨other, length, units⟩ := names day isDay
  exact ⟨other, length, List.all_eq_true.mp units⟩

theorem classify_monthName {month : Nat} (lower : 1 ≤ month) (upper : month ≤ 12) :
    classify (monthNames.getD (month - 1) []) = .month month ∧
      (monthNames.getD (month - 1) []).length = 3 ∧
      ∀ u ∈ monthNames.getD (month - 1) [], isWordUnit u = true := by
  have names : ∀ month < 13, 1 ≤ month →
      classify (monthNames.getD (month - 1) []) = .month month ∧
        (monthNames.getD (month - 1) []).length = 3 ∧
        (monthNames.getD (month - 1) []).all isWordUnit = true := by
    decide +kernel
  obtain ⟨isMonth, length, units⟩ := names month (Nat.lt_succ_of_le upper) lower
  exact ⟨isMonth, length, List.all_eq_true.mp units⟩

theorem writeYear_of_nonneg {year : Int} (nonneg : 0 ≤ year) :
    writeYear year = Text.ofNatPadded 4 year.natAbs := by
  rw [writeYear, if_neg (by omega), List.nil_append]

/-- The tokens of the day of a written date. -/
def dayTokens (date : Date) : List Token :=
  [.word .other 3, .remark, .blank, .number date.day 2, .blank, .word (.month date.month) 3,
    .blank, .number date.year.natAbs 4, .blank]

/-- The tokens of the time of day of a written date. -/
def timeTokens (seconds : Nat) : List Token :=
  [.number (seconds / 3600) 2, .sign (Text.unit ':'), .number (seconds / 60 % 60) 2,
    .sign (Text.unit ':'), .number (seconds % 60) 2, .blank, .word (.zone 0) 3]

/-- The day of a written date, with the blank behind it. -/
def writeDay (weekday : Nat) (date : Date) : Text :=
  weekdayNames.getD weekday [] ++ ", " ++ Text.ofNatPadded 2 date.day ++ " " ++
    monthNames.getD (date.month - 1) [] ++ " " ++ writeYear date.year ++ " "

/-- The time of day of a written date. -/
def writeTime (seconds : Nat) : Text :=
  Text.ofNatPadded 2 (seconds / 3600) ++ ":" ++ Text.ofNatPadded 2 (seconds / 60 % 60) ++ ":" ++
    Text.ofNatPadded 2 (seconds % 60) ++ " GMT"

theorem writeHttpDate_eq (instant : Int) :
    writeHttpDate instant =
      writeDay (weekday (instant / dayLength)) (dateOf (instant / dayLength)) ++
        writeTime (instant % dayLength / 1000).toNat := by
  simp only [writeHttpDate, writeDay, writeTime, List.append_assoc]

theorem scan_writeTime {seconds : Nat} (isTime : seconds < 86400) :
    scan .nothing (writeTime seconds) = timeTokens seconds := by
  have colon : Text.ofString ":" = [Text.unit ':'] := rfl
  have zone : scan .nothing " GMT" = [.blank, .word (.zone 0) 3] := by decide +kernel
  simp only [writeTime, colon, List.append_assoc, List.cons_append, List.nil_append]
  rw [scan_ofNatPadded (by decide) (by decide) (show _ < 100 by omega) (by rfl), scan_colon,
    scan_ofNatPadded (by decide) (by decide) (show _ < 100 by omega) (by rfl), scan_colon,
    scan_ofNatPadded (by decide) (by decide) (show _ < 100 by omega) (by rfl), zone]
  rfl

theorem scan_writeDay {day : Nat} {date : Date} (rest : Text) (isDay : day < 7)
    (monthLower : 1 ≤ date.month) (monthUpper : date.month ≤ 12) (dayUpper : date.day ≤ 31)
    (yearLower : 0 ≤ date.year) (yearUpper : date.year ≤ 9999) :
    scan .nothing (writeDay day date ++ rest) = dayTokens date ++ scan .nothing rest := by
  have comma : Text.ofString ", " = [Text.unit ',', Text.unit ' '] := rfl
  have blank : Text.ofString " " = [Text.unit ' '] := rfl
  obtain ⟨isOther, weekdayLength, weekdayUnits⟩ := classify_weekdayName isDay
  obtain ⟨isMonth, monthLength, monthUnits⟩ := classify_monthName monthLower monthUpper
  have weekdayNamed : weekdayNames.getD day [] ≠ [] :=
    List.ne_nil_of_length_eq_add_one weekdayLength
  have monthNamed : monthNames.getD (date.month - 1) [] ≠ [] :=
    List.ne_nil_of_length_eq_add_one monthLength
  have dayFits : date.day < Nat.pow 10 2 := Nat.lt_of_le_of_lt dayUpper (by decide)
  have yearFits : date.year.natAbs < Nat.pow 10 4 :=
    Nat.lt_of_le_of_lt (show _ ≤ 9999 by omega) (by decide)
  simp only [writeDay, comma, blank, writeYear_of_nonneg yearLower, List.append_assoc,
    List.cons_append, List.nil_append]
  rw [scan_word weekdayNamed weekdayUnits (by rfl), scan_comma, scan_blank,
    scan_ofNatPadded (by decide) (by decide) dayFits (by rfl), scan_blank,
    scan_word monthNamed monthUnits (by rfl), scan_blank,
    scan_ofNatPadded (by decide) (by decide) yearFits (by rfl), scan_blank,
    isOther, weekdayLength, isMonth, monthLength]
  rfl

theorem all_ne_zero_writeTime (seconds : Nat) : (writeTime seconds).all (· != 0) = true := by
  have colon : (Text.ofString ":").all (· != 0) = true := by decide
  have zone : (Text.ofString " GMT").all (· != 0) = true := by decide
  simp only [writeTime, List.all_append, Text.all_ne_zero_ofNatPadded, colon, zone, Bool.and_self]

theorem all_ne_zero_writeDay {day : Nat} {date : Date} (isDay : day < 7)
    (monthLower : 1 ≤ date.month) (monthUpper : date.month ≤ 12) (yearLower : 0 ≤ date.year) :
    (writeDay day date).all (· != 0) = true := by
  have weekdays : ∀ day < 7, (weekdayNames.getD day []).all (· != 0) = true := by decide
  have months : ∀ month < 12, (monthNames.getD month []).all (· != 0) = true := by decide
  have comma : (Text.ofString ", ").all (· != 0) = true := by decide
  have blank : (Text.ofString " ").all (· != 0) = true := by decide
  simp only [writeDay, List.all_append, Text.all_ne_zero_ofNatPadded, comma, blank,
    writeYear_of_nonneg yearLower, weekdays day isDay, months (date.month - 1) (by omega),
    Bool.and_self]

/-- A date of a year of four digits is cut into the tokens of its day and of its time of day. -/
theorem tokens_writeHttpDate {instant : Int}
    (yearLower : 0 ≤ (dateOf (instant / dayLength)).year)
    (yearUpper : (dateOf (instant / dayLength)).year ≤ 9999) :
    tokens (writeHttpDate instant) =
      dayTokens (dateOf (instant / dayLength)) ++
        timeTokens (instant % dayLength / 1000).toNat := by
  obtain ⟨month, day⟩ := dateOf_bounds (instant / dayLength)
  have isDay := weekday_lt (instant / dayLength)
  have isTime : (instant % dayLength / 1000).toNat < 86400 := by
    unfold dayLength
    omega
  have noNul : (writeHttpDate instant).all (· != 0) = true := by
    rw [writeHttpDate_eq, List.all_append, all_ne_zero_writeDay isDay month.1 month.2 yearLower,
      all_ne_zero_writeTime, Bool.and_self]
  have whole : (writeHttpDate instant).takeWhile (· != 0) = writeHttpDate instant := by
    rw [← List.append_nil (writeHttpDate instant),
      List.takeWhile_append_of_pos (List.all_eq_true.mp noNul), List.takeWhile_nil]
  rw [tokens, whole, writeHttpDate_eq,
    scan_writeDay _ isDay month.1 month.2 day.2 yearLower yearUpper, scan_writeTime isTime]

/-! ## Reading the tokens -/

theorem readLenient_dayTokens (date : Date) (rest : List Token) :
    readLenient 0 {} (dayTokens date ++ rest) =
      readLenient 0
        { days := [date.day, date.year.natAbs], month := some date.month, numberSeen := true }
        rest := by
  simp [dayTokens, readLenient, readToken, readWord, readNumber, placeNumber,
    Findings.expectsZoneMinute, Findings.expectsTime, Findings.addDay, isHyphen]

theorem readLenient_timeTokens {found : Findings} (seconds : Nat) (begun : found.numberSeen = true)
    (noTime : found.times = []) (noZone : found.zoneHour = none) :
    readLenient 0 found (timeTokens seconds) =
      some { found.setZone 0 with
        times := [seconds / 3600, seconds / 60 % 60, seconds % 60, 0] } := by
  have minute : seconds / 60 % 60 < 60 := Nat.mod_lt _ (by decide)
  have second : seconds % 60 < 60 := Nat.mod_lt _ (by decide)
  simp [timeTokens, readLenient, readToken, readWord, readNumber, placeNumber,
    Findings.expectsZoneMinute, Findings.expectsTime, Findings.addTime, Findings.endTime,
    Findings.setZone, begun, noTime, noZone, second]

/-- What is found in a written date. -/
def written (date : Date) (seconds : Nat) : Findings where
  days := [date.day, date.year.natAbs]
  month := some date.month
  times := [seconds / 3600, seconds / 60 % 60, seconds % 60, 0]
  zoneSign := some 1
  zoneHour := some 0
  zoneMinute := some 0
  numberSeen := true

theorem date?_written {date : Date} {seconds : Nat} (monthLower : 1 ≤ date.month)
    (monthUpper : date.month ≤ 12) (dayLower : 1 ≤ date.day) (dayUpper : date.day ≤ 31)
    (yearLower : 100 ≤ date.year) :
    (written date seconds).date? = some (date.year, (date.month : Int), (date.day : Int)) := by
  have isDay : isDayOfMonth date.day = true := by
    simp only [isDayOfMonth, Bool.and_eq_true, decide_eq_true_eq]
    omega
  have year : ((date.year.natAbs : Nat) : Int) = date.year := by omega
  have full : fullYear date.year = date.year := by
    unfold fullYear
    rw [if_neg (by omega), if_neg (by omega)]
  have month : (1 : Int) ≤ date.month ∧ (date.month : Int) ≤ 12 := by omega
  simp [written, Findings.date?, isDay, year, full, month]

theorem time?_written {date : Date} {seconds : Nat} (isTime : seconds < 86400) :
    (written date seconds).time? = some ((seconds : Int) * 1000) := by
  have hour : seconds / 3600 < 24 := by omega
  have minute : seconds / 60 % 60 < 60 := Nat.mod_lt _ (by decide)
  have second : seconds % 60 < 60 := Nat.mod_lt _ (by decide)
  have total : timeOfDay (seconds / 3600 : Nat) (seconds / 60 % 60 : Nat) (seconds % 60 : Nat)
      (0 : Nat) = seconds * 1000 := by
    unfold timeOfDay
    omega
  simp only [written, Findings.time?, List.cons_append, Option.bind_some, hour, minute, second,
    total]
  rfl

theorem zone?_written (date : Date) (seconds : Nat) : (written date seconds).zone? = some 0 := by
  have universal : zoneSeconds? 0 0 = some 0 := by decide
  simp [written, Findings.zone?, universal]

theorem instant?_written {date : Date} {seconds : Nat} (monthLower : 1 ≤ date.month)
    (monthUpper : date.month ≤ 12) (dayLower : 1 ≤ date.day) (dayUpper : date.day ≤ 31)
    (yearLower : 100 ≤ date.year) (isTime : seconds < 86400) :
    (written date seconds).instant? =
      inRange? (dayNumber date.year date.month date.day * dayLength + seconds * 1000) := by
  rw [Findings.instant?, date?_written monthLower monthUpper dayLower dayUpper yearLower,
    time?_written isTime, zone?_written]
  simp only [Option.bind_eq_bind, Option.bind_some, Int.toNat_natCast, Int.sub_zero]

/-- The tokens of a written date are read leniently: the weekday comes first, so that the strict
form does not begin. -/
theorem readStrict_dayTokens (date : Date) (rest : List Token) :
    readStrict (dayTokens date ++ rest) = .left {} (dayTokens date ++ rest) := rfl

theorem readLenient_written (date : Date) (seconds : Nat) :
    readLenient 0 {} (dayTokens date ++ timeTokens seconds) = some (written date seconds) := by
  rw [readLenient_dayTokens, readLenient_timeTokens seconds rfl rfl rfl]
  rfl

/-- The last instant whose year has four digits. -/
def lastInstant : Int := 253402300799999

/-- A date that was written for an instant from 1970 to 9999 is read back as the whole second
before that instant. -/
theorem readDate?_writeHttpDate {instant : Int} (lower : 0 ≤ instant)
    (upper : instant ≤ lastInstant) :
    readDate? (writeHttpDate instant) = some (instant - instant % 1000) := by
  unfold lastInstant at upper
  obtain ⟨month, day⟩ := dateOf_bounds (instant / dayLength)
  have year : 1970 ≤ (dateOf (instant / dayLength)).year ∧
      (dateOf (instant / dayLength)).year ≤ 9999 := by
    apply dateOf_year
    · unfold dayLength
      omega
    · unfold dayLength lastDay
      omega
  have isTime : (instant % dayLength / 1000).toNat < 86400 := by
    unfold dayLength
    omega
  have total : instant / dayLength * dayLength + (instant % dayLength / 1000).toNat * 1000 =
      instant - instant % 1000 := by
    unfold dayLength
    omega
  have counts : (instant - instant % 1000).natAbs ≤ range.natAbs := by
    unfold range
    omega
  rw [readDate?, tokens_writeHttpDate (by omega) year.2, readStrict_dayTokens]
  simp only [List.isEmpty_nil, Bool.not_true]
  rw [readLenient_written, Option.bind_some,
    instant?_written month.1 month.2 day.1 day.2 (by omega) isTime, dayNumber_dateOf, total,
    inRange?, if_pos counts]

example : readDate? "Tue, 29 Feb 2000 23:59:59 GMT" = some 951868799000 := by decide +kernel

end Calendar

end BlobStorage
