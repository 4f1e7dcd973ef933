import BlobStorage.Text.Units

/-!
# The calendar

Instants are counted in milliseconds from the start of 1970 in universal time; the calendar is the
Gregorian one, extended to all years.  Years are counted from March here, so that the day that leap
years add comes last, and four hundred years are one era of equal length.
-/

namespace BlobStorage.Calendar

def dayLength : Int := 86400000

/-- The number of days from the start of 1970 to a day of a month; a day beyond the end of the month
falls into the following ones. -/
def dayNumber (year : Int) (month : Nat) (day : Int) : Int :=
  let marchYear := if month ≤ 2 then year - 1 else year
  let marchMonth : Int := if month ≤ 2 then month + 9 else month - 3
  let era := marchYear / 400
  let yearOfEra := marchYear % 400
  let dayOfYear := (153 * marchMonth + 2) / 5 + day - 1
  era * 146097 + (yearOfEra * 365 + yearOfEra / 4 - yearOfEra / 100 + dayOfYear) - 719468

/-- A day of the calendar. -/
structure Date where
  year : Int
  month : Nat
  day : Nat
  deriving DecidableEq

/-- The date of a number of days from the start of 1970. -/
def dateOf (days : Int) : Date :=
  let shifted := days + 719468
  let era := shifted / 146097
  let dayOfEra := shifted % 146097
  let yearOfEra := (dayOfEra - dayOfEra / 1460 + dayOfEra / 36524 - dayOfEra / 146096) / 365
  let dayOfYear := dayOfEra - (365 * yearOfEra + yearOfEra / 4 - yearOfEra / 100)
  let marchMonth := (5 * dayOfYear + 2) / 153
  let day := dayOfYear - (153 * marchMonth + 2) / 5 + 1
  let month := if marchMonth < 10 then marchMonth + 3 else marchMonth - 9
  let year := yearOfEra + era * 400
  { year := if month ≤ 2 then year + 1 else year
    month := month.toNat
    day := day.toNat }

/-- The number of the weekday of a day, from zero for Sunday. -/
def weekday (days : Int) : Nat := ((days + 4) % 7).toNat

def timeOfDay (hour minute second millisecond : Int) : Int :=
  ((hour * 60 + minute) * 60 + second) * 1000 + millisecond

/-- The last instant that counts, to both sides of the start of 1970. -/
def range : Int := 8640000000000000

def inRange? (instant : Int) : Option Int :=
  if instant.natAbs ≤ range.natAbs then some instant else none

def monthNames : List Text :=
  ["Jan", "Feb", "Mar", "Apr", "May", "Jun", "Jul", "Aug", "Sep", "Oct", "Nov", "Dec"]

def weekdayNames : List Text := ["Sun", "Mon", "Tue", "Wed", "Thu", "Fri", "Sat"]

end BlobStorage.Calendar
