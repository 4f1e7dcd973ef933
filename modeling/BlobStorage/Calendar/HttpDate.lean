import BlobStorage.Calendar.Civil

/-!
# Dates in header fields

The date of a request is written with weekday, day, month, year and time of day in universal time,
as in `Sun, 06 Nov 1994 08:49:37 GMT`.
-/

namespace BlobStorage.Calendar

/-- A year in at least four digits, behind a minus sign when it is negative. -/
def writeYear (year : Int) : Text :=
  (if year < 0 then Text.ofString "-" else []) ++ Text.ofNatPadded 4 year.natAbs

/-- An instant as the date of a header field, to the whole second before it. -/
def writeHttpDate (instant : Int) : Text :=
  let days := instant / dayLength
  let seconds := (instant % dayLength / 1000).toNat
  let date := dateOf days
  weekdayNames.getD (weekday days) [] ++ ", " ++ Text.ofNatPadded 2 date.day ++ " " ++
    monthNames.getD (date.month - 1) [] ++ " " ++ writeYear date.year ++ " " ++
    Text.ofNatPadded 2 (seconds / 3600) ++ ":" ++ Text.ofNatPadded 2 (seconds / 60 % 60) ++ ":" ++
    Text.ofNatPadded 2 (seconds % 60) ++ " GMT"

/-- What is written for an instant that is out of range. -/
def invalidDate : Text := "Invalid Date"

def writeHttpDate? (instant : Option Int) : Text :=
  match instant.bind inRange? with
  | some instant => writeHttpDate instant
  | none => invalidDate

end BlobStorage.Calendar
