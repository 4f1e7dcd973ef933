import BlobStorage.Calendar.Token

/-!
# Reading dates

A date is read in the form `2024-10-15T10:00:00.000Z`, or else leniently: numbers and the names of
months fill the day, numbers before colons fill the time of day, and zones and signed numbers behind
a time shift it.  Where the strict form breaks off, the lenient reading goes on with what was found.
Words before the first number do not count; behind it an unknown word spoils the date.
-/

namespace BlobStorage.Calendar

/-- What was found of a date: up to three numbers and a month for the day, up to four numbers and a
half for the time of day, and sign, hours and minutes of a zone.  `strict` marks the strict form. -/
structure Findings where
  days : List Int := []
  month : Option Nat := none
  strict : Bool := false
  times : List Nat := []
  half : Option Nat := none
  zoneSign : Option Int := none
  zoneHour : Option Nat := none
  zoneMinute : Option Nat := none
  numberSeen : Bool := false

namespace Findings

/-- One more number of the day, of which there are three. -/
def addDay (found : Findings) (n : Int) : Option Findings :=
  if found.days.length < 3 then some { found with days := found.days ++ [n] } else none

/-- One more number of the time of day, of which there are four. -/
def addTime (found : Findings) (n : Nat) : Option Findings :=
  if found.times.length < 4 then some { found with times := found.times ++ [n] } else none

/-- The last number of the time of day; those that are still missing are zero. -/
def endTime (found : Findings) (n : Nat) : Findings :=
  { found with times := (found.times ++ [n, 0, 0, 0]).take 4 }

/-- Whether a number fits as the next one of a time of day that was begun. -/
def expectsTime (found : Findings) (n : Nat) : Bool :=
  match found.times.length with
  | 1 | 2 => n < 60
  | 3 => n < 1000
  | _ => false

/-- Whether a number fits as the minutes of a zone that has hours only. -/
def expectsZoneMinute (found : Findings) (n : Nat) : Bool :=
  found.zoneHour.isSome && found.zoneMinute.isNone && n < 60

def setZone (found : Findings) (hours : Int) : Findings :=
  { found with
    zoneSign := some (if hours < 0 then -1 else 1)
    zoneHour := some hours.natAbs
    zoneMinute := some 0 }

def isUniversal (found : Findings) : Bool := found.zoneHour == some 0 && found.zoneMinute == some 0

end Findings

/-- The milliseconds that the digits behind a point stand for. -/
def milliseconds (n length : Nat) : Nat :=
  if length ≤ 3 then n * Nat.pow 10 (3 - length)
  else n / Nat.pow 10 (min length significantDigits - 3)

/-! ## The strict form -/

/-- How far the strict form goes: it spoils the date, or it leaves tokens to be read leniently. -/
inductive StrictEnd where
  | spoiled
  | left (found : Findings) (tokens : List Token)

def strictDone (found : Findings) : List Token → StrictEnd
  | [] => .left { found with strict := true } []
  | _ => .spoiled

def strictZone (found : Findings) : List Token → StrictEnd
  | .word (.zone h) 1 :: rest => strictDone (found.setZone h) rest
  | .sign u :: rest =>
      if u = Text.unit '+' ∨ u = Text.unit '-' then
        let signed := { found with zoneSign := some (if u = Text.unit '+' then 1 else -1) }
        match rest with
        | .number n 4 :: rest =>
            if n / 100 < 24 ∧ n % 100 < 60 then
              strictDone
                { signed with zoneHour := some (n / 100), zoneMinute := some (n % 100) } rest
            else .spoiled
        | .number h 2 :: .sign colon :: .number m 2 :: rest =>
            if h < 24 ∧ colon = Text.unit ':' ∧ m < 60 then
              strictDone { signed with zoneHour := some h, zoneMinute := some m } rest
            else .spoiled
        | _ => .spoiled
      else strictDone found (.sign u :: rest)
  | rest => strictDone found rest

/-- The time of day of the strict form, behind its mark.  Hour twenty-four is midnight only. -/
def strictTime (found : Findings) : List Token → StrictEnd
  | .number h 2 :: .sign colon :: .number m 2 :: rest =>
      let limit (bound : Nat) := if h = 24 then 1 else bound
      if 24 < h ∨ colon ≠ Text.unit ':' ∨ limit 60 ≤ m then .spoiled
      else
        match rest with
        | .sign u :: rest' =>
            if u = Text.unit ':' then
              match rest' with
              | .number s 2 :: rest'' =>
                  if limit 60 ≤ s then .spoiled
                  else
                    match rest'' with
                    | .sign point :: rest''' =>
                        if point = Text.unit '.' then
                          match rest''' with
                          | .number f length :: tokens =>
                              if h = 24 ∧ 0 < f then .spoiled
                              else
                                strictZone { found with times := [h, m, s, milliseconds f length] }
                                  tokens
                          | _ => .spoiled
                        else strictZone { found with times := [h, m, s] } rest''
                    | _ => strictZone { found with times := [h, m, s] } rest''
              | _ => .spoiled
            else strictZone { found with times := [h, m] } rest
        | _ => strictZone { found with times := [h, m] } rest
  | _ => .spoiled

/-- What may stand behind the day of the strict form: nothing, or a time of day. -/
def strictDay (days : List Int) : List Token → StrictEnd
  | [] => .left ({ days, strict := true : Findings }.setZone 0) []
  | .word .timeMark _ :: rest => strictTime { days } rest
  | rest => .left { days } rest

def isHyphen (token : Token) : Bool := token == .sign (Text.unit '-')

def strictMonth (year : Int) : List Token → StrictEnd
  | hyphen :: rest =>
      if isHyphen hyphen then
        match rest with
        | .number month 2 :: rest' =>
            if month < 1 ∨ 12 < month then .left { days := [year] } rest
            else
              match rest' with
              | hyphen' :: rest'' =>
                  if isHyphen hyphen' then
                    match rest'' with
                    | .number day 2 :: rest''' =>
                        if day < 1 ∨ 31 < day then .left { days := [year, month] } rest''
                        else strictDay [year, month, day] rest'''
                    | _ => .left { days := [year, month] } rest''
                  else strictDay [year, month] rest'
              | [] => strictDay [year, month] []
        | _ => .left { days := [year] } rest
      else strictDay [year] (hyphen :: rest)
  | [] => strictDay [year] []

/-- The strict form: a year of four digits, or of six behind a sign. -/
def readStrict : List Token → StrictEnd
  | .sign u :: .number year 6 :: rest =>
      if u = Text.unit '-' then
        if year = 0 then .left {} (.sign u :: rest) else strictMonth (-year) rest
      else if u = Text.unit '+' then strictMonth year rest
      else .left {} (.sign u :: .number year 6 :: rest)
  | .number year 4 :: rest => strictMonth year rest
  | tokens => .left {} tokens

/-! ## The lenient reading -/

/-- A number that stands before no colon, nor before a point within a time of day: the minutes of a
zone, the end of the time of day, or a number of the day.  The last one may be followed by a hyphen,
which is dropped; `dropped` tokens in front of `rest` were read already. -/
def placeNumber (found : Findings) (n : Nat) (dropped : Nat) (rest : List Token) :
    Option (Findings × Nat) :=
  if found.expectsZoneMinute n then some ({ found with zoneMinute := some n }, dropped)
  else if found.expectsTime n then
    match rest with
    | [] | .blank :: _ | .word (.zone _) 1 :: _ => some (found.endTime n, dropped)
    | .sign u :: _ =>
        if u = Text.unit '+' ∨ u = Text.unit '-' then some (found.endTime n, dropped) else none
    | _ => none
  else
    (found.addDay n).map fun found =>
      match rest with
      | token :: _ => (found, if isHyphen token then dropped + 1 else dropped)
      | [] => (found, dropped)

/-- A number: before a colon it is part of the time of day, and so it is before a point where the
time of day goes on. -/
def readNumber (found : Findings) (n : Nat) (rest : List Token) : Option (Findings × Nat) :=
  let found := { found with numberSeen := true }
  match rest with
  | .sign u :: rest' =>
      if u = Text.unit ':' then
        match rest' with
        | .sign v :: _ =>
            if v = Text.unit ':' then
              if found.times.isEmpty then some ({ found with times := [n, 0] }, 2) else none
            else (found.addTime n).map (·, if v = Text.unit '.' then 2 else 1)
        | _ => (found.addTime n).map (·, 1)
      else if u = Text.unit '.' then
        if found.expectsTime n then
          match rest' with
          | .number f length :: _ =>
              (found.addTime n).map fun found => (found.endTime (milliseconds f length), 2)
          | _ => none
        else placeNumber found n 1 rest'
      else placeNumber found n 0 rest
  | _ => placeNumber found n 0 rest

/-- A word: half of a day behind a time, a month, a zone behind a number, or one that does not count
and then stands before all numbers, apart from them. -/
def readWord (found : Findings) (word : Word) (rest : List Token) : Option (Findings × Nat) :=
  let skipped :=
    match rest with
    | .number _ _ :: _ => none
    | _ => if found.numberSeen then none else some (found, 0)
  match word with
  | .half hours =>
      if found.times.isEmpty then skipped else some ({ found with half := some hours }, 0)
  | .month number =>
      some ({ found with month := some number },
        match rest with
        | token :: _ => if isHyphen token then 1 else 0
        | [] => 0)
  | .zone hours => if found.numberSeen then some (found.setZone hours, 0) else skipped
  | .timeMark | .other => skipped

/-- The number behind a sign: hours of a zone before a colon, else hours in one or two digits, or
hours and minutes in three or four. -/
def readZone (found : Findings) (sign : Int) (rest : List Token) : Option (Findings × Nat) :=
  let (n, length, used, rest) :=
    match rest with
    | .number n length :: rest => (n, length, 1, rest)
    | _ => (0, 0, 0, rest)
  let found := { found with zoneSign := some sign, numberSeen := true }
  if rest.head? = some (.sign (Text.unit ':')) then
    some ({ found with zoneHour := some n, zoneMinute := none }, used)
  else if length = 1 ∨ length = 2 then
    some ({ found with zoneHour := some n, zoneMinute := some 0 }, used)
  else if length = 3 ∨ length = 4 then
    some ({ found with zoneHour := some (n / 100), zoneMinute := some (n % 100) }, used)
  else none

/-- One token: the findings with it, and how many of the following tokens were read too. -/
def readToken (found : Findings) (token : Token) (rest : List Token) : Option (Findings × Nat) :=
  match token with
  | .number n _ => readNumber found n rest
  | .word word _ => readWord found word rest
  | .sign u =>
      if (u = Text.unit '+' ∨ u = Text.unit '-') ∧ (found.isUniversal ∨ !found.times.isEmpty) then
        readZone found (if u = Text.unit '-' then -1 else 1) rest
      else if (u = Text.unit '+' ∨ u = Text.unit '-' ∨ u = Text.unit ')') ∧ found.numberSeen then
        none
      else some (found, 0)
  | .blank | .remark => some (found, 0)

/-- The findings with all tokens but the first `used`. -/
def readLenient (used : Nat) (found : Findings) : List Token → Option Findings
  | [] => some found
  | token :: rest =>
      match used with
      | used + 1 => readLenient used found rest
      | 0 =>
          match readToken found token rest with
          | some (found, used) => readLenient used found rest
          | none => none

/-! ## The instant -/

def isDayOfMonth (n : Int) : Bool := 1 ≤ n && n ≤ 31

/-- A year of one or two digits means one from 1950 to 2049. -/
def fullYear (year : Int) : Int :=
  if 0 ≤ year ∧ year ≤ 49 then year + 2000
  else if 50 ≤ year ∧ year ≤ 99 then year + 1900
  else year

/-- Year, month and day from the numbers of the day; a missing number is one.  The first number is
the year if it can be no day; a named month leaves day and year in this order, numbers alone are
month, day and year. -/
def Findings.date? (found : Findings) : Option (Int × Int × Int) :=
  match found.days ++ [1, 1, 1] with
  | first :: second :: third :: _ =>
      if found.days.isEmpty then none
      else
        let (year, month, day) :=
          match found.month with
          | none =>
              if found.strict || !isDayOfMonth first then (first, second, third)
              else (third, first, second)
          | some month =>
              if isDayOfMonth first then (second, (month : Int), first)
              else (first, (month : Int), second)
        let year := if found.strict then year else fullYear year
        if 1 ≤ month ∧ month ≤ 12 ∧ isDayOfMonth day then some (year, month, day) else none
  | _ => none

/-- The milliseconds of the time of day.  Midnight may be hour twenty-four; with a half of the day
hours go up to twelve. -/
def Findings.time? (found : Findings) : Option Int :=
  match found.times ++ [0, 0, 0, 0] with
  | hour :: minute :: second :: millisecond :: _ =>
      let hour? :=
        match found.half with
        | none => some hour
        | some shift => if hour ≤ 12 then some (hour % 12 + shift) else none
      hour?.bind fun hour =>
        if (hour < 24 ∧ minute < 60 ∧ second < 60 ∧ millisecond < 1000) ∨
            (hour = 24 ∧ minute = 0 ∧ second = 0 ∧ millisecond = 0) then
          some (timeOfDay hour minute second millisecond)
        else none
  | _ => none

/-- The seconds of hours and minutes, held in 32 bits: they are counted modulo `2 ^ 32`, and
`2 ^ 31` or more are too many. -/
def zoneSeconds? (hours minutes : Nat) : Option Nat :=
  let seconds := (hours * 3600 + minutes * 60) % Nat.pow 2 32
  if seconds < Nat.pow 2 31 then some seconds else none

/-- The milliseconds by which the zone is ahead.  A date without a zone is one in local time; that no
zone is the universal one here assumes that the process runs in universal time. -/
def Findings.zone? (found : Findings) : Option Int :=
  match found.zoneSign with
  | some sign =>
      (zoneSeconds? (found.zoneHour.getD 0) (found.zoneMinute.getD 0)).map fun seconds =>
        sign * (seconds * 1000 : Nat)
  | none => some 0

def Findings.instant? (found : Findings) : Option Int := do
  let (year, month, day) ← found.date?
  let time ← found.time?
  let zone ← found.zone?
  inRange? (dayNumber year month.toNat day * dayLength + time - zone)

def readDate? (text : Text) : Option Int :=
  match readStrict (tokens text) with
  | .spoiled => none
  | .left found rest =>
      (readLenient 0 { found with numberSeen := !found.days.isEmpty } rest).bind Findings.instant?

end BlobStorage.Calendar
