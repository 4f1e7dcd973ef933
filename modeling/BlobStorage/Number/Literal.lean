import BlobStorage.Number.Decimal

/-!
# Reading numbers

Text stands for a number when, blanks around it apart, it is empty (a zero), a signed decimal with
an optional exponent, a signed `Infinity`, or an unsigned integer marked as hexadecimal, octal or
binary.  Everything else reads as `nan`.
-/

namespace BlobStorage.Number

/-- A sign in front of a text, and the text behind it. -/
def takeSign : Text → Option Bool × Text
  | u :: rest =>
      if u = Text.unit '-' then (some true, rest)
      else if u = Text.unit '+' then (some false, rest)
      else (none, u :: rest)
  | [] => (none, [])

/-- The value of a run of decimal digits; an empty run is worth zero. -/
def digitsValue (digits : Text) : Nat :=
  digits.foldl (fun value u => value * 10 + (u.toNat - 48)) 0

/-- The power of ten behind a mantissa: nothing, or `e` with a signed run of digits. -/
def readExponent? : Text → Option Int
  | [] => some 0
  | mark :: rest =>
      if mark = Text.unit 'e' ∨ mark = Text.unit 'E' then
        let (sign, digits) := takeSign rest
        if digits.isEmpty || !digits.all Text.isDigit then none
        else
          let power : Int := digitsValue digits
          some (if sign = some true then -power else power)
      else none

/-- An unsigned decimal: digits with a point before, between or behind them, and an exponent. -/
def readDecimal? (negative : Bool) (text : Text) : Option Number :=
  let whole := text.takeWhile Text.isDigit
  let rest := text.dropWhile Text.isDigit
  let (fraction, rest) :=
    match rest with
    | point :: behind =>
        if point = Text.unit '.' then
          (behind.takeWhile Text.isDigit, behind.dropWhile Text.isDigit)
        else ([], rest)
    | [] => ([], [])
  if whole.isEmpty && fraction.isEmpty then none
  else
    (readExponent? rest).map fun power =>
      ofDecimal negative (digitsValue (whole ++ fraction)) (power - fraction.length)

def readSigned? (text : Text) : Option Number :=
  let (sign, rest) := takeSign text
  let negative := sign == some true
  if rest = Text.ofString "Infinity" then some (infinite negative) else readDecimal? negative rest

/-- The base that the two marks at the start of a text stand for. -/
def baseOfMarks? : Text → Option (Nat × Text)
  | zero :: mark :: digits =>
      if zero = Text.unit '0' then
        if mark = Text.unit 'x' ∨ mark = Text.unit 'X' then some (16, digits)
        else if mark = Text.unit 'o' ∨ mark = Text.unit 'O' then some (8, digits)
        else if mark = Text.unit 'b' ∨ mark = Text.unit 'B' then some (2, digits)
        else none
      else none
  | _ => none

def ofText (text : Text) : Number :=
  let text := Text.trim Text.isBlank text
  if text.isEmpty then zero
  else
    match baseOfMarks? text with
    | some (base, digits) =>
        match Text.toNat? base digits with
        | some n => ofRatio false n 1
        | none => nan
    | none => (readSigned? text).getD nan

end BlobStorage.Number
