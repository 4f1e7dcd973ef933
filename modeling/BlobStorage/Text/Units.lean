/-!
# Text as 16-bit units

Names, header values and messages are sequences of 16-bit units.  A pair of a high and a low
surrogate spells one character outside the basic plane; a surrogate may also stand alone, and then
the text is not well formed.  This module supplies the type, the step between units and characters,
and the small operations the other modules share.
-/

namespace BlobStorage

/-- Text as a sequence of 16-bit units, in which a surrogate may stand alone. -/
abbrev Text := List UInt16

namespace Text

/-- The unit of a character of the basic plane. -/
def unit (character : Char) : UInt16 := character.toNat.toUInt16

/-- The one or two units that spell a character. -/
def ofChar (character : Char) : Text :=
  if character.toNat < 0x10000 then [unit character]
  else
    [((character.toNat - 0x10000) / 0x400 + 0xD800).toUInt16,
      ((character.toNat - 0x10000) % 0x400 + 0xDC00).toUInt16]

def ofChars (characters : List Char) : Text := characters.flatMap ofChar

def ofString (string : String) : Text := ofChars string.toList

instance : Coe String Text := ⟨ofString⟩

def isHighSurrogate (u : UInt16) : Bool := 0xD800 ≤ u && u < 0xDC00

def isLowSurrogate (u : UInt16) : Bool := 0xDC00 ≤ u && u < 0xE000

/-- The character a surrogate pair spells. -/
def pairChar (high low : UInt16) : Char :=
  Char.ofNat (0x10000 + (high.toNat - 0xD800) * 0x400 + (low.toNat - 0xDC00))

/-- The characters of a text in order, `none` for each surrogate that stands alone. -/
def scalars : Text → List (Option Char)
  | [] => []
  | [u] => [if isHighSurrogate u || isLowSurrogate u then none else some (Char.ofNat u.toNat)]
  | u :: v :: rest =>
      if isHighSurrogate u then
        if isLowSurrogate v then some (pairChar u v) :: scalars rest
        else none :: scalars (v :: rest)
      else if isLowSurrogate u then none :: scalars (v :: rest)
      else some (Char.ofNat u.toNat) :: scalars (v :: rest)

/-- A text cut into its characters; a surrogate that stands alone is a piece of its own. -/
def characters : Text → List Text
  | [] => []
  | [u] => [[u]]
  | u :: v :: rest =>
      if isHighSurrogate u && isLowSurrogate v then [u, v] :: characters rest
      else [u] :: characters (v :: rest)

/-- The characters of a well-formed text, `none` when a surrogate stands alone. -/
def toChars? (text : Text) : Option (List Char) := text.scalars.mapM id

/-- The characters of a text, with U+FFFD for each surrogate that stands alone. -/
def toCharsLossy (text : Text) : List Char := text.scalars.map (·.getD '\uFFFD')

/-- No surrogate stands alone. -/
def isWellFormed (text : Text) : Bool := text.scalars.all Option.isSome

def isDigit (u : UInt16) : Bool := unit '0' ≤ u && u ≤ unit '9'

def isLowerLetter (u : UInt16) : Bool := unit 'a' ≤ u && u ≤ unit 'z'

def isUpperLetter (u : UInt16) : Bool := unit 'A' ≤ u && u ≤ unit 'Z'

def isLetter (u : UInt16) : Bool := isLowerLetter u || isUpperLetter u

def isHexDigit (u : UInt16) : Bool :=
  isDigit u || (unit 'a' ≤ u && u ≤ unit 'f') || (unit 'A' ≤ u && u ≤ unit 'F')

/-- A unit with the letters `A` to `Z` in lower case. -/
def lowerUnit (u : UInt16) : UInt16 := if isUpperLetter u then u + 0x20 else u

/-- A text with the letters `A` to `Z` in lower case. -/
def lower (text : Text) : Text := text.map lowerUnit

def ofNat (n : Nat) : Text := (Nat.toDigits 10 n).map unit

/-- The decimal digits of an integer, after a minus sign when it is negative. -/
def ofInt : Int → Text
  | .ofNat n => ofNat n
  | .negSucc n => unit '-' :: ofNat (n + 1)

/-- A number in at least `width` decimal digits, filled up with zeros on the left. -/
def ofNatPadded (width n : Nat) : Text :=
  List.replicate (width - (ofNat n).length) (unit '0') ++ ofNat n

/-- The pieces between the occurrences of a separator, in text or in any other list; `k` separators
give `k + 1` pieces. -/
def split {α : Type} [DecidableEq α] (separator : α) : List α → List (List α)
  | [] => [[]]
  | u :: rest =>
      if u = separator then [] :: split separator rest
      else
        match split separator rest with
        | [] => [[u]]
        | piece :: pieces => (u :: piece) :: pieces

/-- The pieces written one after another with `separator` between neighbours. -/
def join (separator : Text) : List Text → Text
  | [] => []
  | [piece] => piece
  | piece :: next :: pieces => piece ++ separator ++ join separator (next :: pieces)

/-- A text without the units at its end that satisfy `p`. -/
def trimEnd (p : UInt16 → Bool) (text : Text) : Text := (text.reverse.dropWhile p).reverse

/-- A text without the units at its two ends that satisfy `p`. -/
def trim (p : UInt16 → Bool) (text : Text) : Text := trimEnd p (text.dropWhile p)

def lessOrEqual : Text → Text → Bool
  | [], _ => true
  | _ :: _, [] => false
  | u :: us, v :: vs => u < v || (u == v && lessOrEqual us vs)

/-- The value of a digit in bases up to thirty-six. -/
def digitValue? (u : UInt16) : Option Nat :=
  if isDigit u then some (u.toNat - 48)
  else if isLowerLetter u then some (u.toNat - 87)
  else if isUpperLetter u then some (u.toNat - 55)
  else none

/-- The number that a text of digits of a base spells; nothing is spelled by the empty text. -/
def toNat? (base : Nat) (text : Text) : Option Nat :=
  if text.isEmpty then none
  else
    text.foldlM
      (fun value u =>
        match digitValue? u with
        | some digit => if digit < base then some (value * base + digit) else none
        | none => none)
      0

/-- White space and line ends as Unicode knows them, with the byte order mark. -/
def isBlank (u : UInt16) : Bool :=
  (9 ≤ u && u ≤ 13) || u == 0x20 || u == 0xA0 || u == 0x1680 || (0x2000 ≤ u && u ≤ 0x200A) ||
    u == 0x2028 || u == 0x2029 || u == 0x202F || u == 0x205F || u == 0x3000 || u == 0xFEFF

end Text

end BlobStorage
