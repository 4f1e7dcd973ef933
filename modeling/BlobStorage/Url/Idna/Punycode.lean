import BlobStorage.Url.Host

/-!
# Punycode

A label with characters beyond ASCII is written in ASCII: first its own ASCII characters, then, for
the others in the order of their code points, how far on the next one stands, as numbers of variable
length in base thirty-six.  The lengths adapt to the numbers that came before.
-/

namespace BlobStorage.Punycode

/-- The digit of a number below thirty-six: letters come first. -/
def digitChar (n : Nat) : Char := if n < 26 then Char.ofNat (97 + n) else Char.ofNat (22 + n)

def digitValue? (character : Char) : Option Nat :=
  if 'a' ≤ character ∧ character ≤ 'z' then some (character.toNat - 97)
  else if '0' ≤ character ∧ character ≤ '9' then some (character.toNat - 22)
  else none

/-- The least digit that does not end a number at a place, counted in steps of thirty-six. -/
def threshold (place bias : Nat) : Nat := min 26 (max 1 (place - bias))

/-- A number divided by thirty-five as long as it is large, and how often, in steps of
thirty-six. -/
def reduce (delta steps : Nat) : Nat × Nat :=
  if 455 < delta then reduce (delta / 35) (steps + 36) else (delta, steps)
termination_by delta
decreasing_by exact Nat.div_lt_self (by omega) (by omega)

/-- The bias after a number, when so many characters are there. -/
def adapt (delta count : Nat) (first : Bool) : Nat :=
  let delta := if first then delta / 700 else delta / 2
  let (delta, steps) := reduce (delta + delta / count) 0
  steps + 36 * delta / (delta + 38)

/-- A number as digits, the lowest one first. -/
def writeNumber (bias place n : Nat) : List Char :=
  let least := threshold place bias
  if n < least then [digitChar n]
  else digitChar (least + (n - least) % (36 - least)) ::
    writeNumber bias (place + 36) ((n - least) / (36 - least))
termination_by n
decreasing_by
  have positive : 1 ≤ threshold place bias := by unfold threshold; omega
  have quotient := Nat.div_le_self (n - threshold place bias) (36 - threshold place bias)
  omega

/-- Where the writing of a label stands: the digits so far, how far on the next character is, the
bias, and how many characters are written. -/
structure Writer where
  digits : List Char
  delta : Nat
  bias : Nat
  written : Nat

/-- One character of the label, while those of a code point are written. -/
def Writer.pass (basicCount codePoint : Nat) (writer : Writer) (character : Char) : Writer :=
  if character.toNat < codePoint then { writer with delta := writer.delta + 1 }
  else if character.toNat = codePoint then
    { digits := writer.digits ++ writeNumber writer.bias 36 writer.delta
      delta := 0
      bias := adapt writer.delta (writer.written + 1) (writer.written == basicCount)
      written := writer.written + 1 }
  else writer

/-- The characters of a code point, the last one written having been below `next`. -/
def Writer.codePoint (label : List Char) (basicCount : Nat) (state : Writer × Nat)
    (codePoint : Nat) : Writer × Nat :=
  let (writer, next) := state
  let ahead := { writer with delta := writer.delta + (codePoint - next) * (writer.written + 1) }
  let passed := label.foldl (Writer.pass basicCount codePoint) ahead
  ({ passed with delta := passed.delta + 1 }, codePoint + 1)

def isBasic (character : Char) : Bool := character.toNat < 128

def encode (label : List Char) : List Char :=
  let basic := label.filter isBasic
  let codePoints :=
    ((label.filter fun c => !isBasic c).map Char.toNat).eraseDups.mergeSort (· ≤ ·)
  let (writer, _) :=
    codePoints.foldl (Writer.codePoint label basic.length) (⟨[], 0, 72, basic.length⟩, 128)
  (if basic.isEmpty then [] else basic ++ ['-']) ++ writer.digits

/-- Where the reading of a label stands: its characters so far, the code point and the place of the
last one, the bias, and the number that is being read, with the worth and the place of its next
digit. -/
structure Reader where
  label : List Nat
  codePoint : Nat
  position : Nat
  bias : Nat
  number : Nat
  weight : Nat
  place : Nat

/-- The reader behind a number: one more character stands in the label. -/
def Reader.insert? (reader : Reader) (number : Nat) : Option Reader :=
  let count := reader.label.length + 1
  let total := reader.position + number
  let codePoint := reader.codePoint + total / count
  let position := total % count
  if 0x10FFFF < codePoint then none
  else
    some {
      label := reader.label.take position ++ codePoint :: reader.label.drop position
      codePoint
      position := position + 1
      bias := adapt number count (reader.position == 0)
      number := 0, weight := 1, place := 36 }

/-- The label that digits stand for, behind what was read; a number that breaks off is an error. -/
def readDigits (reader : Reader) : List Char → Option (List Nat)
  | [] => if reader.weight = 1 then some reader.label else none
  | digit :: digits =>
      match digitValue? digit with
      | none => none
      | some value =>
          let number := reader.number + value * reader.weight
          let least := threshold reader.place reader.bias
          if 0x7FFFFFFF < number then none
          else if value < least then
            match reader.insert? number with
            | some reader => readDigits reader digits
            | none => none
          else
            readDigits { reader with
              number, weight := reader.weight * (36 - least), place := reader.place + 36 } digits

def charOf? (codePoint : Nat) : Option Char :=
  if codePoint.isValidChar then some (Char.ofNat codePoint) else none

/-- The label that text in ASCII stands for: its own characters end at the last hyphen. -/
def decode? (text : List Char) : Option (List Char) :=
  let digits := (text.reverse.takeWhile (· != '-')).reverse
  let basic := text.take (text.length - digits.length - 1)
  (readDigits ⟨basic.map Char.toNat, 128, 0, 72, 0, 1, 36⟩ digits).bind (·.mapM charOf?)

end BlobStorage.Punycode
