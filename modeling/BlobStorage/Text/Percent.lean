import BlobStorage.Text.Utf8

/-!
# Percent-encoding

A byte outside a set of plain characters is written as `%` and two upper-case hexadecimal digits.
The set depends on where the text stands: a resource name keeps fewer characters than the path of
an address.  Reading back accepts digits of either case and leaves a `%` alone that is not followed
by two digits.
-/

namespace BlobStorage.Percent

def hexDigit (n : Nat) : Char :=
  if n < 10 then Char.ofNat (48 + n) else Char.ofNat (55 + n)

def encodeByte (byte : UInt8) : List Char :=
  ['%', hexDigit (byte.toNat / 16), hexDigit (byte.toNat % 16)]

def encodeChar (character : Char) : List Char :=
  (String.utf8EncodeChar character).flatMap encodeByte

/-- The characters with everything percent-encoded that is not `plain`. -/
def encode (plain : Char → Bool) (characters : List Char) : List Char :=
  characters.flatMap fun character =>
    if plain character then [character] else encodeChar character

def hexValue? (character : Char) : Option Nat :=
  if '0' ≤ character ∧ character ≤ '9' then some (character.toNat - 48)
  else if 'a' ≤ character ∧ character ≤ 'f' then some (character.toNat - 87)
  else if 'A' ≤ character ∧ character ≤ 'F' then some (character.toNat - 55)
  else none

def decodeBytes : List Char → List UInt8
  | [] => []
  | '%' :: high :: low :: rest =>
      match hexValue? high, hexValue? low with
      | some h, some l => UInt8.ofNat (16 * h + l) :: decodeBytes rest
      | _, _ => String.utf8EncodeChar '%' ++ decodeBytes (high :: low :: rest)
  | character :: rest => String.utf8EncodeChar character ++ decodeBytes rest

def decode (characters : List Char) : List Char := Utf8.decode (decodeBytes characters)

def isAlphanumeric (character : Char) : Bool :=
  ('0' ≤ character && character ≤ '9') || ('a' ≤ character && character ≤ 'z') ||
    ('A' ≤ character && character ≤ 'Z')

/-- The characters that stand for themselves in a name inside a resource address. -/
def isComponentPlain (character : Char) : Bool :=
  isAlphanumeric character || "-_.!~*'()".toList.contains character

/-- A name as it stands between two slashes of an address; a text in which a surrogate stands
alone cannot be encoded. -/
def encodeComponent? (name : Text) : Option Text :=
  name.toChars?.map fun characters => Text.ofChars (encode isComponentPlain characters)

end BlobStorage.Percent
