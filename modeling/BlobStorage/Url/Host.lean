import BlobStorage.Url.Basic

/-!
# Reading hosts

The host of a special scheme is an address of eight pieces in brackets, an address of four bytes, or
a domain name.  Four bytes may be written with fewer parts and in other bases; a name whose last
label looks like a number has to be such an address.
-/

namespace BlobStorage

namespace Host

/-- The number that digits of a base spell; no digits spell zero. -/
def digitsValue? (base : Nat) (digits : List Char) : Option Nat :=
  digits.foldlM
    (fun value c =>
      match Percent.hexValue? c with
      | some digit => if digit < base then some (value * base + digit) else none
      | none => none)
    0

/-- A part of an address of four bytes: hexadecimal behind `0x`, octal behind `0`, else decimal. -/
def ipv4Part? : List Char → Option Nat
  | [] => none
  | '0' :: 'x' :: digits | '0' :: 'X' :: digits => digitsValue? 16 digits
  | '0' :: c :: digits => digitsValue? 8 (c :: digits)
  | digits => digitsValue? 10 digits

/-- The parts of an address between dots; a dot at the end does not count. -/
def dottedParts (name : List Char) : List (List Char) :=
  let parts := Text.split '.' name
  if 1 < parts.length ∧ parts.getLast? = some [] then parts.dropLast else parts

/-- The address that parts stand for: each but the last is one byte, the last one fills up the rest.
-/
def ipv4OfParts? (used : Nat) : List Nat → Option Nat
  | [] => none
  | [last] => if last < Nat.pow 256 (4 - used) then some last else none
  | part :: parts =>
      if part < 256 then (ipv4OfParts? (used + 1) parts).map (part * Nat.pow 256 (3 - used) + ·)
      else none

def readIpv4? (name : List Char) : Option Host := do
  let parts := dottedParts name
  if 4 < parts.length then none
  else
    let numbers ← parts.mapM ipv4Part?
    (ipv4OfParts? 0 numbers).map ipv4

/-- Whether the last label of a name makes it an address of four bytes. -/
def endsInNumber (name : List Char) : Bool :=
  let parts := Text.split '.' name
  let last? :=
    if parts.getLast? = some [] then (if parts.length ≤ 1 then none else parts.dropLast.getLast?)
    else parts.getLast?
  match last? with
  | some last =>
      (!last.isEmpty && last.all fun c => '0' ≤ c && c ≤ '9') || (ipv4Part? last).isSome
  | none => false

/-- A decimal byte without leading zeros. -/
def strictByte? (digits : List Char) : Option Nat :=
  if digits.isEmpty || 3 < digits.length then none
  else if 1 < digits.length && digits.head? == some '0' then none
  else (digitsValue? 10 digits).filter (· < 256)

/-- A piece of an address of eight pieces: one to four hexadecimal digits. -/
def ipv6Piece? (digits : List Char) : Option Nat :=
  if digits.isEmpty || 4 < digits.length then none else digitsValue? 16 digits

/-- Pieces between colons; the last two may be written as four bytes. -/
def ipv6Pieces? : List (List Char) → Option (List Nat)
  | [] => some []
  | [last] =>
      if last.contains '.' then
        match (Text.split '.' last).mapM strictByte? with
        | some [a, b, c, d] => some [a * 256 + b, c * 256 + d]
        | _ => none
      else (ipv6Piece? last).map ([·])
  | digits :: rest => do return (← ipv6Piece? digits) :: (← ipv6Pieces? rest)

/-- The text before and behind the first two colons that stand together. -/
def splitAtGap : List Char → Option (List Char × List Char)
  | ':' :: ':' :: rest => some ([], rest)
  | c :: rest => (splitAtGap rest).map fun (before, behind) => (c :: before, behind)
  | [] => none

/-- The pieces that text between colons stands for; none for no text. -/
def ipv6Side? (text : List Char) : Option (List Nat) :=
  if text.isEmpty then some [] else ipv6Pieces? (Text.split ':' text)

/-- An address of eight pieces, of which one run of zeros may be left out. -/
def readIpv6? (text : List Char) : Option Host :=
  match splitAtGap text with
  | none => ((ipv6Pieces? (Text.split ':' text)).filter (·.length = 8)).map ipv6
  | some (before, behind) => do
      let left ← if before.contains '.' then none else ipv6Side? before
      let right ← ipv6Side? behind
      if left.length + right.length ≤ 7 then
        some (ipv6 (left ++ List.replicate (8 - left.length - right.length) 0 ++ right))
      else none

def isForbidden (character : Char) : Bool :=
  "\x00\t\n\r #/:<>?@[\\]^|".toList.contains character

def isForbiddenInDomain (character : Char) : Bool :=
  isForbidden character || character ≤ '\x1f' || character == '%' || character == '\x7f'

def lowerChar (character : Char) : Char :=
  if 'A' ≤ character ∧ character ≤ 'Z' then Char.ofNat (character.toNat + 32) else character

end Host

end BlobStorage
