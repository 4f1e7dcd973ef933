import BlobStorage.Url.Host

/-!
# Tables of characters

A property of characters is a table of runs: how many neighbouring characters share a value, from
the first character on.  A run is written as the count in hexadecimal, a capital letter that names
the value, and what belongs to it.
-/

namespace BlobStorage.Idna

/-- A run of characters with one value. -/
structure Run where
  count : Nat
  kind : Char
  content : List Char

def isCountDigit (character : Char) : Bool :=
  ('0' ≤ character && character ≤ '9') || ('a' ≤ character && character ≤ 'f')

def readHex (digits : List Char) : Nat := (Host.digitsValue? 16 digits).getD 0

def Run.ofText (text : List Char) : Run :=
  let behind := text.dropWhile isCountDigit
  { count := readHex (text.takeWhile isCountDigit)
    kind := behind.headD ' '
    content := behind.drop 1 }

def pieces (lines : List String) : List (List Char) :=
  lines.flatMap fun line => Text.split ' ' line.toList

def readRuns (lines : List String) : List Run := (pieces lines).map Run.ofText

/-- The run of a code point, and how far from its start it stands. -/
def runOf? (codePoint : Nat) : List Run → Option (Run × Nat)
  | [] => none
  | run :: runs =>
      if codePoint < run.count then some (run, codePoint) else runOf? (codePoint - run.count) runs

/-- The letter of the value of a character. -/
def kindOf (runs : List Run) (character : Char) : Char :=
  match runOf? character.toNat runs with
  | some (run, _) => run.kind
  | none => ' '

end BlobStorage.Idna
