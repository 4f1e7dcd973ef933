import BlobStorage.Calendar.Civil

/-!
# Words of a date

The text of a date is cut into numbers, signs, words and blanks.  Words are runs of letters and of
everything that comes behind them in the order of units; they are told apart by their first three
letters.  Text in parentheses is a remark.
-/

namespace BlobStorage.Calendar

/-- What a word stands for. -/
inductive Word where
  | month (number : Nat)
  | half (hours : Nat)
  | zone (hours : Int)
  | timeMark
  | other
  deriving DecidableEq

/-- A piece of the text of a date; numbers and words come with the number of their units. -/
inductive Token where
  | number (value : Nat) (length : Nat)
  | sign (u : UInt16)
  | word (word : Word) (length : Nat)
  | blank
  | remark
  deriving DecidableEq

def knownWords : List (Text × Word) :=
  [("am", .half 0), ("pm", .half 12), ("ut", .zone 0), ("utc", .zone 0), ("z", .zone 0),
    ("gmt", .zone 0), ("cdt", .zone (-5)), ("cst", .zone (-6)), ("edt", .zone (-4)),
    ("est", .zone (-5)), ("mdt", .zone (-6)), ("mst", .zone (-7)), ("pdt", .zone (-7)),
    ("pst", .zone (-8)), ("t", .timeMark)]

/-- The month whose name starts like a word. -/
def monthOf? (word : Text) : Option Nat :=
  (monthNames.findIdx? fun name => Text.lower name == word.take 3).map (· + 1)

/-- What a word stands for, in any case.  The name of a month may go on behind its third letter. -/
def classify (word : Text) : Word :=
  let word := Text.lower word
  match monthOf? word, knownWords.find? fun known => known.1 == word with
  | some month, _ => .month month
  | none, some known => known.2
  | none, none => .other

/-- How many digits of a number count, zeros in front apart. -/
def significantDigits : Nat := 9

def numberToken (digits : Text) : Token :=
  let counted := (digits.dropWhile (· == Text.unit '0')).take significantDigits
  .number ((Text.toNat? 10 counted).getD 0) digits.length

/-- The piece of text that is being read: nothing, digits, a word (both from the last unit on), or a
remark with a number of parentheses to close. -/
inductive Run where
  | nothing
  | digits (reversed : Text)
  | word (reversed : Text)
  | remark (depth : Nat)

def Run.close : Run → List Token
  | nothing => []
  | digits reversed => [numberToken reversed.reverse]
  | word reversed => [.word (classify reversed.reverse) reversed.length]
  | remark _ => [.remark]

/-- A blank between words.  The two separators of lines and paragraphs are blanks elsewhere; here
they belong to words. -/
def isBlank (u : UInt16) : Bool := Text.isBlank u && u != 0x2028 && u != 0x2029

/-- The unit of a word: from the letters on upwards, blanks apart. -/
def isWordUnit (u : UInt16) : Bool := Text.unit 'A' ≤ u && !isBlank u

def isSign (u : UInt16) : Bool := (Text.ofString ":-+.)").contains u

/-- What a unit is that does not go on with a piece. -/
def Run.start (u : UInt16) : List Token × Run :=
  if Text.isDigit u then ([], .digits [u])
  else if isSign u then ([.sign u], .nothing)
  else if isWordUnit u then ([], .word [u])
  else if isBlank u then ([.blank], .nothing)
  else if u = Text.unit '(' then ([], .remark 1)
  else ([.remark], .nothing)

/-- The tokens of a text behind a piece that is being read. -/
def scan : Run → Text → List Token
  | run, [] => run.close
  | .digits reversed, u :: rest =>
      if Text.isDigit u then scan (.digits (u :: reversed)) rest
      else
        let (tokens, run) := Run.start u
        Run.close (.digits reversed) ++ tokens ++ scan run rest
  | .word reversed, u :: rest =>
      if isWordUnit u then scan (.word (u :: reversed)) rest
      else
        let (tokens, run) := Run.start u
        Run.close (.word reversed) ++ tokens ++ scan run rest
  | .remark depth, u :: rest =>
      if u = Text.unit '(' then scan (.remark (depth + 1)) rest
      else if u = Text.unit ')' then
        if depth ≤ 1 then .remark :: scan .nothing rest else scan (.remark (depth - 1)) rest
      else scan (.remark depth) rest
  | .nothing, u :: rest =>
      let (tokens, run) := Run.start u
      tokens ++ scan run rest

/-- The tokens of a text, which ends at its first NUL. -/
def tokens (text : Text) : List Token := scan .nothing (text.takeWhile (· != 0))

end BlobStorage.Calendar
