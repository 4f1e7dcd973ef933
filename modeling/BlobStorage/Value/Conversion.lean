import BlobStorage.Number.Literal
import BlobStorage.Value.Basic

/-!
# Values as text and as numbers

A value that takes part in a message, an address or a header field is converted to text.  A symbol
has no such text unless it is asked for by name (`describe`), a list is the texts of its items, and
a record has one text for all.
-/

namespace BlobStorage.Value

def functionText : Text := "() => undefined"

/-- The text of every record that does not bring its own. -/
def recordText : Text := "[object Object]"

/-- The text of a record: the common one, unless an entry of its own takes the place of the
conversion and is no function. -/
def recordText? (entries : List (Text × Value)) : Option Text :=
  match entry? "toString" entries with
  | none => some recordText
  | some .function => some "undefined"
  | some _ =>
      match entry? "valueOf" entries with
      | some .function => some "undefined"
      | _ => none

/-- The name and the message of a failure, with a colon between two that are not empty. -/
def failureText (name message : Text) : Text :=
  if name.isEmpty then message
  else if message.isEmpty then name
  else name ++ ": " ++ message

/-- A text, or what stands for it when the value is undefined. -/
def orElse (value : Value) (fallback : Text) (text? : Option Text) : Option Text :=
  match value with
  | undefined => some fallback
  | _ => text?

mutual

/-- The text of a value; there is none of a symbol, nor of what contains one. -/
def toText? : Value → Option Text
  | undefined => some "undefined"
  | null => some "null"
  | boolean true => some "true"
  | boolean false => some "false"
  | number n => some n.toText
  | bigint n => some (Text.ofInt n)
  | string text => some text
  | symbol _ => none
  | function => some functionText
  | list items => (itemTexts? items).map (Text.join ",")
  | record entries => recordText? entries
  | failure ⟨_, name, some message, _, _⟩ => do
      return failureText (← name.orElse "Error" name.toText?) (← message.orElse [] message.toText?)
  | failure ⟨_, name, none, _, _⟩ => name.orElse "Error" name.toText?

/-- The texts of the items of a list; one that is absent is empty. -/
def itemTexts? : List Value → Option (List Text)
  | [] => some []
  | undefined :: items | null :: items => (itemTexts? items).map ([] :: ·)
  | item :: items => do return (← item.toText?) :: (← itemTexts? items)

end

/-- The text of a value that was asked for: a symbol shows its description. -/
def describe? : Value → Option Text
  | symbol description => some ("Symbol(" ++ description ++ ")")
  | value => value.toText?

@[simp] theorem toText?_string (text : Text) : (string text).toText? = some text := by
  rw [toText?]

@[simp] theorem describe?_string (text : Text) : (string text).describe? = some text :=
  toText?_string text

@[simp] theorem describe?_number (n : Number) : (number n).describe? = some n.toText := by
  change (number n).toText? = _
  rw [toText?]

@[simp] theorem describe?_bigint (n : Int) : (bigint n).describe? = some (Text.ofInt n) := by
  change (bigint n).toText? = _
  rw [toText?]

@[simp] theorem describe?_record (entries : List (Text × Value)) :
    (record entries).describe? = recordText? entries := by
  change (record entries).toText? = _
  rw [toText?]

/-- The number that a value stands for; there is none of a symbol. -/
def toNumber? : Value → Option Number
  | undefined => some .nan
  | null | boolean false => some .zero
  | boolean true => some (.ofInt 1)
  | number n => some n
  | bigint n => some (.ofInt n)
  | string text => some (.ofText text)
  | symbol _ => none
  | value => value.toText?.map .ofText

end BlobStorage.Value
