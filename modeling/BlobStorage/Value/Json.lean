import BlobStorage.Value.Conversion
import BlobStorage.Value.Record

/-!
# Values as JSON

The issues of a validation stand in its message as JSON.  Members without a JSON form are left out
of records and are `null` in lists, and a surrogate that stands alone is escaped, so that the text
is well formed.  A bigint has no JSON form and spoils everything that contains one.
-/

namespace BlobStorage.Json

def hexDigit (n : Nat) : UInt16 := (Nat.digitChar n).toNat.toUInt16

def escapeUnit (u : UInt16) : Text :=
  "\\u" ++ [hexDigit (u.toNat / 4096), hexDigit (u.toNat / 256 % 16), hexDigit (u.toNat / 16 % 16),
    hexDigit (u.toNat % 16)]

/-- A unit that is no surrogate, inside quotation marks. -/
def quoteUnit (u : UInt16) : Text :=
  if u = Text.unit '"' then "\\\""
  else if u = Text.unit '\\' then "\\\\"
  else if u = 8 then "\\b"
  else if u = 9 then "\\t"
  else if u = 10 then "\\n"
  else if u = 12 then "\\f"
  else if u = 13 then "\\r"
  else if u < 0x20 then escapeUnit u
  else [u]

def quoteUnits : Text → Text
  | [] => []
  | [u] => if Text.isHighSurrogate u || Text.isLowSurrogate u then escapeUnit u else quoteUnit u
  | u :: v :: rest =>
      if Text.isHighSurrogate u then
        if Text.isLowSurrogate v then u :: v :: quoteUnits rest
        else escapeUnit u ++ quoteUnits (v :: rest)
      else if Text.isLowSurrogate u then escapeUnit u ++ quoteUnits (v :: rest)
      else quoteUnit u ++ quoteUnits (v :: rest)

def quote (text : Text) : Text := "\"" ++ quoteUnits text ++ "\""

/-- A number in JSON, where infinities and failed readings are not known. -/
def writeNumber : Number → Text
  | .nan | .infinite _ => "null"
  | number => number.toText

def writeList (items : List Text) : Text := "[" ++ Text.join "," items ++ "]"

def writeRecord (members : List (Text × Text)) : Text :=
  "\x7b" ++ Text.join "," (members.map fun (name, value) => quote name ++ ":" ++ value) ++ "\x7d"

/-- The member of a name, unless its value has no JSON form. -/
def member (name : Text) (value : Option Text) : List (Text × Text) :=
  match value with
  | some text => [(name, text)]
  | none => []

/-- Whether a record brings its own way of being written, which is a function and so leads to
nothing. -/
def writesItself (entries : List (Text × Value)) : Bool :=
  Value.entry? "toJSON" entries matches some .function

mutual

/-- The JSON form of a value: refused (`none`), nothing at all (`some none`), or a text. -/
def write? : Value → Option (Option Text)
  | .undefined | .symbol _ | .function => some none
  | .null => some (some "null")
  | .boolean true => some (some "true")
  | .boolean false => some (some "false")
  | .number n => some (some (writeNumber n))
  | .bigint _ => none
  | .string text => some (some (quote text))
  | .list items => do return some (writeList (← writeItems? items))
  | .record entries =>
      if writesItself entries then some none
      else do return some (writeRecord (← writeMembers? entries))
  | .failure ⟨kind, name, _, _, .issues list⟩ => do
      let named ← if kind.request?.isSome then (write? name).map (member "name") else some []
      let list ← write? list
      return some (writeRecord (named ++ member "issues" list))
  | .failure ⟨kind, name, _, _, _⟩ => do
      let named ← if kind.request?.isSome then (write? name).map (member "name") else some []
      return some (writeRecord named)

/-- The JSON forms of the items of a list, `null` where there is none. -/
def writeItems? : List Value → Option (List Text)
  | [] => some []
  | item :: items => do
      let text ← write? item
      return text.getD "null" :: (← writeItems? items)

def writeMembers? : List (Text × Value) → Option (List (Text × Text))
  | [] => some []
  | (name, value) :: entries => do
      let text ← write? value
      return member name text ++ (← writeMembers? entries)

end

end BlobStorage.Json
