import BlobStorage.Headers.Basic
import BlobStorage.Value.Conversion
import BlobStorage.Value.Record

/-!
# Header options

Header fields come as a record, as a list of pairs, or as fields that were already put together.
Sources are merged in order: a later value takes the place of an earlier one, a value that is absent
removes the field, and a value that is no text, number or truth value is left out.
-/

namespace BlobStorage

/-- Where header fields come from. -/
inductive HeaderOptions where
  | value (value : Value)
  | headers (headers : Headers)

namespace HeaderOptions

def absent : HeaderOptions := .value .undefined

/-- A field of a list of pairs: the first two items of a list, or the first two characters of a
text.  Nothing else can be taken apart. -/
def pair? : Value → Option (Value × Value)
  | .list items => some (items.getD 0 .undefined, items.getD 1 .undefined)
  | .string text =>
      let pieces := text.characters.map Value.string
      some (pieces.getD 0 .undefined, pieces.getD 1 .undefined)
  | _ => none

/-- The fields of a source, with names and values still of any kind; `none` when a pair cannot be
taken apart. -/
def entries? : HeaderOptions → Option (List (Value × Value))
  | .headers source => some (source.entries.map fun (name, text) => (.string name, .string text))
  | .value (.list items) => items.mapM pair?
  | .value (.record entries) => some (entries.map fun (name, item) => (.string name, item))
  | .value (.failure failure) =>
      some ((Record.ofFailure failure).map fun (name, item) => (.string name, item))
  | .value (.string text) =>
      some (text.zipIdx.map fun (u, place) => (.string (Text.ofNat place), .string [u]))
  | .value _ => some []

/-- The text under which a value can be a field. -/
def valueText? : Value → Option Text
  | .boolean b => (Value.boolean b).toText?
  | .number n => some n.toText
  | .bigint n => some (Text.ofInt n)
  | .string text => some text
  | _ => none

/-- One entry merged into fields: an absent value removes, a value with a text sets, any other is
left out; `none` when the name or the text is refused. -/
def mergeEntry (headers : Headers) (entry : Value × Value) : Option Headers :=
  match entry.2 with
  | .undefined | .null => entry.1.toText?.bind headers.delete?
  | other =>
      match valueText? other with
      | some text => entry.1.toText?.bind fun name => headers.set? name text
      | none => some headers

/-- The fields of two sources merged in order, or `none` when one of them is refused. -/
def merge? (first second : HeaderOptions) : Option Headers := do
  (← second.entries?).foldlM mergeEntry (← (← first.entries?).foldlM mergeEntry .empty)

end HeaderOptions

end BlobStorage
