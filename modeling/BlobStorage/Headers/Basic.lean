import BlobStorage.Text.Units

/-!
# Header fields

A header field has a name, which is a token and compares without regard to case, and values, which
are texts of one byte a unit without NUL or a line end, and without blanks at their ends.  Several
values under one name read as one text.  `append?`, `set?` and `delete?` refuse a field that cannot
be sent; `view` is the record of what a reader sees, sorted by name.
-/

namespace BlobStorage

/-- Header fields in the order in which their values were added; names are in lower case. -/
structure Headers where
  fields : List (Text × Text)
  deriving DecidableEq

namespace Headers

def empty : Headers := ⟨[]⟩

instance : Inhabited Headers := ⟨empty⟩

def isTokenUnit (u : UInt16) : Bool :=
  Text.isDigit u || Text.isLetter u || (Text.ofString "!#$%&'*+-.^_\x60|~").contains u

def isName (name : Text) : Bool := !name.isEmpty && name.all isTokenUnit

/-- The blanks that do not belong to a field value at its ends. -/
def isEdgeBlank (u : UInt16) : Bool := u == 9 || u == 10 || u == 13 || u == 32

/-- A field value without the blanks at its ends. -/
def normalizeValue (value : Text) : Text := Text.trim isEdgeBlank value

/-- A text that can be sent as a field value: one byte a unit, without NUL, CR and LF. -/
def isValidValue (value : Text) : Bool :=
  value.all fun u => u != 0 && u != 10 && u != 13 && u < 0x100

def valuesOf (headers : Headers) (name : Text) : List Text :=
  (headers.fields.filter fun field => field.1 == name).map (·.2)

/-- What stands between two values of one name. -/
def separator (name : Text) : Text := if name = Text.ofString "cookie" then "; " else ", "

/-- The text that a reader gets for a name in any case. -/
def get? (headers : Headers) (name : Text) : Option Text :=
  match headers.valuesOf (Text.lower name) with
  | [] => none
  | values => some (Text.join (separator (Text.lower name)) values)

def without (headers : Headers) (name : Text) : Headers :=
  ⟨headers.fields.filter fun field => field.1 != name⟩

def append? (headers : Headers) (name value : Text) : Option Headers :=
  if isName name && isValidValue (normalizeValue value) then
    some ⟨headers.fields ++ [(Text.lower name, normalizeValue value)]⟩
  else none

/-- One value under a name, in place of all that stood there. -/
def set? (headers : Headers) (name value : Text) : Option Headers :=
  if isName name && isValidValue (normalizeValue value) then
    some ⟨(headers.without (Text.lower name)).fields ++ [(Text.lower name, normalizeValue value)]⟩
  else none

/-- No value under a name. -/
def delete? (headers : Headers) (name : Text) : Option Headers :=
  if isName name then some (headers.without (Text.lower name)) else none

/-- Fields appended one after another to none, or `none` when one is refused. -/
def ofFields? (fields : List (Text × Text)) : Option Headers :=
  fields.foldlM (fun headers field => headers.append? field.1 field.2) empty

/-- The names in use, each once, sorted. -/
def names (headers : Headers) : List Text :=
  (headers.fields.map (·.1)).eraseDups.mergeSort Text.lessOrEqual

/-- The name whose values are never joined. -/
def cookieSetter : Text := "set-cookie"

/-- What a reader sees who goes through the fields by name: one text for each name, and the values
of `set-cookie` one by one. -/
def entries (headers : Headers) : List (Text × Text) :=
  headers.names.flatMap fun name =>
    if name = cookieSetter then (headers.valuesOf name).map (name, ·)
    else [(name, Text.join (separator name) (headers.valuesOf name))]

/-- The fields as a record sorted by name; a name that is seen several times keeps its last text. -/
def view (headers : Headers) : List (Text × Text) :=
  headers.names.map fun name =>
    if name = cookieSetter then (name, (headers.valuesOf name).getLastD [])
    else (name, Text.join (separator name) (headers.valuesOf name))

/-- A separate copy.  Values that were joined are one value of the copy, without the blanks at its
ends. -/
def copy (headers : Headers) : Headers :=
  ⟨headers.entries.map fun field => (field.1, normalizeValue field.2)⟩

end Headers

end BlobStorage
