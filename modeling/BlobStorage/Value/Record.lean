import BlobStorage.Value.Basic

/-!
# Entries

A record lists the entries whose names are indices first, by the size of the index, and then the
others in the order in which they were added.  Adding a name again changes its value and leaves its
place.  An index is a number below `2 ^ 32 - 1` in canonical decimal digits.  A failure has entries
too, some of its own and some that it shares with its class.
-/

namespace BlobStorage.Record

/-- The index that a name spells. -/
def index? (name : Text) : Option Nat :=
  (Text.toNat? 10 name).filter fun n => n < Nat.pow 2 32 - 1 && Text.ofNat n == name

/-- Entries with one more: in the place of its name if that is there, else at the end. -/
def put (entries : List (Text × α)) (name : Text) (value : α) : List (Text × α) :=
  if entries.any (·.1 == name) then
    entries.map fun entry => if entry.1 == name then (name, value) else entry
  else entries ++ [(name, value)]

/-- Entries in the order of a record: indices by size, then the other names as they come. -/
def ordered (entries : List (Text × α)) : List (Text × α) :=
  let indexed := entries.filterMap fun entry => (index? entry.1).map (·, entry)
  (indexed.mergeSort fun left right => left.1 ≤ right.1).map (·.2) ++
    entries.filter fun entry => (index? entry.1).isNone

/-- The record that results from adding entries one after another. -/
def ofEntries (entries : List (Text × α)) : List (Text × α) :=
  ordered (entries.foldl (fun record entry => put record entry.1 entry.2) [])

/-- The entries that a failure has of its own: the classes of this library name themselves, and a
validation lists its issues. -/
def ofFailure (failure : Failure) : List (Text × Value) :=
  (if failure.kind.request?.isSome then [(Text.ofString "name", failure.name)] else []) ++
    match failure.detail with
    | .issues list => [(Text.ofString "issues", list)]
    | _ => []

/-- The members of a platform exception that are numbers: the code of its own kind and those of all
kinds. -/
def exceptionCodes : List Text :=
  ["code", "INDEX_SIZE_ERR", "DOMSTRING_SIZE_ERR", "HIERARCHY_REQUEST_ERR", "WRONG_DOCUMENT_ERR",
    "INVALID_CHARACTER_ERR", "NO_DATA_ALLOWED_ERR", "NO_MODIFICATION_ALLOWED_ERR", "NOT_FOUND_ERR",
    "NOT_SUPPORTED_ERR", "INUSE_ATTRIBUTE_ERR", "INVALID_STATE_ERR", "SYNTAX_ERR",
    "INVALID_MODIFICATION_ERR", "NAMESPACE_ERR", "INVALID_ACCESS_ERR", "VALIDATION_ERR",
    "TYPE_MISMATCH_ERR", "SECURITY_ERR", "NETWORK_ERR", "ABORT_ERR", "URL_MISMATCH_ERR",
    "QUOTA_EXCEEDED_ERR", "TIMEOUT_ERR", "INVALID_NODE_TYPE_ERR", "DATA_CLONE_ERR"]

/-- The entries that a failure shows to those who go through all of them, also those that it shares
with the others of its class.  A platform exception shares its name and its codes. -/
def listed (failure : Failure) : List (Text × Value) :=
  ofFailure failure ++
    if failure.kind.isA (.platform .domException) then
      (Text.ofString "name", failure.name) ::
        exceptionCodes.zipIdx.map fun (name, code) => (name, .ofNat code)
    else []

/-- What header fields show to those who go through them like a record: what can be done with
them. -/
def headerOperations : List Text :=
  ["append", "delete", "get", "has", "set", "getSetCookie", "keys", "values", "entries", "forEach"]

/-- Everything that a failure answers to by name, as far as its detail goes. -/
def membersOf (failure : Failure) : List (Text × Value) :=
  ofFailure failure ++
    match failure.detail with
    | .none | .issues _ => []
    | .field name => [(Text.ofString "field", name)]
    | .url text => [(Text.ofString "url", text)]
    | .response status body _ =>
        [(Text.ofString "status", status), (Text.ofString "body", body),
          (Text.ofString "headers", .record (headerOperations.map (·, .function)))]

end BlobStorage.Record

namespace BlobStorage

/-- What stands under a name, undefined if nothing does.  An absent value cannot be asked. -/
def Value.member? (name : Text) : Value → Option Value
  | undefined | null => none
  | record entries => some ((Value.entry? name entries).getD undefined)
  | failure reported => some ((Value.entry? name (Record.membersOf reported)).getD undefined)
  | _ => some undefined

end BlobStorage
