import BlobStorage.Schema.Issue
import BlobStorage.Value.Record

/-!
# Reading values by rules

A reader turns a value into one of a known type, or lists every rule that the value breaks.  It
tells apart a value of the wrong kind and a value of the right kind that fails a check: of several
alternatives the one that got the kind right reports its own checks.
-/

namespace BlobStorage

/-- What a reader makes of a value: a reading, checks that failed on a value of the right kind, or
a value of the wrong kind. -/
inductive Verdict (α : Type) where
  | valid (value : α)
  | unchecked (issues : List Issue)
  | invalid (issues : List Issue)

namespace Verdict

def issues : Verdict α → List Issue
  | valid _ => []
  | unchecked issues | invalid issues => issues

def value? : Verdict α → Option α
  | valid value => some value
  | unchecked _ | invalid _ => none

def map (f : α → β) : Verdict α → Verdict β
  | valid value => valid (f value)
  | unchecked issues => unchecked issues
  | invalid issues => invalid issues

/-- Two verdicts on parts of one value: both readings, or the broken rules of both. -/
def both (f : α → β → γ) : Verdict α → Verdict β → Verdict γ
  | valid a, valid b => valid (f a b)
  | invalid first, second => invalid (first ++ second.issues)
  | first, invalid second => invalid (first.issues ++ second)
  | first, second => unchecked (first.issues ++ second.issues)

/-- The verdict on a value of the right kind, from the checks that it fails. -/
def ofChecks (value : α) (issues : List Issue) : Verdict α :=
  if issues.isEmpty then valid value else unchecked issues

end Verdict

abbrev Reader (α : Type) := List Text → Value → Verdict α

namespace Reader

def kindName : Value → Text
  | .undefined => "undefined"
  | .null => "null"
  | .boolean _ => "boolean"
  | .number .nan => "nan"
  | .number _ => "number"
  | .bigint _ => "bigint"
  | .string _ => "string"
  | .symbol _ => "symbol"
  | .function => "function"
  | .list _ => "array"
  | .record entries =>
      if (Value.entry? "then" entries matches some .function) &&
          (Value.entry? "catch" entries matches some .function) then "promise"
      else "object"
  | .failure _ => "object"

def wrongKind (expected : Text) (path : List Text) (value : Value) : Verdict α :=
  .invalid [.wrongKind expected (kindName value) path]

def text : Reader Text := fun path value =>
  match value with
  | .string text => .valid text
  | other => wrongKind "string" path other

/-- A text that passes a check; one that fails it breaks the rule that the check stands for. -/
def checkedText (passes : Text → Bool) (issue : List Text → Issue) : Reader Text :=
  fun path value =>
  match text path value with
  | .valid text => .ofChecks text (if passes text then [] else [issue path])
  | other => other

def boolean : Reader Bool := fun path value =>
  match value with
  | .boolean b => .valid b
  | other => wrongKind "boolean" path other

/-- A positive integer; both checks are made. -/
def positiveInteger : Reader Number := fun path value =>
  match value with
  | .number .nan => wrongKind "number" path value
  | .number n =>
      .ofChecks n <|
        (if n.isInteger then [] else [.notInteger path]) ++
          (if n.isPositive then [] else [.notPositive path])
  | other => wrongKind "number" path other

/-- The truth value `false` and nothing else. -/
def onlyFalse : Reader Unit := fun path value =>
  match value with
  | .boolean false => .valid ()
  | other => .invalid [.notFalse other path]

def oneOf (options : List Text) : Reader Text := fun path value =>
  match value with
  | .string text =>
      if options.contains text then .valid text else .invalid [.notAmong options text path]
  | other => .invalid [.noText options (kindName other) path]

/-- The first of two readers that accepts a value.  If neither does, the one reports that got the
kind right, or else both attempts are reported. -/
def either (first second : Reader α) : Reader α := fun path value =>
  match first path value, second path value with
  | .valid reading, _ => .valid reading
  | _, .valid reading => .valid reading
  | .unchecked issues, _ => .unchecked issues
  | _, .unchecked issues => .unchecked issues
  | .invalid left, .invalid right => .invalid [.noAlternative [left, right] path]

def map (f : α → β) (reader : Reader α) : Reader β := fun path value => (reader path value).map f

def optional (reader : Reader α) : Reader (Option α) := fun path value =>
  match value with
  | .undefined => .valid none
  | other => (reader path other).map some

def nullable (reader : Reader α) : Reader (Option α) := fun path value =>
  match value with
  | .null => .valid none
  | other => (reader path other).map some

/-- A value that may be undefined and then stands for another one. -/
def withDefault (fallback : Value) (reader : Reader α) : Reader α := fun path value =>
  match value with
  | .undefined => reader path fallback
  | other => reader path other

/-- The entries of a record, or those of a failure that `ofFailure` picks. -/
def entries? (ofFailure : Failure → List (Text × Value)) : Value → Option (List (Text × Value))
  | .record entries => if kindName (.record entries) = "object" then some entries else none
  | .failure failure => some (ofFailure failure)
  | _ => none

/-- A record, whose entries `read` asks for by name. -/
def object (read : List Text → List (Text × Value) → Verdict α) : Reader α := fun path value =>
  match entries? Record.membersOf value with
  | some entries => read path entries
  | none => wrongKind "object" path value

/-- The entry of a name, undefined when there is none. -/
def field (name : Text) (reader : Reader α) (path : List Text) (entries : List (Text × Value)) :
    Verdict α :=
  reader (path ++ [name]) ((Value.entry? name entries).getD .undefined)

/-- An optional entry of a name, told apart from one that is not there at all. -/
def optionalField (name : Text) (reader : Reader α) (path : List Text)
    (entries : List (Text × Value)) : Verdict (Option (Option α)) :=
  match Value.entry? name entries with
  | none => .valid none
  | some value => (optional reader (path ++ [name]) value).map some

/-- The name that a record does not keep. -/
def droppedName : Text := "__proto__"

/-- All entries of a record, each read in the same way; one under `__proto__` is read and
dropped. -/
def eachEntry (reader : Reader α) (path : List Text) :
    List (Text × Value) → Verdict (List (Text × α))
  | [] => .valid []
  | (name, value) :: entries =>
      .both
        (fun reading readings =>
          if name = droppedName then readings else (name, reading) :: readings)
        (reader (path ++ [name]) value) (eachEntry reader path entries)

/-- A record whose entries are all read in the same way. -/
def recordOf (reader : Reader α) : Reader (List (Text × α)) := fun path value =>
  match entries? Record.listed value with
  | some entries => eachEntry reader path entries
  | none => wrongKind "object" path value

end Reader

end BlobStorage
