import BlobStorage.Log.Level
import BlobStorage.Value.Plain

/-!
# Log entries

An entry has a level, a message, and the fields that its occasion calls for.  `LogEntry.line` is the
entry as a log shows it: values are plain there, and an error is known by the name of its class.
-/

namespace BlobStorage

/-- What a logger is handed. -/
structure LogEntry where
  level : LogLevel
  message : Text
  verb : Option Text := none
  uri : Option Text := none
  container : Option Value := none
  blob : Option Value := none
  headers : Option (List (Text × Text)) := none
  error : Option Value := none

namespace LogLevel

/-- The entries that a logger of a level writes; one without a level writes none. -/
def written (level : Option LogLevel) (entries : List LogEntry) : List LogEntry :=
  entries.filter fun entry => level.any (·.writes entry.level)

end LogLevel

/-- What a log shows of an error: the name of its type, or a plain value. -/
inductive LoggedError where
  | named (type : Text)
  | value (value : Value)

namespace LoggedError

/-- The type of a record that has a message: that of all records, unless an entry of its own stands
in the way; then it is the name that the record gives itself. -/
def recordType (entries : List (Text × Value)) : Value :=
  match Value.entry? "constructor" entries with
  | none => .string "Object"
  | some .function => .string []
  | some _ =>
      match (Value.entry? "name" entries).getD .undefined with
      | .undefined => (Value.entry? "type" entries).getD .undefined
      | name => name

/-- The trace that a record brings, or an empty one. -/
def recordTrace (entries : List (Text × Value)) : Value :=
  match (Value.entry? "stack" entries).filter Value.isTruthy with
  | some trace => trace
  | none => .string []

/-- What is written of an error: its type among other things if it has a message, else its
entries. -/
def fields : Value → Value
  | .failure failure =>
      match failure.message with
      | none | some (.string _) => .record [("type", .string failure.kind.name)]
      | _ => .failure failure
  | .record entries =>
      if Value.entry? "message" entries matches some (.string _) then
        .record (Record.put (Record.put entries "type" (recordType entries)) "stack"
          (recordTrace entries))
      else .record entries
  | other => other

/-- What a log shows of any value in the place of an error; nothing of one that cannot be
written. -/
def ofValue? (error : Value) : Option LoggedError :=
  (Plain.ofValue (fields error)).map fun plain =>
    match plain.member? "type" with
    | some (.string type) => .named type
    | _ => .value plain

end LoggedError

/-- An entry as a log shows it. -/
structure LogLine where
  level : LogLevel
  message : Text
  verb : Option Text
  uri : Option Text
  container : Option Value
  blob : Option Value
  headers : Option (List (Text × Text))
  error : Option LoggedError

def LogEntry.line (entry : LogEntry) : LogLine where
  level := entry.level
  message := entry.message
  verb := entry.verb
  uri := entry.uri
  container := entry.container.bind Plain.ofValue
  blob := entry.blob.bind Plain.ofValue
  headers := entry.headers
  error := entry.error.bind LoggedError.ofValue?

end BlobStorage
