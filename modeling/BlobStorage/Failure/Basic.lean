import BlobStorage.Outcome
import BlobStorage.Value.Json

/-!
# Making failures

One function for each kind of failure that the library reports, with its wording.  `Failure.create`
makes a failure of any class from the arguments that its class takes, as a caller would.
-/

namespace BlobStorage

namespace Failure

/-- A failure of a class with a message and without a cause. -/
def plain (kind : ErrorClass) (message : Text) : Failure :=
  { kind, name := .string kind.instanceName, message := some (.string message), cause := none
    detail := .none }

/-- A failure that the platform words itself. -/
def ofPlatform (which : PlatformClass) : Failure :=
  { plain (.platform which) [] with message := none }

def withCause (failure : Failure) (cause : Option Value) : Failure := { failure with cause }

def ofRequest (which : RequestClass) (message : Text) (cause : Option Value) : Failure :=
  (plain (.request which) message).withCause cause

/-- The reason of an abort for which no reason was given. -/
def platformAbort : Failure :=
  { ofPlatform .domException with name := .string RequestClass.abort.name }

def abort (message : Text) (cause : Option Value) : Failure := ofRequest .abort message cause

def timeout (milliseconds : Text) : Failure :=
  ofRequest .timeout ("error request timed out after " ++ milliseconds ++ "ms") none

/-- A request never led to a response that could be read. -/
def transport (message : Text) (cause : Option Value) : Failure :=
  ofRequest .transport message cause

def missingParameterMessage (field : Text) : Text := "error missing required parameter " ++ field

def missingParameter (field : Text) : Failure :=
  { ofRequest .missingParameter (missingParameterMessage field) none with
    detail := .field (.string field) }

def constructUrl (message : Text) (url : Value) (cause : Option Value) : Failure :=
  { ofRequest .constructUrl message cause with detail := .url url }

def responseParse (message : Text) (cause : Option Value) : Failure :=
  ofRequest .responseParse message cause

def unexpectedStatusMessage (status : Text) : Text := "error unexpected status " ++ status

/-- The service answered with another status than the expected one; the failure keeps a copy of
the headers. -/
def unexpectedStatus (statusText : Text) (status body : Value) (headers : Headers) : Failure :=
  { ofRequest .unexpectedStatus (unexpectedStatusMessage statusText) none with
    detail := .response status body headers.copy }

/-- The message that lists issues; there is none when the issues have no JSON form. -/
def validationMessage? (message : Text) (issues : Value) : Option Text :=
  (Json.write? issues).map fun written =>
    message ++ "; issues: " ++ written.getD "undefined"

/-- A value broke the rules of a schema; there is no such failure when the issues have no JSON
form. -/
def validation? (message : Text) (issues : Value) (cause : Option Value) : Option Failure :=
  (validationMessage? message issues).map fun text =>
    { ofRequest .validation text cause with detail := .issues issues }

end Failure

/-- The error that the platform throws on a value of the wrong kind. -/
def Value.typeError : Value := .failure (Failure.ofPlatform .typeError)

namespace Failure

/-- The arguments from which a failure is made; those that its class does not take are ignored. -/
structure Arguments where
  message : Value := .undefined
  cause : Option Value := none
  name : Option Value := none
  rawMessage : Option Value := none
  field : Value := .undefined
  url : Value := .undefined
  issues : Value := .undefined
  status : Value := .undefined
  body : Value := .undefined
  headers : Headers := .empty

/-- A text that a value has to have, or the platform's error about it. -/
def textOrRaise (value : Value) : Outcome Text :=
  match value.toText? with
  | some text => .ok text
  | none => .raised .typeError

/-- The message of a failure made from arguments: the given one, or that of its class. -/
def messageOf (kind : ErrorClass) (arguments : Arguments) : Outcome Text := do
  let given : Outcome (Option Text) :=
    match arguments.message with
    | .undefined => .ok none
    | message => (textOrRaise message).map some
  match kind.request? with
  | some .missingParameter =>
      match ← given with
      | some message => .ok message
      | none => (textOrRaise arguments.field).map missingParameterMessage
  | some .unexpectedStatus =>
      match ← given with
      | some message => .ok message
      | none => (textOrRaise arguments.status).map unexpectedStatusMessage
  | some .validation =>
      match validationMessage? ((← given).getD []) arguments.issues with
      | some message => .ok message
      | none => .raised .typeError
  | _ => (← given).getD [] |> .ok

/-- The name of a failure made from arguments: the given one, or that of its class.  A platform
exception takes the text of what it is given. -/
def nameOf (kind : ErrorClass) (arguments : Arguments) : Outcome Value :=
  match arguments.name with
  | none => .ok (.string kind.instanceName)
  | some name =>
      if kind != .platform .domException then .ok name
      else
        match name with
        | .undefined => .ok (.string kind.instanceName)
        | name => (textOrRaise name).map .string

/-- A failure of any class, made from arguments.  A name or a message that was given on its own
stands in place of that of the class. -/
def create (kind : ErrorClass) (arguments : Arguments) : Outcome Failure := do
  let name ← nameOf kind arguments
  let message ← messageOf kind arguments
  let detail : Detail :=
    match kind.request? with
    | some .missingParameter => .field arguments.field
    | some .constructUrl => .url arguments.url
    | some .validation => .issues arguments.issues
    | some .unexpectedStatus => .response arguments.status arguments.body arguments.headers.copy
    | _ => .none
  return {
    kind
    name
    message := some (arguments.rawMessage.getD (.string message))
    cause := arguments.cause
    detail }

end Failure

end BlobStorage
