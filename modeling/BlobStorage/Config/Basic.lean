import BlobStorage.Log.Level
import BlobStorage.Schema.Validation
import BlobStorage.Url.Parser

/-!
# Settings of a client

A client needs an account name; everything else has a default or may be left out.  `Config.read`
checks raw settings and fills in the defaults, `Config.ofEnvironment` takes them from environment
variables.
-/

namespace BlobStorage

/-- Settings of a logger. -/
structure LoggingConfig where
  level : LogLevel
  pretty : Bool
  deriving DecidableEq

/-- How long a request may take. -/
inductive RequestTimeout where
  | never
  | milliseconds (count : Number)
  deriving DecidableEq

/-- Settings of a client, complete.  Endpoint and header fields may be left out or be undefined; a
header field without a value takes away one that would be sent otherwise. -/
structure Config where
  accountName : Text
  blobEndpoint : Option (Option Text)
  apiVersion : Text
  requestTimeout : RequestTimeout
  headers : Option (Option (List (Text × Option Text)))
  logging : LoggingConfig
  deriving DecidableEq

namespace Config

/-- The version of the service that requests ask for by default. -/
def defaultApiVersion : Text := "2018-03-28"

def defaultRequestTimeout : Nat := 60000

def isAccountName (name : Text) : Bool :=
  3 ≤ name.length && name.length ≤ 24 && name.all fun u => Text.isLowerLetter u || Text.isDigit u

def accountNameReader : Reader Text :=
  .checkedText isAccountName
    (.malformed "regex" "account name must be 3-24 lowercase letters or digits")

def addressReader : Reader Text :=
  .checkedText (fun text => (Url.ofText? text).isSome) (.malformed "url" "Invalid url")

def someTextReader : Reader Text := .checkedText (fun text => !text.isEmpty) (.tooShort 1)

/-- A reader of timeouts: a positive integer, or `false` for none. -/
def requestTimeoutReader : Reader RequestTimeout :=
  .either (Reader.positiveInteger.map .milliseconds) (Reader.onlyFalse.map fun _ => .never)

/-- A reader of header fields: texts, or `null` for a field that is taken away. -/
def headersReader : Reader (List (Text × Option Text)) := .recordOf (.nullable .text)

/-- A reader of log levels, by their exact names. -/
def logLevelReader : Reader LogLevel :=
  (Reader.oneOf (LogLevel.all.map LogLevel.name)).map fun name =>
    (LogLevel.ofName? name).getD .info

def loggingReader : Reader LoggingConfig :=
  .object fun path entries =>
    .both LoggingConfig.mk
      (Reader.field "level" (logLevelReader.withDefault (.string LogLevel.info.name)) path entries)
      (Reader.field "pretty" (Reader.boolean.withDefault (.boolean false)) path entries)

def reader : Reader Config :=
  .object fun path entries =>
    let account := Reader.field "accountName" accountNameReader path entries
    let endpoint := Reader.optionalField "blobEndpoint" addressReader path entries
    let version :=
      Reader.field "apiVersion" (someTextReader.withDefault (.string defaultApiVersion)) path
        entries
    let timeout :=
      Reader.field "requestTimeoutMs"
        (requestTimeoutReader.withDefault (.ofNat defaultRequestTimeout)) path entries
    let headers := Reader.optionalField "headers" headersReader path entries
    let logging := Reader.field "logging" (loggingReader.withDefault (.record [])) path entries
    let apply {α β : Type} : Verdict (α → β) → Verdict α → Verdict β := .both fun f a => f a
    apply (apply (apply (apply (apply (account.map Config.mk) endpoint) version) timeout) headers)
      logging

/-- The settings that a value holds, or a failure that lists the rules it breaks. -/
def read (value : Value) : Outcome Config := Validation.read reader value

/-- A variable; one that is empty counts as not set. -/
def nonEmpty (value : Value) : Value := if value.isTruthy then value else .undefined

/-- A timeout from the environment: nothing, `false` or `0` for none, or a number. -/
def timeoutVariable : Value → Outcome Value
  | .undefined | .string [] => .ok .undefined
  | .string text =>
      .ok (if text = "false" ∨ text = "0" then .boolean false else .number (.ofText text))
  | value =>
      match value.toNumber? with
      | some n => .ok (.number n)
      | none => .raised .typeError

/-- A switch from the environment: on for `true` and `1`, else off, undefined when not set. -/
def switchVariable (value : Value) : Value :=
  match value with
  | .undefined => .undefined
  | .string text => .boolean (text == "true" || text == "1")
  | _ => .boolean false

/-- Raw settings from environment variables.  A variable that is not set is undefined. -/
def environmentSettings (get : Text → Value) : Outcome Value := do
  let timeout ← timeoutVariable (get "STORAGE_REQUEST_TIMEOUT_MS")
  return .record [
    ("accountName", get "STORAGE_ACCOUNT_NAME"),
    ("blobEndpoint", nonEmpty (get "STORAGE_BLOB_ENDPOINT")),
    ("apiVersion", nonEmpty (get "STORAGE_API_VERSION")),
    ("requestTimeoutMs", timeout),
    ("logging", .record [
      ("level", nonEmpty (get "LOG_LEVEL")),
      ("pretty", switchVariable (get "LOG_PRETTY"))])]

/-- The settings that an environment holds.  One that is undefined holds no variables, and one that
is `null` cannot be asked for any. -/
def ofEnvironment (environment : Value) : Outcome Config :=
  match environment with
  | .null => .raised .typeError
  | _ =>
      (environmentSettings fun name => (environment.member? name).getD .undefined).bind read

end Config

end BlobStorage
