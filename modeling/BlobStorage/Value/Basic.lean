import BlobStorage.Headers.Basic
import BlobStorage.Number.Decimal

/-!
# Values and failures

Settings, parameters, causes and abort reasons come from callers and may be anything.  `Value` is
that anything; `Failure` is a value that reports what went wrong.  A failure belongs to a class,
and a class may refine another one, so a failure of the refined class counts as one of both.
-/

namespace BlobStorage

/-- The classes of failures that the platform knows. -/
inductive PlatformClass where
  | error
  | typeError
  | rangeError
  | uriError
  | domException
  deriving DecidableEq

/-- The classes of failures of this library. -/
inductive RequestClass where
  | abort
  | constructUrl
  | missingParameter
  | responseParse
  | timeout
  | transport
  | unexpectedStatus
  | validation
  deriving DecidableEq

/-- A class of failures; a caller's own class has an identity, a name, and the class it refines. -/
inductive ErrorClass where
  | platform (which : PlatformClass)
  | request (which : RequestClass)
  | custom (identity : Text) (name : Text) (parent : ErrorClass)
  deriving DecidableEq

/-- What a failure carries beside its message and cause. -/
inductive DetailOf (α : Type) where
  | none
  | field (name : α)
  | url (text : α)
  | issues (list : α)
  | response (status body : α) (headers : Headers)

/-- A failure over values of type `α`.  A message of the platform's own has no text here. -/
structure FailureOf (α : Type) where
  kind : ErrorClass
  name : α
  message : Option α
  cause : Option α
  detail : DetailOf α

/-- Anything that a caller can hand over. -/
inductive Value where
  | undefined
  | null
  | boolean (b : Bool)
  | number (n : Number)
  | bigint (n : Int)
  | string (text : Text)
  | symbol (description : Text)
  | function
  | list (items : List Value)
  | record (entries : List (Text × Value))
  | failure (failure : FailureOf Value)

instance : Inhabited Value := ⟨.undefined⟩

abbrev Failure := FailureOf Value

abbrev Detail := DetailOf Value

def PlatformClass.name : PlatformClass → Text
  | .error => "Error"
  | .typeError => "TypeError"
  | .rangeError => "RangeError"
  | .uriError => "URIError"
  | .domException => "DOMException"

def RequestClass.name : RequestClass → Text
  | .abort => "AbortError"
  | .constructUrl => "ConstructURLError"
  | .missingParameter => "MissingParameterError"
  | .responseParse => "ResponseParseError"
  | .timeout => "TimeoutError"
  | .transport => "TransportError"
  | .unexpectedStatus => "UnexpectedStatusError"
  | .validation => "ValidationError"

namespace ErrorClass

abbrev error : ErrorClass := .platform .error

def name : ErrorClass → Text
  | .platform which => which.name
  | .request which => which.name
  | .custom _ name _ => name

/-- The name that a failure of a class carries unless it was given another one.  A caller's class
hands down that of the class it refines. -/
def instanceName : ErrorClass → Text
  | .platform .domException => PlatformClass.error.name
  | .platform which => which.name
  | .request which => which.name
  | .custom _ _ parent => parent.instanceName

/-- Whether a class is another one or refines it, at once or through others. -/
def isA (kind target : ErrorClass) : Bool :=
  kind == target || target == error ||
    match kind with
    | .custom _ _ parent => parent.isA target
    | _ => false

/-- The class of this library that a class is or refines. -/
def request? : ErrorClass → Option RequestClass
  | .platform _ => none
  | .request which => some which
  | .custom _ _ parent => parent.request?

end ErrorClass

namespace Value

/-- What a condition makes of a value. -/
def isTruthy : Value → Bool
  | .undefined | .null => false
  | .boolean b => b
  | .number n => !n.isZero && n != .nan
  | .bigint n => n != 0
  | .string text => !text.isEmpty
  | .symbol _ | .function | .list _ | .record _ | .failure _ => true

/-- Neither `null` nor `undefined`. -/
def isPresent : Value → Bool
  | .undefined | .null => false
  | _ => true

def ofNat (n : Nat) : Value := .number (.ofInt n)

def entry? (name : Text) (entries : List (Text × Value)) : Option Value :=
  (entries.find? fun entry => entry.1 == name).map (·.2)

end Value

end BlobStorage
