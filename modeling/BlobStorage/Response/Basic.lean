import BlobStorage.Failure.Basic
import BlobStorage.Text.Utf8

/-!
# Responses

A response has a status, header fields and a body.  The body is read only once the response is
there, and reading it may fail.  `checkStatus` compares the status with the only one that means
success; every other response becomes a failure that keeps status, body and header fields.
-/

namespace BlobStorage

abbrev Body := Completion Value

/-- A response; a transport may hand over a status of any kind. -/
structure Response where
  status : Value
  headers : Headers
  body : Body

namespace Response

def textOfBytes (bytes : List UInt8) : Text := Text.ofChars (Utf8.decodeDocument bytes)

/-- The text that comes back from a body that was given as text. -/
def textOfText (text : Text) : Text := textOfBytes (Utf8.encode text.toCharsLossy)

/-- The statuses of responses. -/
def isStatus (status : Nat) : Bool := 200 ≤ status && status ≤ 599

/-- The statuses whose responses have no body. -/
def isBodiless (status : Nat) : Bool := status == 204 || status == 205 || status == 304

/-- The status that a number is taken for: its whole part in sixteen bits. -/
def statusOfNumber (number : Number) : Nat :=
  match number.value? with
  | some value => (value.toRat.num.tdiv value.toRat.den % 65536).toNat
  | none => 0

/-- The status that a value stands for, two hundred unless one is given. -/
def statusOf? : Value → Option Nat
  | .undefined => some 200
  | value => value.toNumber?.map statusOfNumber

/-- A response with a status that is none, or with a body where none may be, cannot be made. -/
def make (status : Value) (headers : Headers) (hasBody : Bool) (body : Body) : Outcome Response :=
  match statusOf? status with
  | none => .raised .typeError
  | some code =>
      if !isStatus code then .raised (.failure (Failure.ofPlatform .rangeError))
      else if hasBody && isBodiless code then .raised .typeError
      else .ok { status := .ofNat code, headers, body }

/-- Equality of two statuses: numbers, texts and truth values compare by content, anything else
never. -/
def sameStatus : Value → Value → Bool
  | .undefined, .undefined | .null, .null => true
  | .boolean a, .boolean b => a == b
  | .number a, .number b => a.equal b
  | .bigint a, .bigint b => a == b
  | .string a, .string b => a == b
  | _, _ => false

/-- What is left of a response that passed the check. -/
structure Extracted where
  headers : Headers
  body : Value

def unreadableBody : Text := "error reading response body"

def unexpected (status : Value) (headers : Headers) (body : Value) : Outcome α :=
  match status.toText? with
  | some text => .failed (Failure.unexpectedStatus text status body headers)
  | none => .raised .typeError

/-- The check of a status once the body was read.  A reading that threw something that no condition
sees counts as a body of `null`. -/
def checkStatus (expected : Value) (response : Response) : Outcome Extracted :=
  match response.body.guarded with
  | .error reason => .failed (Failure.transport unreadableBody (some reason))
  | .ok body? =>
      let body := body?.getD .null
      if sameStatus response.status expected then .ok { headers := response.headers, body }
      else unexpected response.status response.headers body

end Response

end BlobStorage
