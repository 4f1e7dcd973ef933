import BlobStorage.Calendar.Reading
import BlobStorage.Failure.Basic
import BlobStorage.Schema.Validation

/-!
# The response to a delete

The header fields of a successful delete name the request, and may repeat the identifier that the
client chose, name the version of the service, give a date, and say whether the blob is gone for
good.
-/

namespace BlobStorage.DeleteBlob

/-- What a successful delete reports; the date is in milliseconds from the start of 1970. -/
structure Response where
  requestId : Text
  clientRequestId : Option Text
  version : Option Text
  date : Option Int
  deleteTypePermanent : Option Bool
  deriving DecidableEq

namespace Response

def requestIdReader : Reader Text := .checkedText (fun text => !text.isEmpty) (.tooShort 1)

def dateReader : Reader Int := fun path value =>
  match Reader.text path value with
  | .valid text =>
      match Calendar.readDate? text with
      | some instant => .valid instant
      | none => .unchecked [.refused "invalid HTTP date" path]
  | .unchecked issues => .unchecked issues
  | .invalid issues => .invalid issues

def flagReader : Reader Bool := (Reader.oneOf ["true", "false"]).map (· == Text.ofString "true")

def reader : Reader Response :=
  .object fun path entries =>
    let requestId := Reader.field "x-ms-request-id" requestIdReader path entries
    let clientRequestId :=
      Reader.field "x-ms-client-request-id" (Reader.text.optional) path entries
    let version := Reader.field "x-ms-version" (Reader.text.optional) path entries
    let date := Reader.field "date" dateReader.optional path entries
    let flag := Reader.field "x-ms-delete-type-permanent" flagReader.optional path entries
    let apply {α β : Type} : Verdict (α → β) → Verdict α → Verdict β := .both fun f a => f a
    apply (apply (apply (apply (requestId.map Response.mk) clientRequestId) version) date) flag

def unreadableHeaders : Text := "error parsing delete blob response headers"

/-- What header fields report, or a failure whose cause lists the fields that do not fit. -/
def ofHeaders (headers : Headers) : Outcome Response :=
  let fields := headers.view.map fun (name, text) => (name, Value.string text)
  match Validation.read reader (.record fields) with
  | .ok response => .ok response
  | .failed failure => .failed (Failure.responseParse unreadableHeaders (some (.failure failure)))
  | .raised reason => .raised reason

end Response

end BlobStorage.DeleteBlob
