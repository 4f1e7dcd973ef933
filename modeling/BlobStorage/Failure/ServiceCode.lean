import BlobStorage.Failure.Basic

/-!
# What the service says about a failed request

The service names the kind of an error in a header, and in the `Code` element of the document in
the body.  The header wins unless it is empty; in the body the first element counts that is closed
and holds text and nothing else.
-/

namespace BlobStorage.ServiceCode

def behind? (opening text : Text) : Option Text :=
  if opening.isPrefixOf text then some (text.drop opening.length) else none

/-- The content of the `Code` element that a text starts with. -/
def elementAt? (text : Text) : Option Text := do
  let rest ← behind? "<Code>" text
  let content := rest.takeWhile (· != Text.unit '<')
  let _ ← behind? "</Code>" (rest.dropWhile (· != Text.unit '<'))
  if content.isEmpty then none else some content

def ofBody? : Text → Option Text
  | [] => none
  | u :: rest => (elementAt? (u :: rest)).or (ofBody? rest)

def codeHeader : Text := "x-ms-error-code"

def requestIdHeader : Text := "x-ms-request-id"

/-- The kind of an error, from headers and body.  The body is only looked at when the header says
nothing, and it has to have a text then. -/
def ofResponse (body : Value) (headers : Headers) : Outcome (Option Text) :=
  match headers.get? codeHeader with
  | some (u :: code) => .ok (some (u :: code))
  | _ => (Failure.textOrRaise body).map ofBody?

end BlobStorage.ServiceCode

namespace BlobStorage.Failure

def errorCode (failure : Failure) : Outcome (Option Text) :=
  match failure.detail with
  | .response _ body headers => ServiceCode.ofResponse body headers
  | _ => .ok none

def requestId? (failure : Failure) : Option Text :=
  match failure.detail with
  | .response _ _ headers => headers.get? ServiceCode.requestIdHeader
  | _ => none

end BlobStorage.Failure
