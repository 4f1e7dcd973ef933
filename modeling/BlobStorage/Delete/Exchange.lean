import BlobStorage.Client.Exchange
import BlobStorage.Delete.Builder
import BlobStorage.Delete.Response

/-!
# Carrying out a delete

A delete goes through the request, the exchange, the body of the response, its status and its header
fields; the first of these that fails decides the outcome.  These are the steps between the events
of a run: `prepare` before anything is sent, `afterExchange` when the client has a reply, and
`afterBody` when the body was read.
-/

namespace BlobStorage.DeleteBlob

/-- How a client's exchange ended: with a reply, with an error that a condition sees, or by breaking
off. -/
inductive Performed where
  | replied (reply : Option Reply)
  | failed (error : Value)
  | broke (reason : Value)

/-- What is to do next: the body of a reply has to be read, or the delete is settled. -/
inductive Next where
  | readBody (reply : Option Reply)
  | settled (outcome : Outcome Response)

def uriEntry (uri : Text) : LogEntry where
  level := .trace
  message := "delete blob uri"
  uri := some uri

def errorEntry (parameters : Parameters) (failure : Failure) : LogEntry where
  level := .warn
  message := "delete blob returned an error"
  container := some parameters.containerName
  blob := some parameters.blobName
  error := some (.failure failure)

/-- Parameters and request of the delete that a builder describes. -/
def prepare {κ : Type} (builder : Builder κ) (endpoint : Text) :
    Outcome (Parameters × Request) := do
  let parameters ← builder.resolve
  let request ← request (.string endpoint) parameters
  return (parameters, request)

/-- The header fields of a delete, added to those of the client. -/
def mutator (parameters : Parameters) : Client.Mutator := fun headers =>
  match addHeaders parameters headers with
  | .ok headers => .returned headers
  | .failed failure => .threw (.failure failure)
  | .raised reason => .threw reason

/-- The failure of a delete whose exchange failed: one of the transport as it is, and any other
error as the cause of one. -/
def exchangeFailure (error : Value) : Failure :=
  let wrapped := Failure.transport "error performing delete blob request" (some error)
  match error with
  | .failure failure => if failure.kind.isA (.request .transport) then failure else wrapped
  | _ => wrapped

def afterExchange : Performed → Next
  | .replied reply => .readBody reply
  | .failed error => .settled (.failed (exchangeFailure error))
  | .broke reason => .settled (.raised reason)

/-- The check of a reply to a delete.  A reply that is no response has no body to read. -/
def checkReply : Option Reply → Outcome BlobStorage.Response.Extracted
  | some (.response response) => response.checkStatus (.ofNat expectedStatus)
  | _ => .failed (Failure.transport BlobStorage.Response.unreadableBody (some .typeError))

def afterBody (parameters : Parameters) (reply : Option Reply) :
    List LogEntry × Outcome Response :=
  match checkReply reply with
  | .ok extracted => ([], Response.ofHeaders extracted.headers)
  | .failed failure => ([errorEntry parameters failure], .failed failure)
  | .raised reason => ([], .raised reason)

def performedOf : Conclusion → Performed
  | .failed failure => .failed (.failure failure)
  | .replied reply => .replied reply

end BlobStorage.DeleteBlob
