import BlobStorage.Headers.Basic
import BlobStorage.Resource.Uri

/-!
# The request that deletes a blob

A delete names a container and a blob, says what happens to the snapshots of the blob, and may carry
a timeout for the service, a lease and an identifier chosen by the client.  The names and the
timeout go into the address, the rest into header fields.
-/

namespace BlobStorage.DeleteBlob

/-- What happens to the snapshots of a blob: they go with it, or only they go. -/
inductive SnapshotsMethod where
  | withBlob
  | snapshotsOnly
  deriving DecidableEq

namespace SnapshotsMethod

/-- The text that the service knows a method by. -/
def text : SnapshotsMethod → Text
  | .withBlob => "include"
  | .snapshotsOnly => "only"

/-- The name under which callers find a method. -/
def label : SnapshotsMethod → Text
  | .withBlob => "Include"
  | .snapshotsOnly => "Only"

def all : List SnapshotsMethod := [.withBlob, .snapshotsOnly]

def ofText? (text : Text) : Option SnapshotsMethod := all.find? fun method => method.text == text

end SnapshotsMethod

def expectedStatus : Nat := 202

def verb : Text := "DELETE"

def snapshotsHeader : Text := "x-ms-delete-snapshots"

def leaseHeader : Text := "x-ms-lease-id"

def clientRequestHeader : Text := "x-ms-client-request-id"

/-- Parameters of a delete with nothing missing; an optional one that was not set is undefined. -/
structure Parameters where
  containerName : Value
  blobName : Value
  deleteSnapshotsMethod : Value
  timeout : Value
  leaseId : Value
  clientRequestId : Value

def uri (endpoint : Value) (parameters : Parameters) : Outcome Text :=
  Resource.uri endpoint parameters.containerName parameters.blobName
    [("timeout", parameters.timeout)]

/-- One header field, or the platform's error about a name or value that it refuses. -/
def setField (name : Text) (value : Value) (headers : Headers) : Outcome Headers :=
  match value.toText?.bind (headers.set? name) with
  | some headers => .ok headers
  | none => .raised .typeError

/-- One header field unless its value is undefined. -/
def setOptionalField (name : Text) (value : Value) (headers : Headers) : Outcome Headers :=
  match value with
  | .undefined => .ok headers
  | value => setField name value headers

def addHeaders (parameters : Parameters) (headers : Headers) : Outcome Headers := do
  let headers ← setField snapshotsHeader parameters.deleteSnapshotsMethod headers
  let headers ← setOptionalField leaseHeader parameters.leaseId headers
  setOptionalField clientRequestHeader parameters.clientRequestId headers

/-- A request as it goes on the wire, without the fields that the client adds. -/
structure Request where
  verb : Text
  uri : Text
  headers : Headers

def request (endpoint : Value) (parameters : Parameters) : Outcome Request := do
  let uri ← uri endpoint parameters
  let headers ← addHeaders parameters .empty
  return { verb, uri, headers }

end BlobStorage.DeleteBlob
