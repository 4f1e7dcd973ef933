import BlobStorage.Delete.Request

/-!
# Building a delete

A builder collects the parameters of a delete one by one and never changes: setting a parameter
gives a new builder.  Container, blob and the snapshots method are mandatory.  They may be set in
any order and again; the last value of each parameter counts.
-/

namespace BlobStorage.DeleteBlob

/-- The parameters of a delete. -/
inductive Field where
  | containerName
  | blobName
  | deleteSnapshotsMethod
  | timeout
  | leaseId
  | clientRequestId
  deriving DecidableEq

namespace Field

def name : Field → Text
  | .containerName => "containerName"
  | .blobName => "blobName"
  | .deleteSnapshotsMethod => "deleteSnapshotsMethod"
  | .timeout => "timeout"
  | .leaseId => "leaseId"
  | .clientRequestId => "clientRequestId"

def all : List Field :=
  [.containerName, .blobName, .deleteSnapshotsMethod, .timeout, .leaseId, .clientRequestId]

/-- The parameters that have to be set, in the order in which they are looked for. -/
def mandatory : List Field := [.containerName, .blobName, .deleteSnapshotsMethod]

def ofName? (name : Text) : Option Field := all.find? fun field => field.name == name

end Field

/-- A delete under construction on a client: the parameters that were set so far, each with its last
value.  A value may be anything, also undefined.  A record of values, in which the snapshots method
is there from the start, and one of what was set would say the same: `Builder.answers_of_records`. -/
structure Builder (κ : Type) where
  client : κ
  containerName : Option Value := none
  blobName : Option Value := none
  deleteSnapshotsMethod : Option SnapshotsMethod := none
  timeout : Option Value := none
  leaseId : Option Value := none
  clientRequestId : Option Value := none

namespace Builder

variable {κ : Type}

/-- A builder on which nothing was set. -/
def create (client : κ) : Builder κ := { client }

def withContainerName (builder : Builder κ) (name : Value) : Builder κ :=
  { builder with containerName := some name }

def withBlobName (builder : Builder κ) (name : Value) : Builder κ :=
  { builder with blobName := some name }

def invalidMethodMessage (method : Text) : Text :=
  "error invalid delete snapshots method " ++ method

/-- A snapshots method was chosen; anything but the text of one is refused. -/
def withDeleteSnapshotsMethod (builder : Builder κ) (method : Value) : Outcome (Builder κ) :=
  let known? :=
    match method with
    | .string text => SnapshotsMethod.ofText? text
    | _ => none
  match known? with
  | some known => .ok { builder with deleteSnapshotsMethod := some known }
  | none =>
      match method.describe? with
      | some text =>
          .raised (.failure (Failure.plain (.platform .typeError) (invalidMethodMessage text)))
      | none => .raised .typeError

/-- The message about a timeout that is no number of seconds. -/
def invalidTimeoutMessage (seconds : Text) : Text :=
  "error timeout must be a non-negative integer of seconds, got " ++ seconds

/-- Whether a value is a number of seconds: an integer of at most fifty-three bits, not below zero.
-/
def isSeconds : Value → Bool
  | .number seconds => seconds.isSafeInteger && !seconds.isNegative
  | _ => false

/-- A timeout for the service was set; anything but a number of seconds is refused. -/
def withTimeout (builder : Builder κ) (seconds : Value) : Outcome (Builder κ) :=
  if isSeconds seconds then .ok { builder with timeout := some seconds }
  else
    match seconds.toText? with
    | some text =>
        .raised (.failure (Failure.plain (.platform .rangeError) (invalidTimeoutMessage text)))
    | none => .raised .typeError

/-- The message about a value that cannot be a header field. -/
def invalidFieldMessage (label : Text) : Text :=
  "error invalid " ++ label ++ ", it cannot be sent as a header value"

/-- A value whose text can be sent as a header field, or an error about it. -/
def checkSendable (label : Text) (value : Value) : Outcome Unit :=
  match value.toText? with
  | none => .raised .typeError
  | some text =>
      if Headers.isValidValue text then .ok ()
      else .raised (.failure (Failure.plain (.platform .typeError) (invalidFieldMessage label)))

/-- A lease was set; a value that cannot be sent is refused. -/
def withLeaseId (builder : Builder κ) (lease : Value) : Outcome (Builder κ) :=
  (checkSendable "lease id" lease).map fun _ => { builder with leaseId := some lease }

/-- An identifier was set; a value that cannot be sent is refused. -/
def withClientRequestId (builder : Builder κ) (identifier : Value) : Outcome (Builder κ) :=
  (checkSendable "client request id" identifier).map fun _ =>
    { builder with clientRequestId := some identifier }

def set (builder : Builder κ) : Field → Value → Outcome (Builder κ)
  | .containerName, value => .ok (builder.withContainerName value)
  | .blobName, value => .ok (builder.withBlobName value)
  | .deleteSnapshotsMethod, value => builder.withDeleteSnapshotsMethod value
  | .timeout, value => builder.withTimeout value
  | .leaseId, value => builder.withLeaseId value
  | .clientRequestId, value => builder.withClientRequestId value

/-- The value that a parameter was last set to. -/
def value? (builder : Builder κ) : Field → Option Value
  | .containerName => builder.containerName
  | .blobName => builder.blobName
  | .deleteSnapshotsMethod => builder.deleteSnapshotsMethod.map fun method => .string method.text
  | .timeout => builder.timeout
  | .leaseId => builder.leaseId
  | .clientRequestId => builder.clientRequestId

def missingParameter? (builder : Builder κ) : Option Field :=
  Field.mandatory.find? fun field => (builder.value? field).isNone

def isComplete (builder : Builder κ) : Bool := builder.missingParameter?.isNone

/-- The method that is sent: snapshots go with their blob unless another one was chosen. -/
def snapshotsMethod (builder : Builder κ) : SnapshotsMethod :=
  builder.deleteSnapshotsMethod.getD .withBlob

def parameters (builder : Builder κ) : List (Text × Value) :=
  Field.all.filterMap fun field =>
    if field = .deleteSnapshotsMethod then some (field.name, .string builder.snapshotsMethod.text)
    else (builder.value? field).map (field.name, ·)

/-- What an accessor gives: the value of a parameter.  A mandatory one that was not set, or a name
that is undefined, is an error; any other that was not set is undefined. -/
def get (builder : Builder κ) (field : Field) : Outcome Value :=
  let missing : Outcome Value := .raised (.failure (Failure.missingParameter field.name))
  match field, builder.value? field with
  | .containerName, none | .containerName, some .undefined => missing
  | .blobName, none | .blobName, some .undefined => missing
  | .deleteSnapshotsMethod, none => missing
  | _, value? => .ok (value?.getD .undefined)

/-- The first mandatory parameter without a value: one that was never set, or else a name that is
undefined. -/
def unresolved? (builder : Builder κ) : Option Field :=
  builder.missingParameter?.or <|
    [Field.containerName, Field.blobName].find? fun field =>
      (builder.value? field) matches some .undefined

/-- The parameters of the delete, or the failure that names one that is missing. -/
def resolve (builder : Builder κ) : Outcome Parameters :=
  match builder.unresolved? with
  | some field => .failed (Failure.missingParameter field.name)
  | none => .ok {
      containerName := builder.containerName.getD .undefined
      blobName := builder.blobName.getD .undefined
      deleteSnapshotsMethod := .string builder.snapshotsMethod.text
      timeout := builder.timeout.getD .undefined
      leaseId := builder.leaseId.getD .undefined
      clientRequestId := builder.clientRequestId.getD .undefined }

def toRequest (builder : Builder κ) (endpoint : Value) : Outcome Request :=
  builder.resolve.bind (request endpoint)

end Builder

end BlobStorage.DeleteBlob
