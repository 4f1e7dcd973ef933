import BlobStorage.Delete.Exchange
import BlobStorage.Proofs.BuilderHistory
import BlobStorage.Proofs.HeaderFields
import BlobStorage.Proofs.ResourceAddress

/-!
# The request of a typed builder

A builder whose parameters were set to values of their declared kinds either lacks a mandatory
parameter, or has names that no address can be made of, or describes a request.  Its header fields
are never refused, among whichever others they are put.
-/

namespace BlobStorage.DeleteBlob

/-- What the parameters of a complete typed builder are known to be. -/
structure Parameters.Typed (parameters : Parameters) (container blob : Text) : Prop where
  containerName : parameters.containerName = .string container
  blobName : parameters.blobName = .string blob
  deleteSnapshotsMethod :
    ∃ method : SnapshotsMethod, parameters.deleteSnapshotsMethod = .string method.text
  timeout : parameters.timeout = .undefined ∨ Builder.isSeconds parameters.timeout
  leaseId : parameters.leaseId = .undefined ∨
    ∃ text, parameters.leaseId = .string text ∧ Headers.isValidValue text
  clientRequestId : parameters.clientRequestId = .undefined ∨
    ∃ text, parameters.clientRequestId = .string text ∧ Headers.isValidValue text

namespace Builder

variable {κ : Type} {builder : Builder κ}

theorem missingParameter?_eq_none_iff :
    builder.missingParameter? = none ↔
      ∀ field ∈ Field.mandatory, (builder.value? field).isSome := by
  simp [missingParameter?, Option.isSome_iff_ne_none]

theorem resolve_of_missing {field : Field} (missing : builder.missingParameter? = some field) :
    builder.resolve = .failed (Failure.missingParameter field.name) := by
  simp [resolve, unresolved?, missing]

/-- The parameters that a complete builder holds, whichever values they are. -/
def heldParameters (builder : Builder κ) : Parameters where
  containerName := builder.containerName.getD .undefined
  blobName := builder.blobName.getD .undefined
  deleteSnapshotsMethod := .string builder.snapshotsMethod.text
  timeout := builder.timeout.getD .undefined
  leaseId := builder.leaseId.getD .undefined
  clientRequestId := builder.clientRequestId.getD .undefined

private theorem optional_held {held : Option Value} {accepts : Value → Prop}
    (known : ∀ value, held = some value → accepts value) :
    held.getD .undefined = .undefined ∨ accepts (held.getD .undefined) := by
  cases held with
  | none => exact .inl rfl
  | some value => exact .inr (known value rfl)

theorem resolve_of_complete (typed : builder.Typed)
    (complete : builder.missingParameter? = none) :
    builder.resolve = .ok builder.heldParameters ∧
      ∃ container blob, builder.heldParameters.Typed container blob := by
  have held := missingParameter?_eq_none_iff.mp complete
  obtain ⟨containerValue, containerHeld⟩ :=
    Option.isSome_iff_exists.mp (held .containerName (by simp [Field.mandatory]))
  obtain ⟨blobValue, blobHeld⟩ :=
    Option.isSome_iff_exists.mp (held .blobName (by simp [Field.mandatory]))
  obtain ⟨container, rfl⟩ := typed .containerName containerValue containerHeld
  obtain ⟨blob, rfl⟩ := typed .blobName blobValue blobHeld
  have containerSet : builder.containerName = some (.string container) := containerHeld
  have blobSet : builder.blobName = some (.string blob) := blobHeld
  constructor
  · simp [resolve, unresolved?, complete, value?, containerSet, blobSet, heldParameters]
  · refine ⟨container, blob, ?_, ?_, ⟨builder.snapshotsMethod, rfl⟩, ?_, ?_, ?_⟩
    · simp [heldParameters, containerSet]
    · simp [heldParameters, blobSet]
    · exact optional_held (typed .timeout)
    · exact optional_held (typed .leaseId)
    · exact optional_held (typed .clientRequestId)

end Builder

theorem setField_total {name value : Text} (named : Headers.isName name)
    (valid : Headers.isValidValue value) (headers : Headers) :
    ∃ next, setField name (.string value) headers = .ok next := by
  obtain ⟨next, set⟩ := Headers.set?_total named valid headers
  exact ⟨next, by simp [setField, Value.toText?, set]⟩

theorem setOptionalField_total {name : Text} {value : Value} (named : Headers.isName name)
    (valid : value = .undefined ∨ ∃ text, value = .string text ∧ Headers.isValidValue text)
    (headers : Headers) : ∃ next, setOptionalField name value headers = .ok next := by
  rcases valid with rfl | ⟨text, rfl, valid⟩
  · exact ⟨headers, rfl⟩
  · exact setField_total named valid headers

theorem SnapshotsMethod.isValidValue_text (method : SnapshotsMethod) :
    Headers.isValidValue method.text := by
  cases method <;> decide

theorem isName_snapshotsHeader : Headers.isName snapshotsHeader := by decide

theorem isName_leaseHeader : Headers.isName leaseHeader := by decide

theorem isName_clientRequestHeader : Headers.isName clientRequestHeader := by decide

theorem addHeaders_total {parameters : Parameters} {container blob : Text}
    (typed : parameters.Typed container blob) (headers : Headers) :
    ∃ next, addHeaders parameters headers = .ok next := by
  obtain ⟨method, chosen⟩ := typed.deleteSnapshotsMethod
  obtain ⟨first, firstSet⟩ :=
    setField_total isName_snapshotsHeader method.isValidValue_text headers
  obtain ⟨second, secondSet⟩ :=
    setOptionalField_total isName_leaseHeader typed.leaseId first
  obtain ⟨third, thirdSet⟩ :=
    setOptionalField_total isName_clientRequestHeader typed.clientRequestId second
  refine ⟨third, ?_⟩
  unfold addHeaders
  rw [chosen, firstSet]
  show Outcome.bind _ _ = _
  simp [Outcome.bind, bind, secondSet, thirdSet]

theorem mutator_total {parameters : Parameters} {container blob : Text}
    (typed : parameters.Typed container blob) (headers : Headers) :
    ∃ next, mutator parameters headers = .returned next := by
  obtain ⟨next, added⟩ := addHeaders_total typed headers
  exact ⟨next, by simp [mutator, added]⟩

theorem searchPairs_timeout_total {timeout : Value}
    (valid : timeout = .undefined ∨ Builder.isSeconds timeout) :
    ∃ pairs, Resource.searchPairs [("timeout", timeout)] = .ok pairs := by
  rcases valid with rfl | seconds
  · exact ⟨[], rfl⟩
  · cases timeout with
    | number number => exact ⟨_, rfl⟩
    | _ => simp [Builder.isSeconds] at seconds

theorem uri_total {parameters : Parameters} {container blob : Text}
    (typed : parameters.Typed container blob) (endpoint : Text) :
    (∃ address, uri (.string endpoint) parameters = .ok address) ∨
      ∃ failure : Failure, failure.kind = .request .constructUrl ∧
        uri (.string endpoint) parameters = .failed failure := by
  obtain ⟨pairs, written⟩ := searchPairs_timeout_total typed.timeout
  have total := Resource.uri_total endpoint container (some blob) written
  rw [uri, typed.containerName, typed.blobName]
  exact total

theorem request_of_uri {parameters : Parameters} {container blob address : Text}
    {endpoint : Value} (typed : parameters.Typed container blob)
    (addressed : uri endpoint parameters = .ok address) :
    ∃ headers, addHeaders parameters .empty = .ok headers ∧
      request endpoint parameters = .ok { verb, uri := address, headers } := by
  obtain ⟨headers, added⟩ := addHeaders_total typed .empty
  refine ⟨headers, added, ?_⟩
  unfold request
  rw [addressed, added]
  rfl

/-- The request of a builder that has one: it is made of the parameters that the builder holds. -/
theorem Builder.toRequest_eq_ok_iff {κ : Type} {builder : Builder κ} {endpoint : Value}
    {request : Request} :
    builder.toRequest endpoint = .ok request ↔
      builder.unresolved? = none ∧ request.verb = verb ∧
        uri endpoint builder.heldParameters = .ok request.uri ∧
        addHeaders builder.heldParameters .empty = .ok request.headers := by
  unfold toRequest resolve
  cases builder.unresolved? with
  | some field => simp [Outcome.bind]
  | none =>
      change DeleteBlob.request endpoint builder.heldParameters = _ ↔ _
      unfold DeleteBlob.request
      simp only [bind, pure, Outcome.bind_eq_ok_iff, Outcome.ok.injEq, true_and]
      constructor
      · rintro ⟨address, addressed, headers, added, rfl⟩
        exact ⟨rfl, addressed, added⟩
      · obtain ⟨requestVerb, requestUri, requestHeaders⟩ := request
        rintro ⟨rfl, addressed, added⟩
        exact ⟨_, addressed, _, added, rfl⟩

theorem request_of_failure {parameters : Parameters} {endpoint : Value} {failure : Failure}
    (failed : uri endpoint parameters = .failed failure) :
    request endpoint parameters = .failed failure := by
  unfold request
  rw [failed]
  rfl

end BlobStorage.DeleteBlob
