import BlobStorage.Proofs.BuilderCalls
import BlobStorage.Proofs.SecretHeaders

/-!
# Secret leases

A lease is a secret that a builder holds and that becomes a header field of its request.  Histories
of calls that differ in leases only lead to builders, parameters and requests that differ in nothing
else: all of them are compared with the mark in the place of the lease.
-/

namespace BlobStorage

theorem Outcome.map_bind {α β γ δ : Type} {first : Outcome α} {next : α → Outcome β}
    {inner : α → γ} {outer : β → δ} (follow : γ → Outcome δ)
    (followed : ∀ value, (next value).map outer = follow (inner value)) :
    (first >>= next).map outer = first.map inner >>= follow := by
  cases first with
  | ok value => exact followed value
  | failed failure => rfl
  | raised reason => rfl

theorem Outcome.cases_of_map_eq {α β : Type} {left right : Outcome α} {f : α → β}
    (same : left.map f = right.map f) :
    (∃ first second, left = .ok first ∧ right = .ok second ∧ f first = f second) ∨
      (∃ failure, left = .failed failure ∧ right = .failed failure) ∨
      ∃ reason, left = .raised reason ∧ right = .raised reason := by
  cases left <;> cases right <;> simp_all [Outcome.map]

namespace DeleteBlob

/-- A lease that is there and whose text can be sent. -/
def isSendableLease : Value → Bool
  | .undefined => false
  | lease => lease.toText?.any Headers.isSendable

theorem isSendableLease_of_ne_undefined {lease : Value} (there : lease ≠ .undefined) :
    isSendableLease lease = lease.toText?.any Headers.isSendable := by
  cases lease with
  | undefined => exact absurd rfl there
  | _ => rfl

/-- The mark in the place of a lease that can be sent. -/
def veilLease (lease : Value) : Value :=
  if isSendableLease lease then .string Headers.redactionMark else lease

def Parameters.veiled (parameters : Parameters) : Parameters :=
  { parameters with leaseId := veilLease parameters.leaseId }

theorem setField_veiled {name : Text} {value veil : Value}
    (texts : value.toText?.map (Headers.veilText name) = veil.toText?) (headers : Headers) :
    (setField name value headers).map Headers.veiled = setField name veil headers.veiled := by
  unfold setField
  rw [← texts]
  cases value.toText? with
  | none => rfl
  | some text =>
      rw [Option.map_some, Option.bind_some, Option.bind_some, ← Headers.set?_veiled]
      cases headers.set? name text <;> rfl

theorem veilText_of_open {name : Text} (isOpen : Headers.isSecret name = false)
    (text? : Option Text) : text?.map (Headers.veilText name) = text? := by
  cases text? with
  | none => rfl
  | some text => rw [Option.map_some, Headers.veilText, isOpen, Bool.false_and]; rfl

theorem setOptionalField_veiled {name : Text} (isOpen : Headers.isSecret name = false)
    (value : Value) (headers : Headers) :
    (setOptionalField name value headers).map Headers.veiled =
      setOptionalField name value headers.veiled := by
  unfold setOptionalField
  split
  · rfl
  · exact setField_veiled (veilText_of_open isOpen _) headers

theorem setOptionalField_of_ne_undefined {value : Value} (there : value ≠ .undefined)
    (name : Text) (headers : Headers) :
    setOptionalField name value headers = setField name value headers := by
  unfold setOptionalField
  split
  · exact absurd rfl there
  · rfl

/-- The text of a veiled lease is that of the field that the lease becomes. -/
theorem toText?_veilLease {lease : Value} (there : lease ≠ .undefined) :
    lease.toText?.map (Headers.veilText leaseHeader) = (veilLease lease).toText? := by
  have secret : Headers.isSecret leaseHeader = true := by decide
  rw [veilLease, isSendableLease_of_ne_undefined there]
  cases found : lease.toText? with
  | none => simp [found]
  | some text =>
      cases sendable : Headers.isSendable text with
      | true => simp [sendable, Headers.veilText_of_secret secret sendable]
      | false => simp [sendable, found, Headers.veilText]

theorem setOptionalField_lease_veiled (lease : Value) (headers : Headers) :
    (setOptionalField leaseHeader lease headers).map Headers.veiled =
      setOptionalField leaseHeader (veilLease lease) headers.veiled := by
  by_cases absent : lease = .undefined
  · subst lease
    rfl
  · have there : veilLease lease ≠ .undefined := by
      unfold veilLease
      split
      · simp
      · exact absent
    rw [setOptionalField_of_ne_undefined absent, setOptionalField_of_ne_undefined there,
      setField_veiled (toText?_veilLease absent)]

/-- The fields of a delete can be followed on veiled fields and a veiled lease. -/
theorem addHeaders_veiled (parameters : Parameters) (headers : Headers) :
    (addHeaders parameters headers).map Headers.veiled =
      addHeaders parameters.veiled headers.veiled := by
  have snapshots : Headers.isSecret snapshotsHeader = false := by decide
  have identifier : Headers.isSecret clientRequestHeader = false := by decide
  have identified (headers : Headers) :=
    setOptionalField_veiled identifier parameters.clientRequestId headers
  have leased (headers : Headers) :
      (setOptionalField leaseHeader parameters.leaseId headers >>=
        setOptionalField clientRequestHeader parameters.clientRequestId).map Headers.veiled =
      setOptionalField leaseHeader parameters.veiled.leaseId headers.veiled >>=
        setOptionalField clientRequestHeader parameters.clientRequestId := by
    rw [Outcome.map_bind _ identified, setOptionalField_lease_veiled]
    rfl
  unfold addHeaders
  rw [Outcome.map_bind
    (fun veiled => setOptionalField leaseHeader parameters.veiled.leaseId veiled >>=
      setOptionalField clientRequestHeader parameters.clientRequestId) leased,
    setField_veiled (veilText_of_open snapshots _)]
  rfl

theorem mutator_alike {left right : Parameters} (alike : left.veiled = right.veiled) :
    Client.Mutator.Alike (mutator left) (mutator right) := by
  intro first second same
  have added : (addHeaders left first).map Headers.veiled =
      (addHeaders right second).map Headers.veiled := by
    rw [addHeaders_veiled, addHeaders_veiled, alike, same]
  unfold mutator
  cases leftAdded : addHeaders left first <;> cases rightAdded : addHeaders right second <;>
    simp [leftAdded, rightAdded, Outcome.map] at added <;> simp [Completion.map, added]

def Request.veiled (request : Request) : Request :=
  { request with headers := request.headers.veiled }

theorem request_veiled (endpoint : Value) (parameters : Parameters) :
    (request endpoint parameters).map Request.veiled = request endpoint parameters.veiled := by
  have added := addHeaders_veiled parameters .empty
  unfold request
  rw [show uri endpoint parameters.veiled = uri endpoint parameters from rfl,
    show addHeaders parameters.veiled .empty = (addHeaders parameters .empty).map Headers.veiled
      from added.symm]
  cases uri endpoint parameters with
  | ok uri => cases addHeaders parameters .empty <;> rfl
  | failed failure => rfl
  | raised reason => rfl

namespace Builder

variable {κ : Type}

/-- Two calls are the same, or set leases that are there and can be sent. -/
inductive CallAlike : Field × Value → Field × Value → Prop where
  | same (call : Field × Value) : CallAlike call call
  | lease {left right : Value} (leftThere : left ≠ .undefined)
      (leftSendable : left.toText?.any Headers.isValidValue = true)
      (rightThere : right ≠ .undefined)
      (rightSendable : right.toText?.any Headers.isValidValue = true) :
      CallAlike (.leaseId, left) (.leaseId, right)

def veiled (builder : Builder κ) : Builder κ :=
  { builder with leaseId := builder.leaseId.map veilLease }

theorem exists_lease_of_veiled_eq {left right : Builder κ} (alike : left.veiled = right.veiled) :
    ∃ lease, right = { left with leaseId := lease } ∧
      left.leaseId.map veilLease = lease.map veilLease := by
  refine ⟨right.leaseId, ?_, congrArg Builder.leaseId alike⟩
  cases left
  cases right
  simp only [veiled, Builder.mk.injEq] at alike ⊢
  simp [alike]

theorem veilLease_of_sendable {lease : Value} (there : lease ≠ .undefined)
    (sendable : lease.toText?.any Headers.isValidValue = true) :
    veilLease lease = .string Headers.redactionMark := by
  have valid : isSendableLease lease = true := by
    rw [isSendableLease_of_ne_undefined there]
    cases found : lease.toText? with
    | none => simp [found] at sendable
    | some text =>
        rw [found, Option.any_some] at sendable
        exact Headers.isValidValue_normalizeValue sendable
  rw [veilLease, if_pos valid]

theorem set_sendable_lease (builder : Builder κ) {lease : Value}
    (sendable : lease.toText?.any Headers.isValidValue = true) :
    builder.set .leaseId lease = .ok { builder with leaseId := some lease } := by
  unfold set withLeaseId checkSendable
  cases found : lease.toText? with
  | none => simp [found] at sendable
  | some text =>
      rw [found, Option.any_some] at sendable
      simp [found, sendable, Outcome.map]

theorem set_alike {left right : Builder κ} {call other : Field × Value}
    (alike : left.veiled = right.veiled) (calls : CallAlike call other) :
    (left.set call.1 call.2).map veiled = (right.set other.1 other.2).map veiled := by
  obtain ⟨lease, rfl, same⟩ := exists_lease_of_veiled_eq alike
  cases calls with
  | lease leftThere leftSendable rightThere rightSendable =>
      rw [set_sendable_lease _ leftSendable, set_sendable_lease _ rightSendable]
      simp [Outcome.map, veiled, veilLease_of_sendable leftThere leftSendable,
        veilLease_of_sendable rightThere rightSendable]
  | same call =>
      obtain ⟨field, value⟩ := call
      cases field with
      | containerName | blobName =>
          simp [set, withContainerName, withBlobName, Outcome.map, veiled, same]
      | deleteSnapshotsMethod =>
          simp only [set, withDeleteSnapshotsMethod]
          split
          · simp [Outcome.map, veiled, same]
          · rfl
      | timeout =>
          simp only [set, withTimeout]
          split
          · simp [Outcome.map, veiled, same]
          · rfl
      | leaseId => rfl
      | clientRequestId =>
          simp only [set, withClientRequestId]
          cases checkSendable "client request id" value <;> simp [Outcome.map, veiled, same]

/-- Histories that are alike lead to builders that are veiled alike. -/
theorem setEach_alike {left right : Builder κ} {calls others : List (Field × Value)}
    (alike : left.veiled = right.veiled) (allAlike : List.Forall₂ CallAlike calls others) :
    (left.setEach calls).veiled = (right.setEach others).veiled := by
  induction allAlike generalizing left right with
  | nil => exact alike
  | cons first rest induction =>
      unfold setEach
      rcases Outcome.cases_of_map_eq (set_alike alike first) with
        ⟨next, other, taken, otherTaken, nextAlike⟩ | ⟨failure, refused, otherRefused⟩ |
          ⟨reason, refused, otherRefused⟩
      · rw [taken, otherTaken]
        exact induction nextAlike
      · rw [refused, otherRefused]
        exact induction alike
      · rw [refused, otherRefused]
        exact induction alike

theorem resolve_alike {left right : Builder κ} (alike : left.veiled = right.veiled) :
    left.resolve.map Parameters.veiled = right.resolve.map Parameters.veiled := by
  obtain ⟨lease, rfl, same⟩ := exists_lease_of_veiled_eq alike
  have unset : veilLease .undefined = .undefined := rfl
  have leases : veilLease (left.leaseId.getD .undefined) = veilLease (lease.getD .undefined) := by
    have veiledLeases := congrArg (fun held => Option.getD held .undefined) same
    cases held : left.leaseId <;> cases lease <;> simp_all
  have unresolved : ({ left with leaseId := lease } : Builder κ).unresolved? =
      left.unresolved? := rfl
  unfold resolve
  rw [unresolved]
  split
  · rfl
  · simp only [Outcome.map, Parameters.veiled, leases]
    rfl

end Builder

theorem prepare_alike {κ : Type} {left right : Builder κ} (alike : left.veiled = right.veiled)
    (endpoint : Text) :
    (prepare left endpoint).map (Prod.map Parameters.veiled Request.veiled) =
      (prepare right endpoint).map (Prod.map Parameters.veiled Request.veiled) := by
  have followed (builder : Builder κ) :
      (prepare builder endpoint).map (Prod.map Parameters.veiled Request.veiled) =
        (builder.resolve.map Parameters.veiled).bind fun parameters =>
          (request (.string endpoint) parameters).map (Prod.mk parameters) := by
    unfold prepare
    cases builder.resolve with
    | failed failure => rfl
    | raised reason => rfl
    | ok parameters =>
        have requests := request_veiled (.string endpoint) parameters
        simp only [bind, Outcome.bind, Outcome.map] at requests ⊢
        rw [← requests]
        cases request (.string endpoint) parameters <;> rfl
  rw [followed, followed, Builder.resolve_alike alike]

end DeleteBlob

end BlobStorage
