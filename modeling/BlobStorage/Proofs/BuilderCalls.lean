import BlobStorage.Proofs.DeleteOutcome

/-!
# Calls on a builder, refused ones among them

A call that is refused makes no builder, so the calls that count are those that were taken.  A
builder is its client and what the last taken call of each parameter gave: the order of the calls,
and values that were set before, leave no trace.
-/

namespace BlobStorage.DeleteBlob

namespace Field

/-- What a parameter is recorded as before it is set. -/
def initial? : Field → Option Value
  | .deleteSnapshotsMethod => some (.string SnapshotsMethod.withBlob.text)
  | _ => none

/-- The mandatory parameters that may be set to anything, also to undefined. -/
def unchecked : List Field := [.containerName, .blobName]

end Field

theorem SnapshotsMethod.text_injective : Function.Injective SnapshotsMethod.text := by
  intro method other same
  revert same
  cases method <;> cases other <;> decide

namespace Builder

variable {κ : Type}

/-- Parameters set one after another; a call that is refused leaves no trace. -/
def setEach (builder : Builder κ) : List (Field × Value) → Builder κ
  | [] => builder
  | call :: calls =>
      match builder.set call.1 call.2 with
      | .ok next => next.setEach calls
      | _ => builder.setEach calls

/-- The calls that are not refused. -/
def taken (builder : Builder κ) : List (Field × Value) → List (Field × Value)
  | [] => []
  | call :: calls =>
      match builder.set call.1 call.2 with
      | .ok next => call :: next.taken calls
      | _ => builder.taken calls

/-- The value that a history leaves recorded of a parameter. -/
def recorded? (calls : List (Field × Value)) (field : Field) : Option Value :=
  (lastValue? field calls).or field.initial?

/-- The calls that were taken are a history without a refusal, and it leads to the same builder. -/
theorem setAll_taken (builder : Builder κ) (calls : List (Field × Value)) :
    builder.setAll (builder.taken calls) = .ok (builder.setEach calls) := by
  induction calls generalizing builder with
  | nil => rfl
  | cons call calls induction =>
      cases first : builder.set call.1 call.2 with
      | ok next => simp [taken, setEach, setAll, first, Outcome.bind, induction]
      | failed failure => simp [taken, setEach, first, induction]
      | raised reason => simp [taken, setEach, first, induction]

theorem taken_sublist (builder : Builder κ) (calls : List (Field × Value)) :
    (builder.taken calls).Sublist calls := by
  induction calls generalizing builder with
  | nil => exact .slnil
  | cons call calls induction =>
      unfold taken
      split
      · exact (induction _).cons_cons _
      · exact (induction _).cons _

theorem client_set {builder next : Builder κ} {field : Field} {value : Value}
    (accepted : builder.set field value = .ok next) : next.client = builder.client := by
  cases field with
  | containerName =>
      obtain rfl := Outcome.ok.inj accepted
      rfl
  | blobName =>
      obtain rfl := Outcome.ok.inj accepted
      rfl
  | deleteSnapshotsMethod =>
      obtain ⟨-, -, rfl⟩ := withDeleteSnapshotsMethod_eq_ok accepted
      rfl
  | timeout =>
      obtain ⟨-, rfl⟩ := withTimeout_eq_ok accepted
      rfl
  | leaseId =>
      obtain ⟨-, rfl⟩ := set_checked_eq_ok accepted
      rfl
  | clientRequestId =>
      obtain ⟨-, rfl⟩ := set_checked_eq_ok accepted
      rfl

theorem client_setEach (builder : Builder κ) (calls : List (Field × Value)) :
    (builder.setEach calls).client = builder.client := by
  induction calls generalizing builder with
  | nil => rfl
  | cons call calls induction =>
      unfold setEach
      split
      · rename_i next accepted
        rw [induction, client_set accepted]
      · exact induction builder

/-- A builder is nothing but its client and the values of its parameters. -/
theorem eq_of_value? {builder other : Builder κ} (client : builder.client = other.client)
    (same : ∀ field, builder.value? field = other.value? field) : builder = other := by
  have method : builder.deleteSnapshotsMethod = other.deleteSnapshotsMethod := by
    have texts := same .deleteSnapshotsMethod
    refine Option.map_injective ?_ texts
    intro method other same
    exact SnapshotsMethod.text_injective (Value.string.inj same)
  have container : builder.containerName = other.containerName := same .containerName
  have blob : builder.blobName = other.blobName := same .blobName
  have timeout : builder.timeout = other.timeout := same .timeout
  have lease : builder.leaseId = other.leaseId := same .leaseId
  have identifier : builder.clientRequestId = other.clientRequestId := same .clientRequestId
  cases builder
  cases other
  simp_all

section Created

variable {owner : κ} {calls : List (Field × Value)}

theorem value?_setEach (owner : κ) (calls : List (Field × Value)) (field : Field) :
    ((create owner).setEach calls).value? field =
      lastValue? field ((create owner).taken calls) :=
  value?_created (setAll_taken (create owner) calls) field

theorem missingParameter?_setEach (owner : κ) (calls : List (Field × Value)) :
    ((create owner).setEach calls).missingParameter? =
      firstMissing? ((create owner).taken calls) :=
  missingParameter?_created (setAll_taken (create owner) calls)

theorem setEach_eq_of_lastValue? {others : List (Field × Value)}
    (same : ∀ field, lastValue? field ((create owner).taken others) =
      lastValue? field ((create owner).taken calls)) :
    (create owner).setEach others = (create owner).setEach calls := by
  refine eq_of_value? ?_ ?_
  · rw [client_setEach, client_setEach]
  · intro field
    rw [value?_setEach, value?_setEach, same]

end Created

theorem parameters_eq (builder : Builder κ) :
    builder.parameters = Field.all.filterMap fun field =>
      ((builder.value? field).or field.initial?).map (field.name, ·) := by
  unfold parameters
  refine List.filterMap_congr ?_
  intro field _
  cases field with
  | deleteSnapshotsMethod =>
      cases method : builder.deleteSnapshotsMethod <;>
        simp [value?, Field.initial?, snapshotsMethod, method]
  | _ => simp [Field.initial?]

end Builder

end BlobStorage.DeleteBlob
