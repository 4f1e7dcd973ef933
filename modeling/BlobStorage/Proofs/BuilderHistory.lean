import BlobStorage.Delete.Builder

/-!
# Histories of a builder

A builder is reached by setting parameters one after another.  This module supplies such histories,
the value that a history leaves in each parameter, and what is known of a value that was accepted:
names are texts, seconds are whole and not negative, and texts for header fields can be sent.
-/

namespace BlobStorage.DeleteBlob

namespace Field

/-- The values that a parameter is declared to take. -/
def Declares : Field → Value → Prop
  | .containerName, value | .blobName, value | .leaseId, value | .clientRequestId, value =>
      ∃ text, value = .string text
  | .deleteSnapshotsMethod, value => ∃ method : SnapshotsMethod, value = .string method.text
  | .timeout, value => ∃ seconds, value = .number seconds

/-- What is known of a declared value that was not refused. -/
def Accepts : Field → Value → Prop
  | .containerName, value | .blobName, value => ∃ text, value = .string text
  | .deleteSnapshotsMethod, value => ∃ method : SnapshotsMethod, value = .string method.text
  | .timeout, value => Builder.isSeconds value
  | .leaseId, value | .clientRequestId, value =>
      ∃ text, value = .string text ∧ Headers.isValidValue text

end Field

namespace Builder

variable {κ : Type}

/-- Parameters set one after another, up to the first value that is refused. -/
def setAll (builder : Builder κ) : List (Field × Value) → Outcome (Builder κ)
  | [] => .ok builder
  | call :: calls => (builder.set call.1 call.2).bind fun next => next.setAll calls

/-- The value that the last call for a parameter gave. -/
def lastValue? (field : Field) : List (Field × Value) → Option Value
  | [] => none
  | call :: calls => (lastValue? field calls).or (if call.1 = field then some call.2 else none)

/-- Every parameter that was set holds a value that is accepted for it. -/
def Typed (builder : Builder κ) : Prop :=
  ∀ field value, builder.value? field = some value → field.Accepts value

theorem typed_create (client : κ) : (create client).Typed := by
  intro field value held
  cases field <;> simp [create, value?] at held

private theorem ofText?_text {text : Text} {method : SnapshotsMethod}
    (known : SnapshotsMethod.ofText? text = some method) : method.text = text := by
  have matched := List.find?_some known
  simpa using matched

theorem withDeleteSnapshotsMethod_eq_ok
    {builder next : Builder κ} {value : Value}
    (accepted : builder.withDeleteSnapshotsMethod value = .ok next) :
    ∃ method : SnapshotsMethod, value = .string method.text ∧
      next = { builder with deleteSnapshotsMethod := some method } := by
  unfold withDeleteSnapshotsMethod at accepted
  cases value with
  | string text =>
      cases known : SnapshotsMethod.ofText? text with
      | none => simp [known] at accepted
      | some method =>
          simp only [known, Outcome.ok.injEq] at accepted
          exact ⟨method, by rw [ofText?_text known], accepted.symm⟩
  | _ =>
      dsimp only at accepted
      split at accepted <;> cases accepted

theorem withTimeout_eq_ok
    {builder next : Builder κ} {value : Value}
    (accepted : builder.withTimeout value = .ok next) :
    isSeconds value ∧ next = { builder with timeout := some value } := by
  unfold withTimeout at accepted
  by_cases seconds : isSeconds value
  · simp only [seconds, if_true, Outcome.ok.injEq] at accepted
    exact ⟨seconds, accepted.symm⟩
  · simp only [seconds, Bool.false_eq_true, if_false] at accepted
    split at accepted <;> cases accepted

theorem checkSendable_eq_ok
    {label : Text} {value : Value} (sendable : checkSendable label value = .ok ()) :
    ∃ text, value.toText? = some text ∧ Headers.isValidValue text := by
  unfold checkSendable at sendable
  cases converted : value.toText? with
  | none => simp [converted] at sendable
  | some text =>
      by_cases valid : Headers.isValidValue text
      · exact ⟨text, rfl, valid⟩
      · simp [converted, valid] at sendable

theorem set_checked_eq_ok
    {label : Text} {value : Value} {built next : Builder κ}
    (accepted : (checkSendable label value).map (fun _ => built) = .ok next) :
    (∃ text, value.toText? = some text ∧ Headers.isValidValue text) ∧ next = built := by
  obtain ⟨checkedValue, checked, rfl⟩ := Outcome.map_eq_ok_iff.mp accepted
  exact ⟨checkSendable_eq_ok checked, rfl⟩

/-- A parameter that was set holds the very value it was set to, and every other one holds what it
held before. -/
theorem value?_set
    {builder next : Builder κ} {field : Field} {value : Value}
    (accepted : builder.set field value = .ok next) (other : Field) :
    next.value? other = if other = field then some value else builder.value? other := by
  cases field with
  | containerName =>
      simp only [set, withContainerName, Outcome.ok.injEq] at accepted
      subst next
      cases other <;> simp [value?]
  | blobName =>
      simp only [set, withBlobName, Outcome.ok.injEq] at accepted
      subst next
      cases other <;> simp [value?]
  | deleteSnapshotsMethod =>
      obtain ⟨method, rfl, rfl⟩ := withDeleteSnapshotsMethod_eq_ok accepted
      cases other <;> simp [value?]
  | timeout =>
      obtain ⟨-, rfl⟩ := withTimeout_eq_ok accepted
      cases other <;> simp [value?]
  | leaseId =>
      obtain ⟨-, rfl⟩ := set_checked_eq_ok accepted
      cases other <;> simp [value?]
  | clientRequestId =>
      obtain ⟨-, rfl⟩ := set_checked_eq_ok accepted
      cases other <;> simp [value?]

theorem accepts_of_set
    {builder next : Builder κ} {field : Field} {value : Value}
    (declared : field.Declares value) (accepted : builder.set field value = .ok next) :
    field.Accepts value := by
  cases field with
  | containerName => exact declared
  | blobName => exact declared
  | deleteSnapshotsMethod => exact declared
  | timeout => exact (withTimeout_eq_ok accepted).1
  | leaseId =>
      obtain ⟨text, rfl⟩ := declared
      obtain ⟨⟨sent, converted, valid⟩, -⟩ := set_checked_eq_ok accepted
      cases converted
      exact ⟨text, rfl, valid⟩
  | clientRequestId =>
      obtain ⟨text, rfl⟩ := declared
      obtain ⟨⟨sent, converted, valid⟩, -⟩ := set_checked_eq_ok accepted
      cases converted
      exact ⟨text, rfl, valid⟩

theorem typed_set
    {builder next : Builder κ} {field : Field} {value : Value}
    (typed : builder.Typed) (declared : field.Declares value)
    (accepted : builder.set field value = .ok next) : next.Typed := by
  intro other held found
  rw [value?_set accepted other] at found
  by_cases same : other = field
  · subst other
    simp only [if_true, Option.some.injEq] at found
    subst held
    exact accepts_of_set declared accepted
  · simp only [same, if_false] at found
    exact typed other held found

theorem value?_setAll
    {builder next : Builder κ} {calls : List (Field × Value)}
    (accepted : builder.setAll calls = .ok next) (field : Field) :
    next.value? field = (lastValue? field calls).or (builder.value? field) := by
  induction calls generalizing builder with
  | nil =>
      simp only [setAll, Outcome.ok.injEq] at accepted
      subst next
      simp [lastValue?]
  | cons call calls induction =>
      obtain ⟨middle, first, rest⟩ := Outcome.bind_eq_ok_iff.mp accepted
      rw [induction rest, value?_set first field, lastValue?]
      by_cases same : call.1 = field
      · simp [same]
      · simp [same, Ne.symm same]

theorem typed_setAll
    {builder next : Builder κ} {calls : List (Field × Value)}
    (typed : builder.Typed) (declared : ∀ call ∈ calls, call.1.Declares call.2)
    (accepted : builder.setAll calls = .ok next) : next.Typed := by
  induction calls generalizing builder with
  | nil =>
      simp only [setAll, Outcome.ok.injEq] at accepted
      exact accepted ▸ typed
  | cons call calls induction =>
      obtain ⟨middle, first, rest⟩ := Outcome.bind_eq_ok_iff.mp accepted
      have middleTyped : middle.Typed :=
        typed_set typed (declared call List.mem_cons_self) first
      exact induction middleTyped
        (fun later member => declared later (List.mem_cons_of_mem _ member)) rest

end Builder

end BlobStorage.DeleteBlob
