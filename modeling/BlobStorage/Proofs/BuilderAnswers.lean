import BlobStorage.Proofs.NamedBuilders

/-!
# What a builder answers

Everything that a builder answers follows from the calls that were taken, and of these from the last
one for each parameter.  A mandatory parameter that no call was taken for is missing, and the first
one that is missing is what a request and a delete report.
-/

namespace BlobStorage.DeleteBlob

namespace Builder

variable {κ : Type}

theorem lastValue?_eq_none_iff {field : Field} {calls : List (Field × Value)} :
    lastValue? field calls = none ↔ ∀ call ∈ calls, call.1 ≠ field := by
  induction calls with
  | nil => simp [lastValue?]
  | cons call calls induction =>
      rw [lastValue?, Option.or_eq_none_iff, induction, List.forall_mem_cons, and_comm]
      simp

theorem lastValue?_mem {field : Field} {value : Value} {calls : List (Field × Value)}
    (last : lastValue? field calls = some value) : (field, value) ∈ calls := by
  induction calls with
  | nil => cases last
  | cons call calls induction =>
      rw [lastValue?, Option.or_eq_some_iff] at last
      rcases last with later | ⟨-, own⟩
      · exact List.mem_cons_of_mem _ (induction later)
      · split at own
        · rename_i same
          obtain rfl := Option.some.inj own
          exact same ▸ List.mem_cons_self
        · cases own

end Builder

theorem firstMissing?_eq (calls : List (Field × Value)) :
    firstMissing? calls = Field.mandatory.find? fun field => calls.all (·.1 ≠ field) := by
  unfold firstMissing?
  congr 1
  funext field
  rw [Bool.eq_iff_iff, Option.isNone_iff_eq_none, Builder.lastValue?_eq_none_iff]
  simp

namespace Builder

variable {κ : Type}

theorem get_of_unset {builder : Builder κ} {field : Field} (mandatory : field ∈ Field.mandatory)
    (unset : builder.value? field = none) :
    builder.get field = .raised (.failure (Failure.missingParameter field.name)) := by
  cases field with
  | timeout => simp [Field.mandatory] at mandatory
  | leaseId => simp [Field.mandatory] at mandatory
  | clientRequestId => simp [Field.mandatory] at mandatory
  | _ =>
      unfold get
      rw [unset]

theorem get_of_set {builder : Builder κ} {field : Field} {value : Value}
    (set : builder.value? field = some value)
    (defined : field ∈ Field.unchecked → value ≠ .undefined) : builder.get field = .ok value := by
  unfold get
  rw [set]
  cases field with
  | containerName =>
      have defined : value ≠ .undefined := defined (by simp [Field.unchecked])
      cases value <;> simp_all
  | blobName =>
      have defined : value ≠ .undefined := defined (by simp [Field.unchecked])
      cases value <;> simp_all
  | _ => rfl

theorem prepare_of_unresolved {builder : Builder κ} {field : Field}
    (unresolved : builder.unresolved? = some field) (endpoint : Text) :
    prepare builder endpoint = .failed (Failure.missingParameter field.name) := by
  unfold prepare resolve
  rw [unresolved]
  rfl

/-- A delete whose builder lacks a parameter ends at once, and nothing is sent or logged. -/
theorem delete_of_unresolved {traffic : Traffic} {client : Client} {builder : Builder κ}
    {field : Field} (unresolved : builder.unresolved? = some field) (caller : Option SignalId) :
    traffic.delete client builder caller =
      (traffic.add ⟨none, .deleted (.failed (Failure.missingParameter field.name))⟩, [], none) := by
  rw [Traffic.delete, prepare_of_unresolved unresolved]

theorem delegate_of_unresolved {traffic : Traffic} {endpoint : Text} {builder : Builder κ}
    {field : Field} (unresolved : builder.unresolved? = some field) (caller : Option SignalId) :
    traffic.delegate endpoint builder caller =
      (traffic.add ⟨none, .deleted (.failed (Failure.missingParameter field.name))⟩, [], none) := by
  rw [Traffic.delegate, prepare_of_unresolved unresolved]

theorem toRequest_of_unresolved {builder : Builder κ} {field : Field}
    (unresolved : builder.unresolved? = some field) (endpoint : Value) :
    builder.toRequest endpoint = .failed (Failure.missingParameter field.name) := by
  unfold toRequest resolve
  rw [unresolved]
  rfl

theorem unresolved?_of_missing {builder : Builder κ} {field : Field}
    (missing : builder.missingParameter? = some field) : builder.unresolved? = some field := by
  simp [unresolved?, missing]

/-- What a builder answers when these calls were taken and no others.  It records what they gave
last, lacks the mandatory parameters that none of them was for, and where it lacks one, neither a
request nor a delete comes of it. -/
structure Reflects (builder : Builder κ) (taken : List (Field × Value)) : Prop where
  parameters : builder.parameters =
    Field.all.filterMap fun field => (recorded? taken field).map (field.name, ·)
  missing : builder.missingParameter? =
    Field.mandatory.find? fun field => taken.all (·.1 ≠ field)
  lacks : ∀ field ∈ Field.mandatory,
    builder.get field = .raised (.failure (Failure.missingParameter field.name)) ↔
      ∀ call ∈ taken, call.1 ≠ field
  gets : ∀ field value, lastValue? field taken = some value → builder.get field = .ok value
  unrequested : ∀ field, builder.missingParameter? = some field → ∀ endpoint,
    builder.toRequest endpoint = .failed (Failure.missingParameter field.name)
  undeleted : ∀ field, builder.missingParameter? = some field → ∀ traffic client caller,
    Traffic.delete traffic client builder caller =
      (traffic.add ⟨none, .deleted (.failed (Failure.missingParameter field.name))⟩, [], none)
  undelegated : ∀ field, builder.missingParameter? = some field → ∀ traffic endpoint caller,
    Traffic.delegate traffic endpoint builder caller =
      (traffic.add ⟨none, .deleted (.failed (Failure.missingParameter field.name))⟩, [], none)

theorem ne_undefined_of_declares {field : Field} {value : Value} (declared : field.Declares value) :
    value ≠ .undefined := by
  rintro rfl
  cases field <;> simp [Field.Declares] at declared

theorem reflects_setEach (owner : κ) {calls : List (Field × Value)}
    (declared : ∀ call ∈ calls, call.1.Declares call.2) :
    ((create owner).setEach calls).Reflects ((create owner).taken calls) := by
  have held := value?_setEach owner calls
  have gets : ∀ field value, lastValue? field ((create owner).taken calls) = some value →
      ((create owner).setEach calls).get field = .ok value := by
    intro field value last
    have member := (taken_sublist _ _).subset (lastValue?_mem last)
    exact get_of_set ((held field).trans last) fun _ =>
      ne_undefined_of_declares (declared _ member)
  exact {
    parameters := by
      rw [parameters_eq]
      simp only [recorded?, held]
    missing := by
      rw [missingParameter?_setEach, firstMissing?_eq]
    lacks := by
      intro field mandatory
      rw [← lastValue?_eq_none_iff]
      constructor
      · intro raised
        cases last : lastValue? field ((create owner).taken calls) with
        | none => rfl
        | some value => cases (gets field value last).symm.trans raised
      · intro unset
        exact get_of_unset mandatory ((held field).trans unset)
    gets := gets
    unrequested := fun field missing =>
      toRequest_of_unresolved (unresolved?_of_missing missing)
    undeleted := fun field missing _ _ =>
      delete_of_unresolved (unresolved?_of_missing missing)
    undelegated := fun field missing _ _ =>
      delegate_of_unresolved (unresolved?_of_missing missing) }

/-- A builder that was made by calls with values of their declared kinds answers as the calls say
that were taken, and histories with the same last calls make the same builder.  A builder that a run
has named stays what it is, and what it is asked is answered in the same way later on, whatever is
made of it and whatever else happens, as long as no other one takes its name. -/
theorem builder_reflects_last_calls (owner : κ) {calls : List (Field × Value)}
    (declared : ∀ call ∈ calls, call.1.Declares call.2) :
    ((create owner).setEach calls).Reflects ((create owner).taken calls) ∧
    (∀ others : List (Field × Value),
      (∀ field, lastValue? field ((create owner).taken others) =
        lastValue? field ((create owner).taken calls)) →
      (create owner).setEach others = (create owner).setEach calls) ∧
    ∀ (origin : Number) (earlier later : List Simulation.Step) (name : Text),
      (∀ step ∈ later, step.built? ≠ some name) →
      ((Simulation.Run.start origin).steps (earlier ++ later)).1.builder? name =
        ((Simulation.Run.start origin).steps earlier).1.builder? name ∧
      ∀ question : Simulation.Step, question.asked? = some name →
        (((Simulation.Run.start origin).steps (earlier ++ later)).1.step question).2 =
          (((Simulation.Run.start origin).steps earlier).1.step question).2 := by
  refine ⟨reflects_setEach owner declared, fun others => setEach_eq_of_lastValue?, ?_⟩
  intro origin earlier later name others
  have housed := (Simulation.Run.housed_start origin).steps earlier
  rw [Simulation.Run.steps_append]
  exact ⟨(Simulation.Run.builder?_steps housed others).1,
    fun question asks => Simulation.Run.answer_steps housed others asks⟩

/-- Calls of which two are refused and one is made again. -/
def refusedCalls : List (Field × Value) :=
  [(.containerName, .string "draft"), (.timeout, .number (Number.ofInt (-1))),
    (.leaseId, .string "a\nb"), (.containerName, .string "photos"),
    (.timeout, .number (Number.ofInt 30))]

/-- The calls of them that count, in another order. -/
def countingCalls : List (Field × Value) :=
  [(.timeout, .number (Number.ofInt 30)), (.containerName, .string "photos")]

/-- A client whose exchanges are scripted, and a builder on it. -/
def namingSteps : List Simulation.Step :=
  [.scriptedClient "client" "https://account1.example" .undefined, .builder "first" "client"]

theorem builder_reflects_last_calls_refused :
    (∀ call ∈ refusedCalls, call.1.Declares call.2) ∧
      ((create ()).setEach refusedCalls).Reflects
        [(.containerName, .string "draft"), (.containerName, .string "photos"),
          (.timeout, .number (Number.ofInt 30))] ∧
      (create ()).setEach countingCalls = (create ()).setEach refusedCalls ∧
      (((Simulation.Run.start .zero).steps
          (namingSteps ++ [.set "first" "second" .containerName (.string "photos")])).1.step
            (.view "first")).2 =
        (((Simulation.Run.start .zero).steps namingSteps).1.step (.view "first")).2 := by
  have declared : ∀ call ∈ refusedCalls, call.1.Declares call.2 := by
    simp only [refusedCalls, List.forall_mem_cons, List.not_mem_nil, false_implies, implies_true,
      and_true]
    exact ⟨⟨_, rfl⟩, ⟨_, rfl⟩, ⟨_, rfl⟩, ⟨_, rfl⟩, ⟨_, rfl⟩⟩
  obtain ⟨reflects, sameLast, answers⟩ := builder_reflects_last_calls () declared
  refine ⟨declared, reflects, sameLast countingCalls ?_, (answers _ _ _ "first" ?_).2 _ rfl⟩
  · intro field
    cases field <;> rfl
  · intro step member
    obtain rfl := List.mem_singleton.mp member
    decide

end Builder

end BlobStorage.DeleteBlob
