import BlobStorage.Proofs.MissingParameter

/-!
# When a builder is complete

A builder says that it is complete when all mandatory parameters were set, to whichever values.  Its
accessors, its request and a delete also miss a name that was set to undefined.  So they agree with
what the builder says if and only if it lacks a parameter or has no undefined name.
-/

namespace BlobStorage

namespace DeleteBlob

namespace Builder

variable {κ : Type} {builder : Builder κ}

/-- A parameter was not set, or it is a name that is undefined. -/
def Lacks (builder : Builder κ) (field : Field) : Prop :=
  builder.value? field = none ∨ field ∈ Field.unchecked ∧ builder.value? field = some .undefined

theorem get_of_undefined {field : Field} (unchecked : field ∈ Field.unchecked)
    (undefined : builder.value? field = some .undefined) :
    builder.get field = .raised (.failure (Failure.missingParameter field.name)) := by
  unfold get
  rw [undefined]
  cases field with
  | containerName => rfl
  | blobName => rfl
  | _ => simp [Field.unchecked] at unchecked

theorem mem_mandatory_of_unchecked {field : Field} (unchecked : field ∈ Field.unchecked) :
    field ∈ Field.mandatory :=
  List.mem_of_mem_take (i := 2) unchecked

/-- The accessors of mandatory parameters report exactly those that are lacking. -/
theorem missing?_get {field : Field} (mandatory : field ∈ Field.mandatory) :
    (builder.get field).missing? = none ↔ ¬ builder.Lacks field := by
  by_cases lacks : builder.Lacks field
  · have raised : builder.get field = .raised (.failure (Failure.missingParameter field.name)) := by
      rcases lacks with unset | ⟨unchecked, undefined⟩
      · exact get_of_unset mandatory unset
      · exact get_of_undefined unchecked undefined
    rw [raised]
    exact ⟨fun silent => (nomatch silent), fun held => absurd lacks held⟩
  · obtain ⟨unset, undefined⟩ := not_or.mp lacks
    obtain ⟨value, set⟩ := Option.ne_none_iff_exists'.mp unset
    rw [get_of_set set fun unchecked same => undefined ⟨unchecked, same ▸ set⟩]
    exact ⟨fun _ => lacks, fun _ => rfl⟩

/-- The first name that is undefined. -/
def undefinedName? (builder : Builder κ) : Option Field :=
  Field.unchecked.find? fun field => (builder.value? field) matches some .undefined

theorem unresolved?_eq (builder : Builder κ) :
    builder.unresolved? = builder.missingParameter?.or builder.undefinedName? := rfl

theorem undefinedName?_eq_none_iff :
    builder.undefinedName? = none ↔
      ∀ field ∈ Field.unchecked, builder.value? field ≠ some .undefined := by
  rw [undefinedName?, List.find?_eq_none]
  refine forall₂_congr fun field _ => not_congr ?_
  split
  · rename_i undefined
    simp [undefined]
  · rename_i other
    simpa using other

theorem unresolved?_eq_none_iff :
    builder.unresolved? = none ↔ ∀ field ∈ Field.mandatory, ¬ builder.Lacks field := by
  rw [unresolved?_eq, Option.or_eq_none_iff, undefinedName?_eq_none_iff,
    missingParameter?_eq_none_iff]
  constructor
  · rintro ⟨set, defined⟩ field mandatory (unset | ⟨unchecked, undefined⟩)
    · exact absurd (set field mandatory) (by simp [unset])
    · exact defined field unchecked undefined
  · intro held
    refine ⟨fun field mandatory => ?_, fun field unchecked undefined => ?_⟩
    · exact Option.isSome_iff_ne_none.mpr fun unset => held field mandatory (.inl unset)
    · exact held field (mem_mandatory_of_unchecked unchecked) (.inr ⟨unchecked, undefined⟩)

/-- What is missing is what the builder says, unless it says that nothing is and a name is
undefined. -/
theorem unresolved?_eq_missingParameter?_iff :
    builder.unresolved? = builder.missingParameter? ↔
      (builder.missingParameter? = none →
        ∀ field ∈ Field.unchecked, builder.value? field ≠ some .undefined) := by
  rw [← undefinedName?_eq_none_iff, unresolved?_eq]
  cases builder.missingParameter? with
  | some field => simp
  | none => simp

theorem missing?_prepare (resolved : builder.unresolved? = none) (endpoint : Text) :
    (prepare builder endpoint).missing? = none := by
  unfold prepare
  rw [resolve_of_resolved resolved]
  refine Outcome.missing?_bind (Outcome.missing?_ok builder.heldParameters) fun parameters => ?_
  exact Outcome.missing?_bind (missing?_request ..) fun _ => rfl

theorem exchange_unmissing (traffic : Traffic) (client : Client) (parameters : Parameters)
    (uri verb : Text) (mutator : Client.Mutator) (body : Value) (caller : Option SignalId) :
    ∃ stage : Stage,
      (traffic.exchange client (.delete parameters) uri verb mutator body caller).1.stage?
        traffic.calls.length = some stage ∧
      stage.missing? = none ∧ ∀ others, stage ≠ .delegated others := by
  rw [Traffic.exchange_eq]
  split
  · rw [afterConclusion_transport]
    exact ⟨_, stage?_add traffic traffic.world _, rfl, by simp⟩
  · exact ⟨_, stage?_add traffic traffic.world _, rfl, by simp [Stage.broken]⟩
  · exact ⟨_, stage?_add traffic _ _, rfl, by simp [Stage.broken]⟩
  · exact ⟨_, stage?_add traffic _ _, rfl, by simp [Traffic.waitingCall]⟩

theorem delete_unmissing (resolved : builder.unresolved? = none) (traffic : Traffic)
    (client : Client) (caller : Option SignalId) :
    ∃ stage : Stage, (traffic.delete client builder caller).1.stage? traffic.calls.length =
        some stage ∧
      stage.missing? = none ∧ ∀ others, stage ≠ .delegated others := by
  have prepared := missing?_prepare resolved client.blobEndpoint
  unfold Traffic.delete
  split
  · rename_i failure failed
    rw [failed] at prepared
    exact ⟨_, stage?_add traffic traffic.world _, prepared, by simp⟩
  · rename_i reason raised
    rw [raised] at prepared
    exact ⟨_, stage?_add traffic traffic.world _, (Outcome.missing?_raised reason).trans prepared,
      by simp⟩
  · exact exchange_unmissing ..

theorem delegate_unmissing (resolved : builder.unresolved? = none) (traffic : Traffic)
    (endpoint : Text) (caller : Option SignalId) :
    ∃ stage : Stage, (traffic.delegate endpoint builder caller).1.stage? traffic.calls.length =
        some stage ∧
      stage.missing? = none := by
  have prepared := missing?_prepare resolved endpoint
  unfold Traffic.delegate
  split
  · rename_i failure failed
    rw [failed] at prepared
    exact ⟨_, stage?_add traffic traffic.world _, prepared⟩
  · rename_i reason raised
    rw [raised] at prepared
    exact ⟨_, stage?_add traffic traffic.world _, (Outcome.missing?_raised reason).trans prepared⟩
  · exact ⟨_, stage?_add traffic traffic.world _, rfl⟩

/-- A delete reports a missing parameter if and only if its builder has one, whatever happens in the
run, and it reports that one. -/
theorem missing?_run_delete (builder : Builder κ) (before : History) (client : Client)
    (caller : Option SignalId) (later : List (Event κ)) :
    ((before.run (.delete client builder caller :: later)).traffic.stage?
        before.traffic.calls.length).bind Stage.missing? =
      builder.unresolved?.map fun field => Failure.missingParameter field.name := by
  rw [History.run_cons]
  cases unresolved : builder.unresolved? with
  | some field =>
      have found : (before.step (.delete client builder caller)).traffic.stage?
          before.traffic.calls.length =
            some (.deleted (.failed (Failure.missingParameter field.name))) := by
        change (before.traffic.delete client builder caller).1.stage? _ = _
        rw [delete_of_unresolved unresolved]
        exact stage?_add before.traffic before.traffic.world _
      rw [History.stage?_run_of_isEnded found rfl]
      rfl
  | none =>
      obtain ⟨stage, found, clean, own⟩ := delete_unmissing unresolved before.traffic client caller
      have started : (before.step (.delete client builder caller)).traffic.stage?
          before.traffic.calls.length = some stage := found
      exact History.missing?_run started clean
        fun parameters reason delegated => absurd delegated (own parameters)

theorem missing?_run_delegate (builder : Builder κ) (before : History) (endpoint : Text)
    (caller : Option SignalId) {later : List (Event κ)}
    (honest : ∀ reason, .conclude before.traffic.calls.length (.broke reason) ∈ later →
      (.raised reason : Outcome Response).missing? = none) :
    ((before.run (.delegate endpoint builder caller :: later)).traffic.stage?
        before.traffic.calls.length).bind Stage.missing? =
      builder.unresolved?.map fun field => Failure.missingParameter field.name := by
  rw [History.run_cons]
  cases unresolved : builder.unresolved? with
  | some field =>
      have found : (before.step (.delegate endpoint builder caller)).traffic.stage?
          before.traffic.calls.length =
            some (.deleted (.failed (Failure.missingParameter field.name))) := by
        change (before.traffic.delegate endpoint builder caller).1.stage? _ = _
        rw [delegate_of_unresolved unresolved]
        exact stage?_add before.traffic before.traffic.world _
      rw [History.stage?_run_of_isEnded found rfl]
      rfl
  | none =>
      obtain ⟨stage, found, clean⟩ := delegate_unmissing unresolved before.traffic endpoint caller
      have started : (before.step (.delegate endpoint builder caller)).traffic.stage?
          before.traffic.calls.length = some stage := found
      exact History.missing?_run started clean fun _ reason _ => honest reason

/-- What the checks of a builder come to, whichever values its parameters were set to.  All of them
but those of the builder itself go by `unresolved?`: the accessors are without a report if it is
none, and else it is what a request and a delete report.  It is what the builder itself says to be
missing, unless the builder says that nothing is and the last value of a name is undefined. -/
theorem completeness_checks (owner : κ) (calls : List (Field × Value)) :
    let builder := (create owner).setEach calls
    let reported := builder.unresolved?.map fun field => Failure.missingParameter field.name
    (builder.isComplete = true ↔ builder.missingParameter? = none) ∧
    (builder.unresolved? = builder.missingParameter? ↔
      (builder.missingParameter? = none → ∀ field ∈ Field.unchecked,
        lastValue? field ((create owner).taken calls) ≠ some .undefined)) ∧
    (builder.unresolved? = none ↔
      ∀ field ∈ Field.mandatory, (builder.get field).missing? = none) ∧
    (∀ endpoint, (builder.toRequest endpoint).missing? = reported) ∧
    (∀ (before : History) (client : Client) (caller : Option SignalId) (later : List (Event κ)),
      ((before.run (.delete client builder caller :: later)).traffic.stage?
        before.traffic.calls.length).bind Stage.missing? = reported) ∧
    ∀ (before : History) (endpoint : Text) (caller : Option SignalId) (later : List (Event κ)),
      (∀ reason, .conclude before.traffic.calls.length (.broke reason) ∈ later →
        (.raised reason : Outcome Response).missing? = none) →
      ((before.run (.delegate endpoint builder caller :: later)).traffic.stage?
        before.traffic.calls.length).bind Stage.missing? = reported := by
  intro builder reported
  refine ⟨?_, ?_, ?_, ?_, ?_, ?_⟩
  · rw [isComplete, Option.isNone_iff_eq_none]
  · simp only [← value?_setEach]
    exact unresolved?_eq_missingParameter?_iff
  · rw [unresolved?_eq_none_iff]
    exact forall₂_congr fun field mandatory => (missing?_get mandatory).symm
  · exact missing?_toRequest builder
  · exact missing?_run_delete builder
  · exact fun before endpoint caller later => missing?_run_delegate builder before endpoint caller

/-- The mandatory parameters are set, the name of the blob to undefined at first. -/
def renamedCalls : List (Field × Value) :=
  [(.containerName, .string "photos"), (.blobName, .undefined), (.blobName, .string "photo.jpg"),
    (.deleteSnapshotsMethod, .string "include")]

/-- Others who carry out the exchange of a complete builder break off: the delete does not report
that a parameter is missing. -/
theorem completeness_checks_delegated :
    (((create ()).setEach renamedCalls).get .blobName).missing? = none ∧
      (((History.start .zero).run [
        .delegate "https://account1.example" ((create ()).setEach renamedCalls) none,
        .conclude 0 (.broke (.string "gone"))]).traffic.stage? 0).bind Stage.missing? = none := by
  obtain ⟨-, -, accessors, -, -, delegated⟩ := completeness_checks () renamedCalls
  have resolved : ((create ()).setEach renamedCalls).unresolved? = none := rfl
  have silent := delegated (History.start .zero) "https://account1.example" none
    [.conclude 0 (.broke (.string "gone"))] fun reason broke => by
      obtain ⟨-, rfl⟩ : _ ∧ reason = .string "gone" := by simpa using broke
      rfl
  rw [resolved] at silent
  exact ⟨accessors.mp resolved .blobName (by decide), silent⟩

/-- A builder on which all mandatory parameters were set, the container to undefined. -/
def undefinedContainer : Builder Unit :=
  (create ()).setEach [(.containerName, .undefined), (.blobName, .string "photo.jpg"),
    (.deleteSnapshotsMethod, .string "include")]

/-- The builder says that it is complete; its accessor, its request and a delete say that it lacks
its container. -/
theorem undefined_name_unnoticed :
    undefinedContainer.isComplete = true ∧ undefinedContainer.missingParameter? = none ∧
      undefinedContainer.get .containerName =
        .raised (.failure (Failure.missingParameter "containerName")) ∧
      undefinedContainer.toRequest (.string "https://account1.example") =
        .failed (Failure.missingParameter "containerName") ∧
      ((History.start .zero).run
          [.delete (Client.ofConfig sampleConfig) undefinedContainer none]).traffic.stage? 0 =
        some (.deleted (.failed (Failure.missingParameter "containerName"))) :=
  ⟨rfl, rfl, rfl, rfl, rfl⟩

end Builder

end DeleteBlob

end BlobStorage
