import BlobStorage.Failure.Match

/-!
# The outermost failure of a class

A failure counts as one of a class if its own class is this one or inherits from it, if it bears the
name of the class, or if its message starts with that name.  Causes are followed step by step, also
those that stand in records; but a search stops at the first value that is no failure, so nothing
behind one is found.  Failures that do not count themselves can be put around a value without a
difference to what is found in it.
-/

namespace BlobStorage

namespace ErrorClass

/-- The class that a class refines at once.  The platform's class of all errors refines none. -/
def parent? : ErrorClass → Option ErrorClass
  | .platform .error => none
  | .platform _ | .request _ => some error
  | .custom _ _ parent => some parent

/-- A class inherits from another if it is the same one or refines it, at once or through others. -/
inductive InheritsFrom (target : ErrorClass) : ErrorClass → Prop where
  | same : InheritsFrom target target
  | through {kind parent : ErrorClass} (refines : kind.parent? = some parent)
      (inherits : InheritsFrom target parent) : InheritsFrom target kind

theorem inheritsFrom_error (kind : ErrorClass) : InheritsFrom error kind := by
  induction kind with
  | platform which =>
      cases which with
      | error => exact .same
      | _ => exact .through rfl .same
  | request which => exact .through rfl .same
  | custom identity name parent induction => exact .through rfl induction

theorem InheritsFrom.of_isA {kind target : ErrorClass} (inherits : kind.isA target = true) :
    InheritsFrom target kind := by
  induction kind with
  | platform which =>
      simp only [isA, Bool.or_eq_true, beq_iff_eq, Bool.false_eq_true, or_false] at inherits
      rcases inherits with rfl | rfl
      · exact .same
      · exact inheritsFrom_error _
  | request which =>
      simp only [isA, Bool.or_eq_true, beq_iff_eq, Bool.false_eq_true, or_false] at inherits
      rcases inherits with rfl | rfl
      · exact .same
      · exact inheritsFrom_error _
  | custom identity name parent induction =>
      simp only [isA, Bool.or_eq_true, beq_iff_eq] at inherits
      rcases inherits with (rfl | rfl) | above
      · exact .same
      · exact inheritsFrom_error _
      · exact .through rfl (induction above)

theorem isA_of_parent? {kind parent target : ErrorClass} (refines : kind.parent? = some parent)
    (above : parent.isA target = true) : kind.isA target = true := by
  have root (inherits : error.isA target = true) : target = error := by
    simp only [isA, Bool.or_eq_true, beq_iff_eq, Bool.false_eq_true, or_false] at inherits
    exact inherits.elim Eq.symm id
  cases kind with
  | platform which =>
      cases which with
      | error => cases refines
      | _ =>
          obtain rfl := Option.some.inj refines
          simp [isA, root above]
  | request which =>
      obtain rfl := Option.some.inj refines
      simp [isA, root above]
  | custom identity name parent =>
      obtain rfl := Option.some.inj refines
      simp [isA, above]

theorem isA_self (kind : ErrorClass) : kind.isA kind = true := by
  cases kind <;> simp [isA]

theorem isA_eq_true_iff {kind target : ErrorClass} :
    kind.isA target = true ↔ InheritsFrom target kind := by
  refine ⟨InheritsFrom.of_isA, fun inherits => ?_⟩
  induction inherits with
  | same => exact isA_self target
  | through refines _ induction => exact isA_of_parent? refines induction

end ErrorClass

namespace Failure

theorem causes_eq {failure : Failure} : (Value.failure failure).causes =
    failure :: (failure.cause.map Value.causes).getD [] := by
  obtain ⟨kind, name, message, cause, detail⟩ := failure
  cases cause <;> rfl

/-- A failure counts as one of a class by its own class, by its name, or by its message.  A name
that is empty starts no message. -/
inductive Counts (target : ErrorClass) (failure : Failure) : Prop where
  | inherits (inherits : target.InheritsFrom failure.kind)
  | named (named : failure.name = .string target.name)
  | worded (filled : target.name ≠ []) (rest : Text)
      (starts : failure.message = some (.string (target.name ++ rest)))

theorem isNamed_eq_true_iff {name : Text} {failure : Failure} :
    failure.isNamed name = true ↔ failure.name = .string name := by
  unfold isNamed
  cases failure.name <;> simp

theorem messageStartsWith_eq_true_iff {name : Text} {failure : Failure} :
    failure.messageStartsWith name = true ↔
      name ≠ [] ∧ ∃ rest, failure.message = some (.string (name ++ rest)) := by
  unfold messageStartsWith
  split
  · rename_i message worded
    rw [worded, Bool.and_eq_true, List.isPrefixOf_iff_prefix]
    simp [List.IsPrefix, @eq_comm _ message]
  · rename_i other
    constructor
    · intro starts
      cases starts
    · rintro ⟨-, rest, worded⟩
      exact absurd worded (other _)

theorem counts_eq_true_iff {target : ErrorClass} {failure : Failure} :
    failure.counts target = true ↔ failure.Counts target := by
  simp only [counts, Bool.or_eq_true, ErrorClass.isA_eq_true_iff, isNamed_eq_true_iff,
    messageStartsWith_eq_true_iff]
  constructor
  · rintro ((inherits | named) | ⟨filled, rest, starts⟩)
    · exact .inherits inherits
    · exact .named named
    · exact .worded filled rest starts
  · intro found
    cases found with
    | inherits inherits => exact .inl (.inl inherits)
    | named named => exact .inl (.inr named)
    | worded filled rest starts => exact .inr ⟨filled, rest, starts⟩

end Failure

namespace Value

/-- What a value gives as its cause: the cause of a failure, or what a record holds under that
name. -/
def cause? : Value → Option Value
  | failure reported => reported.cause
  | record entries => entry? "cause" entries
  | _ => none

/-- The value that stands a number of causes deep, whichever values stand before it. -/
def causeAt? : Value → Nat → Option Value
  | value, 0 => some value
  | value, depth + 1 => value.cause?.bind (causeAt? · depth)

/-- A value with failures around it, the outermost first; the causes that these had are gone. -/
def wrappedIn (value : Value) : List Failure → Value
  | [] => value
  | wrapper :: wrappers => failure (wrapper.withCause (some (value.wrappedIn wrappers)))

/-- A failure that counts as one of a class stands a number of causes deep, and all before it are
failures that do not count. -/
structure Outermost (target : ErrorClass) (value : Value) (depth : Nat) (found : Failure) :
    Prop where
  stands : value.causeAt? depth = some (failure found)
  counts : found.Counts target
  passed : ∀ before < depth, ∃ other : Failure,
    value.causeAt? before = some (failure other) ∧ ¬other.Counts target

/-- The chain of causes goes as far as every value on the way is a failure. -/
theorem getElem?_causes_eq_some_iff {value : Value} {depth : Nat} {found : Failure} :
    value.causes[depth]? = some found ↔ value.causeAt? depth = some (failure found) ∧
      ∀ before < depth, ∃ other : Failure, value.causeAt? before = some (failure other) := by
  induction depth generalizing value with
  | zero =>
      cases value with
      | failure own => simp [Failure.causes_eq, causeAt?]
      | _ => simp [causes, causeAt?]
  | succ depth induction =>
      rw [Nat.forall_lt_succ_left]
      cases value with
      | failure own =>
          cases cause : own.cause with
          | none => simp [Failure.causes_eq, causeAt?, cause?, cause]
          | some behind => simp [Failure.causes_eq, causeAt?, cause?, cause, induction]
      | _ => simp [causes, causeAt?]

variable {target : ErrorClass} {value : Value} {depth : Nat} {found : Failure}

/-- The outermost failure of a class, told by its place among the failures of the chain. -/
theorem outermost_iff : Outermost target value depth found ↔
    value.unwrapDepth? target = some depth ∧ value.causes[depth]? = some found := by
  rw [unwrapDepth?, List.findIdx?_eq_some_iff_getElem, List.getElem?_eq_some_iff]
  simp only [Failure.counts_eq_true_iff]
  constructor
  · rintro ⟨stands, counts, passed⟩
    have failures : ∀ before < depth, ∃ other : Failure,
        value.causeAt? before = some (failure other) := by
      intro before earlier
      obtain ⟨other, standsBefore, -⟩ := passed before earlier
      exact ⟨other, standsBefore⟩
    obtain ⟨inside, own⟩ :=
      List.getElem?_eq_some_iff.mp (getElem?_causes_eq_some_iff.mpr ⟨stands, failures⟩)
    refine ⟨⟨inside, own ▸ counts, ?_⟩, inside, own⟩
    intro before earlier
    obtain ⟨other, standsBefore, uncounted⟩ := passed before earlier
    have listed := getElem?_causes_eq_some_iff.mpr
      ⟨standsBefore, fun first sooner => failures first (Nat.lt_trans sooner earlier)⟩
    obtain ⟨_, same⟩ := List.getElem?_eq_some_iff.mp listed
    exact same ▸ uncounted
  · rintro ⟨⟨inside, counts, passed⟩, -, rfl⟩
    have stands : ∀ place (among : place < value.causes.length),
        value.causeAt? place = some (failure value.causes[place]) := fun place among =>
      (getElem?_causes_eq_some_iff.mp (List.getElem?_eq_getElem among)).1
    refine ⟨stands depth inside, counts, ?_⟩
    intro before earlier
    exact ⟨_, stands before (Nat.lt_trans earlier inside), passed before earlier⟩

theorem unwrap?_eq_some_iff :
    value.unwrap? target = some found ↔ ∃ depth, Outermost target value depth found := by
  simp only [unwrap?, List.find?_eq_bind_findIdx?_getElem?, Option.bind_eq_some_iff, outermost_iff,
    unwrapDepth?]

theorem unwrapDepth?_eq_some_iff :
    value.unwrapDepth? target = some depth ↔ ∃ found, Outermost target value depth found := by
  simp only [outermost_iff, exists_and_left, iff_self_and]
  intro placed
  obtain ⟨inside, -⟩ := List.findIdx?_eq_some_iff_getElem.mp placed
  exact ⟨_, List.getElem?_eq_getElem inside⟩

theorem unwrap?_eq_none_iff :
    value.unwrap? target = none ↔ ∀ (depth : Nat) (found : Failure),
      value.causeAt? depth = some (failure found) →
      (∀ before < depth, ∃ other : Failure, value.causeAt? before = some (failure other)) →
      ¬found.Counts target := by
  simp only [unwrap?, List.find?_eq_none, Failure.counts_eq_true_iff, List.mem_iff_getElem?,
    getElem?_causes_eq_some_iff]
  constructor
  · intro uncounted depth found stands failures
    exact uncounted found ⟨depth, stands, failures⟩
  · rintro uncounted found ⟨depth, stands, failures⟩
    exact uncounted depth found stands failures

theorem Outermost.lt_of_other (outermost : Outermost target value depth found) {place : Nat}
    {other : Value} (stands : value.causeAt? place = some other)
    (foreign : ∀ own, other ≠ failure own) : depth < place := by
  apply Nat.lt_of_not_le
  intro behind
  rcases Nat.lt_or_eq_of_le behind with earlier | rfl
  · obtain ⟨own, same, -⟩ := outermost.passed place earlier
    exact foreign own (Option.some.inj (stands.symm.trans same))
  · exact foreign found (Option.some.inj (stands.symm.trans outermost.stands))

theorem unwrap_of_uncounted {wrapper : Failure} (uncounted : ¬wrapper.Counts target)
    (cause : Value) :
    (failure (wrapper.withCause (some cause))).unwrap? target = cause.unwrap? target ∧
      (failure (wrapper.withCause (some cause))).unwrapDepth? target =
        (cause.unwrapDepth? target).map (· + 1) := by
  have passes : (wrapper.withCause (some cause)).counts target = false := by
    rw [← Bool.not_eq_true, Failure.counts_eq_true_iff]
    rintro (inherits | named | ⟨filled, rest, starts⟩)
    · exact uncounted (.inherits inherits)
    · exact uncounted (.named named)
    · exact uncounted (.worded filled rest starts)
  have chain : (failure (wrapper.withCause (some cause))).causes =
      wrapper.withCause (some cause) :: cause.causes := Failure.causes_eq
  rw [unwrap?, unwrapDepth?, chain, List.find?_cons_of_neg (by simp [passes]),
    List.findIdx?_cons, passes]
  exact ⟨rfl, rfl⟩

/-- Failures that do not count make no difference around a value, but for the depth. -/
theorem unwrap_wrappedIn {wrappers : List Failure}
    (uncounted : ∀ wrapper ∈ wrappers, ¬wrapper.Counts target) (value : Value) :
    (value.wrappedIn wrappers).unwrap? target = value.unwrap? target ∧
      (value.wrappedIn wrappers).unwrapDepth? target =
        (value.unwrapDepth? target).map (· + wrappers.length) := by
  induction wrappers with
  | nil => simp [wrappedIn]
  | cons wrapper wrappers induction =>
      rw [List.forall_mem_cons] at uncounted
      obtain ⟨same, deeper⟩ := unwrap_of_uncounted uncounted.1 (value.wrappedIn wrappers)
      obtain ⟨sameBelow, deeperBelow⟩ := induction uncounted.2
      rw [wrappedIn, same, deeper, sameBelow, deeperBelow, Option.map_map]
      refine ⟨rfl, ?_⟩
      congr 1

/-- What is found is the outermost failure of the class on the chain of causes, at the depth where
it stands, and nothing is found if and only if no failure counts that is reached through failures
alone.  So failures that do not count can be put around a value without a difference, and what
stands behind a value that is no failure is never found.  A message that the platform words starts
with no name here; with the platform's text in its place all this holds as well. -/
theorem unwrap?_outermost (target : ErrorClass) (value : Value) :
    (∀ found, value.unwrap? target = some found ↔
      ∃ depth, Outermost target value depth found) ∧
    (∀ depth, value.unwrapDepth? target = some depth ↔
      ∃ found, Outermost target value depth found) ∧
    (value.unwrap? target = none ↔ ∀ (depth : Nat) (found : Failure),
      value.causeAt? depth = some (failure found) →
      (∀ before < depth, ∃ other : Failure, value.causeAt? before = some (failure other)) →
      ¬found.Counts target) ∧
    (∀ wrappers : List Failure, (∀ wrapper ∈ wrappers, ¬wrapper.Counts target) →
      (value.wrappedIn wrappers).unwrap? target = value.unwrap? target ∧
        (value.wrappedIn wrappers).unwrapDepth? target =
          (value.unwrapDepth? target).map (· + wrappers.length)) ∧
    ∀ place other, value.causeAt? place = some other → (∀ own, other ≠ failure own) →
      ∀ depth, value.unwrapDepth? target = some depth → depth < place := by
  refine ⟨fun found => unwrap?_eq_some_iff, fun depth => unwrapDepth?_eq_some_iff,
    unwrap?_eq_none_iff, fun wrappers uncounted => unwrap_wrappedIn uncounted value, ?_⟩
  intro place other stands foreign depth found
  obtain ⟨own, outermost⟩ := unwrapDepth?_eq_some_iff.mp found
  exact outermost.lt_of_other stands foreign

/-- A failure of the transport is found behind others, and not behind a record. -/
example :
    let lost := failure (Failure.transport "connection lost" none)
    let outer := Failure.plain .error "outer"
    (lost.wrappedIn [outer, outer]).unwrapDepth? (.request .transport) = some 2 ∧
      (wrappedIn (.record [("cause", lost)]) [outer]).causeAt? 2 = some lost ∧
      (wrappedIn (.record [("cause", lost)]) [outer]).unwrapDepth? (.request .transport) = none :=
  ⟨by decide, rfl, by decide⟩

end Value

end BlobStorage
