import BlobStorage.Proofs.ConfigReading
import BlobStorage.Proofs.AcceptedTimeout

/-!
# What readers read

A reader is described by a relation between values and what they are read as.  A value that is read
as nothing breaks rules, and every issue about it stands at the path of the value or below
(`Reader.Reads`).  Each way to put readers together has one lemma here, so that the relation of a
reader is found along its definition.
-/

namespace BlobStorage

/-- What stands under a name among entries, undefined if nothing does. -/
def Value.under (name : Text) (entries : List (Text × Value)) : Value :=
  (Value.entry? name entries).getD .undefined

/-- A value, or the one that takes its place when it is undefined. -/
def Value.orDefault (value fallback : Value) : Value :=
  match value with
  | .undefined => fallback
  | other => other

theorem Value.orDefault_of_ne {value : Value} (defined : value ≠ .undefined) (fallback : Value) :
    value.orDefault fallback = value := by
  cases value with
  | undefined => exact absurd rfl defined
  | _ => rfl

namespace Verdict

variable {α β γ : Type}

/-- A verdict on the value at a path: it is read as what it means.  A value that means nothing is
reported, by issues at its path or below. -/
structure States (verdict : Verdict α) (path : List Text) (means : α → Prop) : Prop where
  valid_iff (reading : α) : verdict = .valid reading ↔ means reading
  exists_of_silent : verdict.issues = [] → ∃ reading, means reading
  below : ∀ issue ∈ verdict.issues, path <+: issue.path

namespace States

variable {verdict : Verdict α} {path : List Text} {means : α → Prop}

theorem congr (states : verdict.States path means) {same : α → Prop}
    (iff : ∀ reading, means reading ↔ same reading) : verdict.States path same := by
  constructor
  · intro reading
    exact (states.valid_iff reading).trans (iff reading)
  · intro silent
    obtain ⟨reading, meant⟩ := states.exists_of_silent silent
    exact ⟨reading, (iff reading).mp meant⟩
  · exact states.below

theorem issues_eq_nil_iff (states : verdict.States path means) :
    verdict.issues = [] ↔ ∃ reading, means reading := by
  constructor
  · exact states.exists_of_silent
  · rintro ⟨reading, meant⟩
    rw [(states.valid_iff reading).mpr meant]
    rfl

theorem lift (states : verdict.States path means) {outer : List Text} (inner : outer <+: path) :
    verdict.States outer means := by
  constructor
  · exact states.valid_iff
  · exact states.exists_of_silent
  · intro issue member
    exact inner.trans (states.below issue member)

/-- A verdict without a reading is one on a value that means nothing. -/
theorem nothing (states : verdict.States path means) (refused : verdict.value? = none)
    (reading : α) : ¬means reading := by
  intro meant
  rw [(states.valid_iff reading).mpr meant] at refused
  cases refused

theorem reported (states : verdict.States path means) (refused : verdict.value? = none) :
    verdict.issues ≠ [] := by
  intro silent
  obtain ⟨reading, meant⟩ := states.exists_of_silent silent
  exact states.nothing refused reading meant

theorem map (states : verdict.States path means) (f : α → β) :
    (verdict.map f).States path fun image => ∃ reading, means reading ∧ f reading = image := by
  constructor
  · intro image
    constructor
    · intro valid
      obtain ⟨reading, rfl, same⟩ := map_eq_valid valid
      exact ⟨reading, (states.valid_iff reading).mp rfl, same⟩
    · rintro ⟨reading, meant, rfl⟩
      rw [(states.valid_iff reading).mpr meant]
      rfl
  · intro silent
    rw [issues_map] at silent
    obtain ⟨reading, meant⟩ := states.exists_of_silent silent
    exact ⟨f reading, reading, meant, rfl⟩
  · rw [issues_map]
    exact states.below

theorem both {other : Verdict β} {meansOther : β → Prop} (states : verdict.States path means)
    (statesOther : other.States path meansOther) (f : α → β → γ) :
    (Verdict.both f verdict other).States path fun image =>
      ∃ first second, means first ∧ meansOther second ∧ f first second = image := by
  constructor
  · intro image
    constructor
    · intro valid
      obtain ⟨first, second, rfl, rfl, same⟩ := both_eq_valid valid
      exact ⟨first, second, (states.valid_iff first).mp rfl,
        (statesOther.valid_iff second).mp rfl, same⟩
    · rintro ⟨first, second, meant, meantOther, rfl⟩
      rw [(states.valid_iff first).mpr meant, (statesOther.valid_iff second).mpr meantOther]
      rfl
  · intro silent
    rw [issues_both, List.append_eq_nil_iff] at silent
    obtain ⟨first, meant⟩ := states.exists_of_silent silent.1
    obtain ⟨second, meantOther⟩ := statesOther.exists_of_silent silent.2
    exact ⟨f first second, first, second, meant, meantOther, rfl⟩
  · intro issue member
    rw [issues_both, List.mem_append] at member
    rcases member with first | second
    · exact states.below issue first
    · exact statesOther.below issue second

end States

theorem states_valid (reading : α) (path : List Text) :
    (valid reading).States path fun other => reading = other := by
  constructor
  · intro other
    exact ⟨Verdict.valid.inj, congrArg valid⟩
  · intro _
    exact ⟨reading, rfl⟩
  · intro issue member
    cases member

theorem states_refused {verdict : Verdict α} {path : List Text} {means : α → Prop}
    (refused : verdict.value? = none) (nothing : ∀ reading, ¬means reading)
    (reported : verdict.issues ≠ []) (below : ∀ issue ∈ verdict.issues, path <+: issue.path) :
    verdict.States path means := by
  constructor
  · intro reading
    constructor
    · rintro rfl
      cases refused
    · intro meant
      exact absurd meant (nothing reading)
  · intro silent
    exact absurd silent reported
  · exact below

theorem states_invalid (issue : Issue) {means : α → Prop} (nothing : ∀ reading, ¬means reading) :
    (invalid [issue]).States issue.path means := by
  have reported : (invalid [issue] : Verdict α).issues ≠ [] := List.cons_ne_nil issue []
  apply states_refused rfl nothing reported
  intro other member
  have same : other = issue := List.mem_singleton.mp member
  exact same ▸ List.prefix_refl other.path

/-- Checks of one value: it is read if it fails none of them. -/
theorem states_ofChecks (value : α) {path : List Text} {issues : List Issue} {passes : Prop}
    (passed : issues = [] ↔ passes) (located : ∀ issue ∈ issues, issue.path = path) :
    (ofChecks value issues).States path fun reading => value = reading ∧ passes := by
  constructor
  · intro reading
    constructor
    · intro valid
      obtain ⟨silent, same⟩ := ofChecks_eq_valid valid
      exact ⟨same, passed.mp silent⟩
    · rintro ⟨rfl, passing⟩
      rw [passed.mpr passing]
      rfl
  · intro silent
    rw [issues_ofChecks] at silent
    exact ⟨value, rfl, passed.mp silent⟩
  · rw [issues_ofChecks]
    intro issue member
    exact located issue member ▸ List.prefix_refl issue.path

end Verdict

namespace Reader

variable {α β : Type}

/-- What a reader makes of values: the relation says which of them are read as what. -/
def Reads (reader : Reader α) (relates : Value → α → Prop) : Prop :=
  ∀ path value, (reader path value).States path (relates value)

theorem Reads.read_eq_ok_iff {reader : Reader α} {relates : Value → α → Prop}
    (reads : reader.Reads relates) {value : Value} {reading : α} :
    Validation.read reader value = .ok reading ↔ relates value reading := by
  apply Iff.trans _ ((reads [] value).valid_iff reading)
  constructor
  · intro accepted
    unfold Validation.read at accepted
    split at accepted
    · rename_i valid
      rw [valid, Outcome.ok.inj accepted]
    all_goals
      unfold Validation.failWith at accepted
      split at accepted <;> cases accepted
  · intro valid
    rw [Validation.read, valid]

theorem Reads.congr {reader : Reader α} {relates same : Value → α → Prop}
    (reads : reader.Reads relates)
    (iff : ∀ value reading, relates value reading ↔ same value reading) : reader.Reads same :=
  fun path value => (reads path value).congr (iff value)

/-! ## Single values -/

theorem states_wrongKind (expected : Text) (path : List Text) (value : Value) {means : α → Prop}
    (nothing : ∀ reading, ¬means reading) : (wrongKind expected path value).States path means :=
  Verdict.states_invalid (.wrongKind expected (kindName value) path) nothing

theorem reads_text : text.Reads fun value reading => value = .string reading := by
  intro path value
  cases value with
  | string own =>
      apply (Verdict.states_valid own path).congr
      intro reading
      exact ⟨congrArg Value.string, Value.string.inj⟩
  | _ =>
      apply states_wrongKind
      intro reading same
      cases same

theorem reads_boolean : boolean.Reads fun value reading => value = .boolean reading := by
  intro path value
  cases value with
  | boolean own =>
      apply (Verdict.states_valid own path).congr
      intro reading
      exact ⟨congrArg Value.boolean, Value.boolean.inj⟩
  | _ =>
      apply states_wrongKind
      intro reading same
      cases same

theorem reads_checkedText {passes : Text → Bool} {issue : List Text → Issue}
    (located : ∀ path, (issue path).path = path) :
    (checkedText passes issue).Reads fun value reading =>
      value = .string reading ∧ passes reading = true := by
  intro path value
  cases value with
  | string own =>
      have passed : (if passes own then [] else [issue path]) = [] ↔ passes own = true := by
        cases passes own <;> simp
      have broken : ∀ broken ∈ (if passes own then [] else [issue path]), broken.path = path := by
        intro broken member
        split at member
        · cases member
        · rw [List.mem_singleton.mp member, located]
      apply (Verdict.states_ofChecks own passed broken).congr
      intro reading
      constructor
      · rintro ⟨rfl, passing⟩
        exact ⟨rfl, passing⟩
      · rintro ⟨same, passing⟩
        cases same
        exact ⟨rfl, passing⟩
  | _ =>
      apply states_wrongKind
      rintro reading ⟨same, -⟩
      cases same

theorem reads_oneOf (options : List Text) :
    (oneOf options).Reads fun value reading => value = .string reading ∧ reading ∈ options := by
  intro path value
  cases value with
  | string own =>
      rw [oneOf]
      by_cases among : own ∈ options
      · rw [if_pos (List.contains_iff_mem.mpr among)]
        apply (Verdict.states_valid own path).congr
        intro reading
        constructor
        · rintro rfl
          exact ⟨rfl, among⟩
        · rintro ⟨same, -⟩
          exact Value.string.inj same
      · rw [if_neg (mt List.contains_iff_mem.mp among)]
        apply Verdict.states_invalid (.notAmong options own path)
        rintro reading ⟨same, inside⟩
        rw [Value.string.inj same] at among
        exact among inside
  | _ =>
      apply Verdict.states_invalid (.noText options _ path)
      rintro reading ⟨same, -⟩
      cases same

theorem states_positiveNumber (own : Number) (path : List Text) :
    (Verdict.ofChecks own
      ((if own.isInteger then [] else [.notInteger path]) ++
        (if own.isPositive then [] else [.notPositive path]))).States path fun reading =>
      Value.number own = .number reading ∧
        reading.isInteger = true ∧ reading.isPositive = true := by
  have passed : (if own.isInteger then [] else [Issue.notInteger path]) ++
      (if own.isPositive then [] else [Issue.notPositive path]) = [] ↔
        own.isInteger = true ∧ own.isPositive = true := by
    cases own.isInteger <;> cases own.isPositive <;> simp
  have broken : ∀ broken ∈ (if own.isInteger then [] else [Issue.notInteger path]) ++
      (if own.isPositive then [] else [Issue.notPositive path]), broken.path = path := by
    cases own.isInteger <;> cases own.isPositive <;> simp [Issue.path]
  apply (Verdict.states_ofChecks own passed broken).congr
  intro reading
  constructor
  · rintro ⟨rfl, passing⟩
    exact ⟨rfl, passing⟩
  · rintro ⟨same, passing⟩
    cases same
    exact ⟨rfl, passing⟩

/-- A positive integer; the value of a failed reading is no number here. -/
theorem reads_positiveInteger :
    positiveInteger.Reads fun value reading =>
      value = .number reading ∧ reading.isInteger = true ∧ reading.isPositive = true := by
  intro path value
  cases value with
  | number own =>
      cases own with
      | nan =>
          apply states_wrongKind
          rintro reading ⟨same, integral, -⟩
          rw [← Value.number.inj same] at integral
          cases integral
      | _ => exact states_positiveNumber _ path
  | _ =>
      apply states_wrongKind
      rintro reading ⟨same, -⟩
      cases same

theorem reads_onlyFalse : onlyFalse.Reads fun value _ => value = .boolean false := by
  intro path value
  have others {other : Value} (different : other ≠ .boolean false) :
      (Verdict.invalid [.notFalse other path] : Verdict Unit).States path
        fun _ => other = .boolean false :=
    Verdict.states_invalid (.notFalse other path) fun _ same => different same
  cases value with
  | boolean own =>
      cases own with
      | false =>
          apply (Verdict.states_valid () path).congr
          intro _
          exact ⟨fun _ => rfl, fun _ => rfl⟩
      | true => exact others (by simp)
  | _ => exact others (by simp)

/-! ## Readers put together -/

theorem Reads.map {reader : Reader α} {relates : Value → α → Prop} (reads : reader.Reads relates)
    (f : α → β) : (reader.map f).Reads fun value image =>
      ∃ reading, relates value reading ∧ f reading = image :=
  fun path value => (reads path value).map f

/-- Of two readers the second reads what the first does not. -/
theorem Reads.either {first second : Reader α} {relates relatesSecond : Value → α → Prop}
    (reads : first.Reads relates) (readsSecond : second.Reads relatesSecond) :
    (first.either second).Reads fun value reading =>
      relates value reading ∨ (∀ other, ¬relates value other) ∧ relatesSecond value reading := by
  intro path value
  have one := reads path value
  have two := readsSecond path value
  have leftOver (nothing : ∀ reading, ¬relates value reading) (reading : α) :
      relatesSecond value reading ↔
        relates value reading ∨ (∀ other, ¬relates value other) ∧ relatesSecond value reading := by
    constructor
    · exact fun meant => .inr ⟨nothing, meant⟩
    · rintro (meant | ⟨-, meant⟩)
      · exact absurd meant (nothing reading)
      · exact meant
  unfold Reader.either
  cases left : first path value with
  | valid own =>
      rw [left] at one
      have meant := (one.valid_iff own).mp rfl
      apply one.congr
      intro reading
      constructor
      · exact .inl
      · rintro (same | ⟨nothing, -⟩)
        · exact same
        · exact absurd meant (nothing own)
  | unchecked issues =>
      rw [left] at one
      have nothing := one.nothing rfl
      cases right : second path value with
      | valid own =>
          rw [right] at two
          exact two.congr (leftOver nothing)
      | _ =>
          rw [right] at two
          apply Verdict.States.congr _ (leftOver nothing)
          exact Verdict.states_refused rfl (two.nothing rfl) (one.reported rfl) one.below
  | invalid issues =>
      rw [left] at one
      have nothing := one.nothing rfl
      cases right : second path value with
      | valid own =>
          rw [right] at two
          exact two.congr (leftOver nothing)
      | unchecked others =>
          rw [right] at two
          exact two.congr (leftOver nothing)
      | invalid others =>
          rw [right] at two
          apply Verdict.States.congr _ (leftOver nothing)
          exact Verdict.states_invalid (.noAlternative [issues, others] path) (two.nothing rfl)

/-- A value that may be missing: one certain value stands for nothing. -/
def Optionally (absent : Value) (relates : Value → α → Prop) (value : Value) : Option α → Prop
  | none => value = absent
  | some reading => value ≠ absent ∧ relates value reading

theorem states_absent (absent : Value) (relates : Value → α → Prop) (path : List Text) :
    (Verdict.valid none).States path (Optionally absent relates absent) := by
  apply (Verdict.states_valid none path).congr
  intro reading
  cases reading with
  | none => exact ⟨fun _ => rfl, fun _ => rfl⟩
  | some reading =>
      constructor
      · intro same
        cases same
      · rintro ⟨present, -⟩
        exact absurd rfl present

theorem Reads.states_present {reader : Reader α} {relates : Value → α → Prop}
    (reads : reader.Reads relates) {absent value : Value} (present : value ≠ absent)
    (path : List Text) :
    ((reader path value).map some).States path (Optionally absent relates value) := by
  apply ((reads path value).map some).congr
  intro reading
  cases reading with
  | none =>
      constructor
      · rintro ⟨own, -, same⟩
        cases same
      · intro missing
        exact absurd missing present
  | some reading =>
      constructor
      · rintro ⟨own, meant, same⟩
        cases same
        exact ⟨present, meant⟩
      · rintro ⟨-, meant⟩
        exact ⟨reading, meant, rfl⟩

theorem Reads.optional {reader : Reader α} {relates : Value → α → Prop}
    (reads : reader.Reads relates) : reader.optional.Reads (Optionally .undefined relates) := by
  intro path value
  cases value with
  | undefined => exact states_absent .undefined relates path
  | _ => exact reads.states_present (by simp) path

theorem Reads.nullable {reader : Reader α} {relates : Value → α → Prop}
    (reads : reader.Reads relates) : reader.nullable.Reads (Optionally .null relates) := by
  intro path value
  cases value with
  | null => exact states_absent .null relates path
  | _ => exact reads.states_present (by simp) path

theorem Reads.withDefault {reader : Reader α} {relates : Value → α → Prop}
    (reads : reader.Reads relates) (fallback : Value) :
    (reader.withDefault fallback).Reads fun value reading =>
      relates (value.orDefault fallback) reading := by
  intro path value
  cases value with
  | undefined => exact reads path fallback
  | _ => exact reads path _

/-! ## Records -/

theorem Reads.field {reader : Reader α} {relates : Value → α → Prop} (reads : reader.Reads relates)
    (name : Text) (path : List Text) (entries : List (Text × Value)) :
    (Reader.field name reader path entries).States (path ++ [name])
      (relates (Value.under name entries)) :=
  reads (path ++ [name]) (Value.under name entries)

/-- What an optional entry is read as, if it is there. -/
def OptionalEntry (relates : Value → α → Prop) : Option Value → Option (Option α) → Prop
  | none, none => True
  | some value, some reading => Optionally .undefined relates value reading
  | _, _ => False

theorem Reads.optionalField {reader : Reader α} {relates : Value → α → Prop}
    (reads : reader.Reads relates) (name : Text) (path : List Text)
    (entries : List (Text × Value)) :
    (Reader.optionalField name reader path entries).States (path ++ [name])
      (OptionalEntry relates (Value.entry? name entries)) := by
  unfold Reader.optionalField
  cases Value.entry? name entries with
  | none =>
      apply (Verdict.states_valid none (path ++ [name])).congr
      intro reading
      cases reading with
      | none => exact ⟨fun _ => trivial, fun _ => rfl⟩
      | some reading =>
          constructor
          · intro same
            cases same
          · exact False.elim
  | some value =>
      apply ((reads.optional (path ++ [name]) value).map some).congr
      intro reading
      cases reading with
      | none =>
          constructor
          · rintro ⟨own, -, same⟩
            cases same
          · exact False.elim
      | some reading =>
          constructor
          · rintro ⟨own, meant, same⟩
            cases same
            exact meant
          · intro meant
            exact ⟨reading, meant, rfl⟩

theorem reads_object {read : List Text → List (Text × Value) → Verdict α}
    {means : List (Text × Value) → α → Prop}
    (states : ∀ path entries, (read path entries).States path (means entries)) :
    (object read).Reads fun value reading =>
      ∃ entries, entries? Record.membersOf value = some entries ∧ means entries reading := by
  intro path value
  unfold object
  cases found : entries? Record.membersOf value with
  | none =>
      apply states_wrongKind
      rintro reading ⟨entries, present, -⟩
      rw [found] at present
      cases present
  | some entries =>
      apply (states path entries).congr
      intro reading
      constructor
      · intro meant
        exact ⟨entries, found, meant⟩
      · rintro ⟨others, same, meant⟩
        rw [found] at same
        cases same
        exact meant

/-- Entries that are read each in the same way; readings are told by the values that they stand
for. -/
theorem states_eachEntry {reader : Reader α} {write : α → Value}
    (reads : reader.Reads fun value reading => value = write reading) (path : List Text)
    (entries : List (Text × Value)) :
    (eachEntry reader path entries).States path fun readings =>
      ∃ given : List (Text × α), entries = given.map (fun entry => (entry.1, write entry.2)) ∧
        given.filter (fun entry => entry.1 ≠ droppedName) = readings := by
  induction entries with
  | nil =>
      apply (Verdict.states_valid [] path).congr
      intro readings
      constructor
      · rintro rfl
        exact ⟨[], rfl, rfl⟩
      · rintro ⟨given, none, rfl⟩
        rw [List.map_eq_nil_iff.mp none.symm]
        rfl
  | cons entry entries induction =>
      obtain ⟨name, value⟩ := entry
      have first := (reads (path ++ [name]) value).lift (List.prefix_append path [name])
      apply (first.both induction _).congr
      intro readings
      constructor
      · rintro ⟨reading, others, rfl, ⟨given, rfl, rfl⟩, rfl⟩
        refine ⟨(name, reading) :: given, rfl, ?_⟩
        by_cases dropped : name = droppedName
        · simp [dropped]
        · simp [dropped]
      · rintro ⟨given, same, rfl⟩
        obtain ⟨own, others, rfl, entry, rest⟩ := List.map_eq_cons_iff.mp same.symm
        obtain ⟨ownName, reading⟩ := own
        cases entry
        refine ⟨reading, _, rfl, ⟨others, rest.symm, rfl⟩, ?_⟩
        by_cases dropped : ownName = droppedName
        · simp [dropped]
        · simp [dropped]

theorem reads_recordOf {reader : Reader α} {write : α → Value}
    (reads : reader.Reads fun value reading => value = write reading) :
    (recordOf reader).Reads fun value readings =>
      ∃ given : List (Text × α),
        entries? Record.listed value = some (given.map fun entry => (entry.1, write entry.2)) ∧
          given.filter (fun entry => entry.1 ≠ droppedName) = readings := by
  intro path value
  unfold recordOf
  cases found : entries? Record.listed value with
  | none =>
      apply states_wrongKind
      rintro readings ⟨given, present, -⟩
      rw [found] at present
      cases present
  | some entries =>
      apply (states_eachEntry reads path entries).congr
      intro readings
      simp only [found, Option.some.injEq]

end Reader

end BlobStorage
