import BlobStorage.Proofs.BuilderCompleteness
import Mathlib.Data.List.Find
import Mathlib.Logic.Function.Basic

/-!
# Builders as two records

A builder can be kept as two records: the values, of which the snapshots method has one from the
start, and the marks of the mandatory parameters that were set.  Setting a parameter writes into
both, and a question to a builder looks at the marks first.  One optional value for each parameter
says the same: what a history leaves in the two records is what it leaves in a builder
(`KeptAs.setEach`), and from the records every question is answered as the builder answers it.
-/

namespace BlobStorage.DeleteBlob

/-- The values of the parameters, and the mandatory parameters that are marked as set. -/
structure Records where
  values : Field → Option Value
  marked : Field → Bool

namespace Records

def initial : Records where
  values := Field.initial?
  marked _ := false

def put (records : Records) (field : Field) (value : Value) : Records where
  values := Function.update records.values field (some value)
  marked :=
    if field ∈ Field.mandatory then Function.update records.marked field true else records.marked

def putAll (records : Records) (calls : List (Field × Value)) : Records :=
  calls.foldl (fun records call => records.put call.1 call.2) records

theorem values_put (records : Records) (field : Field) (value : Value) (other : Field) :
    (records.put field value).values other =
      if other = field then some value else records.values other :=
  Function.update_apply ..

theorem marked_put {records : Records} {field other : Field} (mandatory : other ∈ Field.mandatory)
    (value : Value) :
    (records.put field value).marked other =
      if other = field then true else records.marked other := by
  by_cases same : other = field
  · subst other
    simp [put, mandatory]
  · rw [put, if_neg same]
    split
    · exact Function.update_of_ne same _ _
    · rfl

def value (records : Records) (field : Field) : Value := (records.values field).getD .undefined

def isUndefined (records : Records) (field : Field) : Bool := records.value field matches .undefined

def missingParameter? (records : Records) : Option Field :=
  Field.mandatory.find? fun field => !records.marked field

def parameters (records : Records) : List (Text × Value) :=
  Field.all.filterMap fun field => (records.values field).map (field.name, ·)

/-- What an accessor gives: a mandatory parameter has to be marked, and a name must not be undefined
besides. -/
def get (records : Records) (field : Field) : Outcome Value :=
  if (field ∈ Field.mandatory ∧ !records.marked field) ∨
      (field ∈ Field.unchecked ∧ records.isUndefined field) then
    .raised (.failure (Failure.missingParameter field.name))
  else .ok (records.value field)

def unresolved? (records : Records) : Option Field :=
  records.missingParameter?.or (Field.unchecked.find? records.isUndefined)

def resolve (records : Records) : Outcome Parameters :=
  match records.unresolved? with
  | some field => .failed (Failure.missingParameter field.name)
  | none => .ok {
      containerName := records.value .containerName
      blobName := records.value .blobName
      deleteSnapshotsMethod := records.value .deleteSnapshotsMethod
      timeout := records.value .timeout
      leaseId := records.value .leaseId
      clientRequestId := records.value .clientRequestId }

end Records

namespace Builder

variable {κ : Type} {builder : Builder κ} {records : Records}

/-- The two records of a builder. -/
structure KeptAs (builder : Builder κ) (records : Records) : Prop where
  values : ∀ field, records.values field = (builder.value? field).or field.initial?
  marked : ∀ field ∈ Field.mandatory, records.marked field = (builder.value? field).isSome

theorem keptAs_create (owner : κ) : (create owner).KeptAs .initial where
  values field := by cases field <;> rfl
  marked field _ := by cases field <;> rfl

namespace KeptAs

theorem set (kept : builder.KeptAs records) {next : Builder κ} {field : Field} {value : Value}
    (accepted : builder.set field value = .ok next) : next.KeptAs (records.put field value) where
  values other := by
    rw [value?_set accepted, Records.values_put]
    split
    · rfl
    · exact kept.values other
  marked other mandatory := by
    rw [value?_set accepted, Records.marked_put mandatory]
    split
    · rfl
    · exact kept.marked other mandatory

/-- A call that is refused writes into no record. -/
theorem setEach (kept : builder.KeptAs records) (calls : List (Field × Value)) :
    (builder.setEach calls).KeptAs (records.putAll (builder.taken calls)) := by
  induction calls generalizing builder records with
  | nil => exact kept
  | cons call calls induction =>
      unfold Builder.setEach taken
      split
      · rename_i next accepted
        exact induction (kept.set accepted)
      · exact induction kept

theorem missingParameter?_eq (kept : builder.KeptAs records) :
    builder.missingParameter? = records.missingParameter? := by
  refine List.find?_congr fun field mandatory => ?_
  rw [kept.marked field mandatory, Option.not_isSome]

theorem parameters_eq (kept : builder.KeptAs records) :
    builder.parameters = records.parameters := by
  rw [Builder.parameters_eq, Records.parameters]
  simp only [kept.values]

/-- A parameter that was set holds in the record what it was set to. -/
theorem value_of_set (kept : builder.KeptAs records) {field : Field} {value : Value}
    (held : builder.value? field = some value) : records.value field = value := by
  rw [Records.value, kept.values, held]
  rfl

theorem get_eq (kept : builder.KeptAs records) (field : Field) :
    builder.get field = records.get field := by
  cases held : builder.value? field with
  | none =>
      by_cases mandatory : field ∈ Field.mandatory
      · have unmarked := kept.marked field mandatory
        rw [held] at unmarked
        rw [get_of_unset mandatory held, Records.get, if_pos (.inl ⟨mandatory, by simp [unmarked]⟩)]
      · have values := kept.values field
        rw [held] at values
        cases field with
        | timeout | leaseId | clientRequestId =>
            simp [Builder.get, Records.get, Records.value, held, values, Field.mandatory,
              Field.unchecked, Field.initial?]
        | _ => simp [Field.mandatory] at mandatory
  | some value =>
      have own := kept.value_of_set held
      have marked : ¬(field ∈ Field.mandatory ∧ !records.marked field) := by
        rintro ⟨mandatory, unmarked⟩
        simp [kept.marked field mandatory, held] at unmarked
      by_cases undefined : field ∈ Field.unchecked ∧ value = .undefined
      · obtain ⟨unchecked, rfl⟩ := undefined
        rw [get_of_undefined unchecked held, Records.get, Records.isUndefined, own,
          if_pos (.inr ⟨unchecked, rfl⟩)]
      · rw [get_of_set held (not_and.mp undefined), Records.get, own, if_neg]
        rintro (unmarked | ⟨unchecked, isUndefined⟩)
        · exact marked unmarked
        · rw [Records.isUndefined, own] at isUndefined
          cases value with
          | undefined => exact undefined ⟨unchecked, rfl⟩
          | _ => cases isUndefined

theorem unresolved?_eq (kept : builder.KeptAs records) :
    builder.unresolved? = records.unresolved? := by
  have missing := kept.missingParameter?_eq
  rw [Builder.unresolved?_eq, Records.unresolved?, ← missing]
  cases first : builder.missingParameter? with
  | some field => rfl
  | none =>
      rw [Option.none_or, Option.none_or]
      -- Where nothing is missing both names are set, and the record holds what they were set to.
      refine List.find?_congr fun field unchecked => ?_
      have set := missingParameter?_eq_none_iff.mp first field (mem_mandatory_of_unchecked unchecked)
      obtain ⟨value, held⟩ := Option.isSome_iff_exists.mp set
      rw [held, Records.isUndefined, kept.value_of_set held]
      cases value <;> rfl

theorem resolve_eq (kept : builder.KeptAs records) : builder.resolve = records.resolve := by
  rw [Builder.resolve, Records.resolve, kept.unresolved?_eq]
  cases records.unresolved? with
  | some field => rfl
  | none =>
      cases method : builder.deleteSnapshotsMethod <;>
        simp [Records.value, kept.values, value?, Field.initial?, snapshotsMethod, method]

end KeptAs

/-- A builder that was made by any calls, refused ones among them, answers as the two records of the
calls that were taken. -/
theorem answers_of_records (owner : κ) (calls : List (Field × Value)) :
    let builder := (create owner).setEach calls
    let records := Records.initial.putAll ((create owner).taken calls)
    builder.missingParameter? = records.missingParameter? ∧
      builder.parameters = records.parameters ∧ (∀ field, builder.get field = records.get field) ∧
      builder.resolve = records.resolve := by
  intro builder records
  have kept : builder.KeptAs records := (keptAs_create owner).setEach calls
  exact ⟨kept.missingParameter?_eq, kept.parameters_eq, kept.get_eq, kept.resolve_eq⟩

end Builder

end BlobStorage.DeleteBlob
