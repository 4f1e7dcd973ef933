import BlobStorage.Proofs.HeaderView
import BlobStorage.Proofs.TextPieces

/-!
# Legal header fields

Every operation on header fields keeps them legal: names are tokens in lower case, and values can be
sent and have no blanks at their ends.
-/

namespace BlobStorage

namespace Text

theorem between_iff (first last : Char) (u : UInt16) :
    (unit first ≤ u && u ≤ unit last) = true ↔
      (unit first).toNat ≤ u.toNat ∧ u.toNat ≤ (unit last).toNat := by
  rw [Bool.and_eq_true, decide_eq_true_eq, decide_eq_true_eq, UInt16.le_iff_toNat_le,
    UInt16.le_iff_toNat_le]

/-- A unit keeps its place in lower case, or is a letter there. -/
theorem lowerUnit_cases (u : UInt16) :
    isUpperLetter u = false ∧ lowerUnit u = u ∨
      isUpperLetter (lowerUnit u) = false ∧ isLowerLetter (lowerUnit u) = true := by
  by_cases upper : isUpperLetter u = true
  · right
    have range : 65 ≤ u.toNat ∧ u.toNat ≤ 90 := (between_iff 'A' 'Z' u).mp upper
    have moved : (lowerUnit u).toNat = u.toNat + 32 := by
      rw [lowerUnit, if_pos upper, UInt16.toNat_add]
      exact Nat.mod_eq_of_lt (by simp; omega)
    have low : 97 ≤ (lowerUnit u).toNat ∧ (lowerUnit u).toNat ≤ 122 := by omega
    refine ⟨Bool.eq_false_iff.mpr fun again => ?_, (between_iff 'a' 'z' _).mpr low⟩
    have high : (lowerUnit u).toNat ≤ 90 := ((between_iff 'A' 'Z' _).mp again).2
    omega
  · exact .inl ⟨Bool.eq_false_iff.mpr upper, if_neg upper⟩

theorem lower_lower (text : Text) : lower (lower text) = lower text := by
  rw [lower, lower, List.map_map]
  apply List.map_congr_left
  intro u _
  rcases lowerUnit_cases u with ⟨-, same⟩ | ⟨low, -⟩
  · rw [Function.comp_apply, same, same]
  · rw [Function.comp_apply, lowerUnit, if_neg (Bool.eq_false_iff.mp low)]

end Text

namespace Headers

theorem isTokenUnit_lowerUnit {u : UInt16} (token : isTokenUnit u) :
    isTokenUnit (Text.lowerUnit u) := by
  rcases Text.lowerUnit_cases u with ⟨-, same⟩ | ⟨-, low⟩
  · rw [same]
    exact token
  · simp [isTokenUnit, Text.isLetter, low]

theorem isName_lower {name : Text} (named : isName name) : isName (Text.lower name) := by
  obtain ⟨someUnit, tokens⟩ := Bool.and_eq_true_iff.mp named
  rw [isName, Bool.and_eq_true]
  constructor
  · simpa [Text.lower] using someUnit
  · rw [Text.lower, List.all_map]
    exact List.all_eq_true.mpr fun u member =>
      isTokenUnit_lowerUnit (List.all_eq_true.mp tokens u member)

theorem normalizeValue_idem (value : Text) :
    normalizeValue (normalizeValue value) = normalizeValue value :=
  Text.trim_eq_self (Text.head?_trim isEdgeBlank value) (Text.getLast?_trim isEdgeBlank value)

/-- Names are tokens in lower case; values can be sent and have no blanks at their ends. -/
structure Legal (headers : Headers) : Prop where
  named : ∀ field ∈ headers.fields, isName field.1 ∧ Text.lower field.1 = field.1
  sendable : ∀ field ∈ headers.fields, isValidValue field.2 ∧ normalizeValue field.2 = field.2

theorem legal_empty : empty.Legal := ⟨by simp [empty], by simp [empty]⟩

variable {headers next : Headers} {name value : Text}

namespace Legal

theorem without (legal : headers.Legal) (name : Text) : (headers.without name).Legal :=
  ⟨fun field member => legal.named field (List.mem_filter.mp member).1,
    fun field member => legal.sendable field (List.mem_filter.mp member).1⟩

theorem delete? (legal : headers.Legal) (deleted : headers.delete? name = some next) :
    next.Legal := by
  obtain ⟨-, rfl⟩ := delete?_eq_some_iff.mp deleted
  exact legal.without _

theorem concat (legal : headers.Legal) (named : isName name)
    (valid : isValidValue (normalizeValue value)) :
    Legal ⟨headers.fields ++ [(Text.lower name, normalizeValue value)]⟩ := by
  constructor
  · rw [List.forall_mem_append, List.forall_mem_singleton]
    exact ⟨legal.named, isName_lower named, Text.lower_lower name⟩
  · rw [List.forall_mem_append, List.forall_mem_singleton]
    exact ⟨legal.sendable, valid, normalizeValue_idem value⟩

theorem set? (legal : headers.Legal) (set : headers.set? name value = some next) : next.Legal := by
  obtain ⟨named, valid, rfl⟩ := set?_eq_some_iff.mp set
  exact (legal.without _).concat named valid

theorem append? (legal : headers.Legal) (appended : headers.append? name value = some next) :
    next.Legal := by
  unfold Headers.append? at appended
  split at appended
  · rename_i accepted
    obtain ⟨named, valid⟩ := Bool.and_eq_true_iff.mp accepted
    obtain rfl := Option.some.inj appended
    exact legal.concat named valid
  · cases appended

end Legal

theorem legal_of_foldlM {α : Type} {step : Headers → α → Option Headers}
    (keeps : ∀ before item after, Legal before → step before item = some after → after.Legal)
    {items : List α} (legal : headers.Legal) (folded : items.foldlM step headers = some next) :
    next.Legal := by
  induction items generalizing headers with
  | nil =>
      obtain rfl := Option.some.inj folded
      exact legal
  | cons item items induction =>
      rw [List.foldlM_cons] at folded
      obtain ⟨between, first, rest⟩ := Option.bind_eq_some_iff.mp folded
      exact induction (keeps headers item between legal first) rest

theorem legal_ofFields? {fields : List (Text × Text)} (made : ofFields? fields = some headers) :
    headers.Legal :=
  legal_of_foldlM (fun _ _ _ legal appended => legal.append? appended) legal_empty made

/-- What stands under a name in the record of fields. -/
def viewText (headers : Headers) (name : Text) : Text :=
  if name = cookieSetter then (headers.valuesOf name).getLastD []
  else Text.join (separator name) (headers.valuesOf name)

theorem view_eq (headers : Headers) :
    headers.view = headers.names.map fun name => (name, headers.viewText name) := by
  rw [view]
  apply List.map_congr_left
  intro name _
  rw [viewText]
  split <;> rfl

/-- What a reader sees of one name: one text, but the values of `set-cookie` one by one. -/
def entriesOf (headers : Headers) (name : Text) : List (Text × Text) :=
  if name = cookieSetter then (headers.valuesOf name).map (name, ·)
  else [(name, Text.join (separator name) (headers.valuesOf name))]

theorem entries_eq (headers : Headers) :
    headers.entries = headers.names.flatMap headers.entriesOf := rfl

theorem fst_of_mem_entriesOf {field : Text × Text} (member : field ∈ headers.entriesOf name) :
    field.1 = name := by
  unfold entriesOf at member
  split at member
  · obtain ⟨value, -, rfl⟩ := List.mem_map.mp member
    rfl
  · rw [List.mem_singleton.mp member]

theorem getLast?_entriesOf (inUse : name ∈ headers.names) :
    (headers.entriesOf name).getLast? = some (name, headers.viewText name) := by
  have someValue := mem_names_iff.mp inUse
  unfold entriesOf viewText
  split
  · rw [List.getLast?_map, List.getLast?_eq_some_getLast someValue]
    simp [List.getLastD_eq_getLast?, List.getLast?_eq_some_getLast someValue]
  · rfl

theorem filter_flatMap_named {α : Type} {names : List Text} {block : Text → List (Text × α)}
    (nodup : names.Nodup) (named : ∀ name, ∀ field ∈ block name, field.1 = name) (name : Text) :
    (names.flatMap block).filter (fun field => field.1 == name) =
      if name ∈ names then block name else [] := by
  induction names with
  | nil => rfl
  | cons first names induction =>
      rw [List.nodup_cons] at nodup
      rw [List.flatMap_cons, List.filter_append, induction nodup.2]
      by_cases same : first = name
      · subst first
        have whole : (block name).filter (fun field => field.1 == name) = block name :=
          List.filter_eq_self.mpr fun field member => beq_iff_eq.mpr (named name field member)
        rw [whole, if_neg nodup.1, if_pos List.mem_cons_self, List.append_nil]
      · have none : (block first).filter (fun field => field.1 == name) = [] := by
          rw [List.filter_eq_nil_iff]
          intro field member matched
          exact same ((named first field member).symm.trans (eq_of_beq matched))
        rw [none, List.nil_append]
        simp [Ne.symm same]

theorem filter_entries (headers : Headers) (name : Text) :
    headers.entries.filter (fun field => field.1 == name) =
      if name ∈ headers.names then headers.entriesOf name else [] :=
  filter_flatMap_named headers.nodup_names (fun _ _ => fst_of_mem_entriesOf) name

namespace Legal

theorem named_of_mem_names (legal : headers.Legal) (inUse : name ∈ headers.names) :
    isName name ∧ Text.lower name = name := by
  rw [names, List.mem_mergeSort, List.mem_eraseDups] at inUse
  obtain ⟨field, member, rfl⟩ := List.mem_map.mp inUse
  exact legal.named field member

theorem sendable_of_mem_valuesOf (legal : headers.Legal) (member : value ∈ headers.valuesOf name) :
    isValidValue value ∧ normalizeValue value = value := by
  obtain ⟨field, among, rfl⟩ := List.mem_map.mp member
  exact legal.sendable field (List.mem_filter.mp among).1

/-- What a reader sees can be sent again. -/
theorem legal_of_mem_entries (legal : headers.Legal) {field : Text × Text}
    (member : field ∈ headers.entries) :
    (isName field.1 ∧ Text.lower field.1 = field.1) ∧ isValidValue field.2 := by
  obtain ⟨name, inUse, inside⟩ := List.mem_flatMap.mp (headers.entries_eq ▸ member)
  have own := fst_of_mem_entriesOf inside
  refine ⟨own ▸ legal.named_of_mem_names inUse, ?_⟩
  unfold entriesOf at inside
  split at inside
  · obtain ⟨value, among, rfl⟩ := List.mem_map.mp inside
    exact (legal.sendable_of_mem_valuesOf among).1
  · rw [List.mem_singleton.mp inside]
    apply List.all_eq_true.mpr
    intro u within
    rcases Text.mem_join within with inSeparator | ⟨value, among, inValue⟩
    · have sendable : isValidValue (separator name) = true := by
        unfold separator
        split <;> rfl
      exact List.all_eq_true.mp sendable u inSeparator
    · exact List.all_eq_true.mp (legal.sendable_of_mem_valuesOf among).1 u inValue

theorem copy (legal : headers.Legal) : headers.copy.Legal := by
  constructor
  · rw [Headers.copy, List.forall_mem_map]
    exact fun field member => (legal.legal_of_mem_entries member).1
  · rw [Headers.copy, List.forall_mem_map]
    exact fun field member =>
      ⟨isValidValue_normalizeValue (legal.legal_of_mem_entries member).2, normalizeValue_idem _⟩

end Legal

end Headers

end BlobStorage
