import BlobStorage.Proofs.HeaderFields

/-!
# The names of header fields

Whoever goes through header fields sees their names sorted, each of them once, and the values of a
name in the order in which they were added.  So fields with the same values under each name look the
same, in whichever order they were put together.
-/

namespace BlobStorage

namespace Text

theorem lessOrEqual_cons_cons_iff {u v : UInt16} {left right : Text} :
    lessOrEqual (u :: left) (v :: right) ↔ u < v ∨ u = v ∧ lessOrEqual left right := by
  simp [lessOrEqual]

theorem lessOrEqual_total (left right : Text) :
    lessOrEqual left right ∨ lessOrEqual right left := by
  induction left generalizing right with
  | nil => exact .inl rfl
  | cons u left induction =>
      cases right with
      | nil => exact .inr rfl
      | cons v right =>
          rw [lessOrEqual_cons_cons_iff, lessOrEqual_cons_cons_iff]
          by_cases same : u = v
          · subst v
            exact (induction right).imp (fun rest => .inr ⟨rfl, rest⟩) fun rest => .inr ⟨rfl, rest⟩
          · exact (UInt16.lt_or_lt_of_ne same).imp .inl .inl

theorem lessOrEqual_trans {first second third : Text} (left : lessOrEqual first second)
    (right : lessOrEqual second third) : lessOrEqual first third := by
  induction first generalizing second third with
  | nil => rfl
  | cons u first induction =>
      cases second with
      | nil => cases left
      | cons v second =>
          cases third with
          | nil => cases right
          | cons w third =>
              rw [lessOrEqual_cons_cons_iff] at left right ⊢
              rcases left with less | ⟨rfl, rest⟩
              · rcases right with lessAgain | ⟨rfl, -⟩
                · exact .inl (UInt16.lt_trans less lessAgain)
                · exact .inl less
              · rcases right with lessAgain | ⟨rfl, restAgain⟩
                · exact .inl lessAgain
                · exact .inr ⟨rfl, induction rest restAgain⟩

theorem lessOrEqual_antisymm {left right : Text} (below : lessOrEqual left right)
    (above : lessOrEqual right left) : left = right := by
  induction left generalizing right with
  | nil =>
      cases right with
      | nil => rfl
      | cons v right => cases above
  | cons u left induction =>
      cases right with
      | nil => cases below
      | cons v right =>
          rw [lessOrEqual_cons_cons_iff] at below above
          rcases below with less | ⟨rfl, rest⟩
          · rcases above with greater | ⟨rfl, -⟩
            · exact absurd greater (UInt16.lt_asymm less)
            · exact absurd less (UInt16.lt_irrefl v)
          · rcases above with greater | ⟨-, restAgain⟩
            · exact absurd greater (UInt16.lt_irrefl u)
            · rw [induction rest restAgain]

end Text

theorem nodup_eraseDups {α : Type} [BEq α] [LawfulBEq α] : ∀ items : List α, items.eraseDups.Nodup
  | [] => List.nodup_nil
  | item :: items => by
      rw [List.eraseDups_cons, List.nodup_cons, List.mem_eraseDups]
      exact ⟨by simp, nodup_eraseDups _⟩
termination_by items => items.length
decreasing_by exact Nat.lt_succ_of_le (List.length_filter_le _ _)

namespace Headers

theorem mem_names_iff {headers : Headers} {name : Text} :
    name ∈ headers.names ↔ headers.valuesOf name ≠ [] := by
  unfold names valuesOf
  rw [List.mem_mergeSort, List.mem_eraseDups, ne_eq, List.map_eq_nil_iff, List.filter_eq_nil_iff]
  simp

theorem nodup_names (headers : Headers) : headers.names.Nodup :=
  (List.mergeSort_perm _ _).nodup_iff.mpr (nodup_eraseDups _)

theorem sorted_names (headers : Headers) :
    headers.names.Pairwise fun left right => Text.lessOrEqual left right = true := by
  apply List.pairwise_mergeSort
  · exact fun first second third => Text.lessOrEqual_trans
  · exact fun first second => by simpa using Text.lessOrEqual_total first second

/-- The names that are in use stand in the same order in all fields that use them. -/
theorem names_eq_of_mem_iff {left right : Headers}
    (same : ∀ name, name ∈ left.names ↔ name ∈ right.names) : left.names = right.names := by
  have permuted : left.names.Perm right.names :=
    (List.perm_ext_iff_of_nodup left.nodup_names right.nodup_names).mpr same
  exact permuted.eq_of_pairwise (fun _ _ _ _ => Text.lessOrEqual_antisymm) left.sorted_names
    right.sorted_names

theorem entries_eq_of_valuesOf {left right : Headers}
    (same : ∀ name, left.valuesOf name = right.valuesOf name) : left.entries = right.entries := by
  have names : left.names = right.names :=
    names_eq_of_mem_iff fun name => by rw [mem_names_iff, mem_names_iff, same]
  simp only [entries, names, same]

theorem find?_map_named {α : Type} {names : List Text} {entry : Text → Text × α}
    (named : ∀ name, (entry name).1 = name) (name : Text) :
    (names.map entry).find? (fun found => found.1 == name) =
      if name ∈ names then some (entry name) else none := by
  induction names with
  | nil => rfl
  | cons first names induction =>
      rw [List.map_cons, List.find?_cons, named first, induction]
      by_cases same : first = name
      · subst first
        simp
      · rw [beq_false_of_ne same]
        simp [Ne.symm same]

end Headers

end BlobStorage
