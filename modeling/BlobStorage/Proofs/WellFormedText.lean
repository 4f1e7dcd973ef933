import BlobStorage.Proofs.TextPieces
import BlobStorage.Proofs.TextUnits
import BlobStorage.Text.Percent

/-!
# Texts without lone surrogates

A text is percent-encoded if and only if no surrogate stands alone in it.  Cutting at a character
never takes a pair of surrogates apart, so a text is well formed if and only if its pieces are.
-/

namespace BlobStorage

namespace Text

theorem isSome_mapM_iff {α β : Type} {f : α → Option β} {items : List α} :
    (items.mapM f).isSome ↔ ∀ item ∈ items, (f item).isSome := by
  induction items with
  | nil => simp
  | cons item items induction =>
      rw [List.forall_mem_cons, ← induction, List.mapM_cons]
      cases f item with
      | none => simp
      | some image => cases items.mapM f <;> simp

theorem isSome_toChars?_iff {text : Text} : text.toChars?.isSome ↔ text.isWellFormed := by
  rw [toChars?, isSome_mapM_iff, isWellFormed, List.all_eq_true]
  rfl

theorem isWellFormed_ofChars (characters : List Char) : (ofChars characters).isWellFormed := by
  rw [← isSome_toChars?_iff, toChars?_eq_some_iff.mpr rfl]
  rfl

theorem ofChars_toCharsLossy {text : Text} (wellFormed : text.isWellFormed) :
    ofChars text.toCharsLossy = text := by
  obtain ⟨characters, read⟩ := Option.isSome_iff_exists.mp (isSome_toChars?_iff.mpr wellFormed)
  rw [← toChars?_eq_some_iff.mp read, toCharsLossy_ofChars]

/-- What stands before a unit that is no low surrogate is read on its own. -/
theorem scalars_append_cons (left : Text) {u : UInt16} (notLow : isLowSurrogate u = false)
    (rest : Text) : scalars (left ++ u :: rest) = scalars left ++ scalars (u :: rest) := by
  fun_induction scalars left with
  | case1 => rfl
  | case2 last =>
      by_cases isHigh : isHighSurrogate last = true
      · simp [scalars, isHigh, notLow]
      · by_cases isLow : isLowSurrogate last = true
        · simp [scalars, isHigh, isLow]
        · simp [scalars, isHigh, isLow]
  | case3 high low left isHigh isLow induction =>
      simp [scalars, isHigh, isLow, induction]
  | case4 high next left isHigh notPaired induction =>
      simp [scalars, isHigh, notPaired, ← induction]
  | case5 low next left notHigh isLow induction =>
      simp [scalars, notHigh, isLow, ← induction]
  | case6 single next left notHigh isNotLow induction =>
      simp [scalars, notHigh, isNotLow, ← induction]

section Pieces

variable {separator : UInt16}

theorem isWellFormed_append_cons (notHigh : isHighSurrogate separator = false)
    (notLow : isLowSurrogate separator = false) (left rest : Text) :
    isWellFormed (left ++ separator :: rest) ↔ left.isWellFormed ∧ rest.isWellFormed := by
  have separated : scalars (separator :: rest) =
      some (Char.ofNat separator.toNat) :: scalars rest :=
    scalars_cons_single (by simp [notHigh]) (by simp [notLow]) rest
  simp only [isWellFormed, scalars_append_cons left notLow rest, separated, List.all_append,
    List.all_cons, Option.isSome_some, Bool.true_and, Bool.and_eq_true]

theorem isWellFormed_append_flatMap (notHigh : isHighSurrogate separator = false)
    (notLow : isLowSurrogate separator = false) (first : Text) (pieces : List Text) :
    isWellFormed (first ++ pieces.flatMap ([separator] ++ ·)) ↔
      ∀ piece ∈ first :: pieces, piece.isWellFormed := by
  induction pieces generalizing first with
  | nil => simp
  | cons piece pieces induction =>
      rw [List.flatMap_cons, List.append_assoc, List.singleton_append,
        isWellFormed_append_cons notHigh notLow, induction]
      simp only [List.forall_mem_cons]

theorem forall_split_isWellFormed_iff (notHigh : isHighSurrogate separator = false)
    (notLow : isLowSurrogate separator = false) (text : Text) :
    (∀ piece ∈ split separator text, isWellFormed piece) ↔ text.isWellFormed := by
  obtain ⟨first, pieces, cut⟩ := List.exists_cons_of_ne_nil (split_ne_nil separator text)
  rw [cut, ← isWellFormed_append_flatMap notHigh notLow, ← join_cons, ← cut, join_split]

end Pieces

end Text

theorem Percent.isSome_encodeComponent?_iff {name : Text} :
    (encodeComponent? name).isSome ↔ name.isWellFormed := by
  rw [encodeComponent?, Option.isSome_map, Text.isSome_toChars?_iff]

end BlobStorage
