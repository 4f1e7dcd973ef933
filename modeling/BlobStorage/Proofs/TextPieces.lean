import BlobStorage.Text.Units

/-!
# Cutting and joining

Cutting at a separator and joining with it are inverse to each other.  A list is also followed as a
first piece and later ones, each behind a separator, which is the form in which paths are written.
-/

namespace BlobStorage.Text

section

variable {α : Type} [DecidableEq α] {separator : α}

theorem split_cons (separator first : α) (rest : List α) :
    ∃ piece pieces, split separator rest = piece :: pieces ∧
      split separator (first :: rest) =
        if first = separator then [] :: piece :: pieces else (first :: piece) :: pieces := by
  induction rest generalizing first with
  | nil => exact ⟨[], [], rfl, by simp [split]⟩
  | cons second rest induction =>
      obtain ⟨piece, pieces, -, cut⟩ := induction second
      by_cases isSeparator : second = separator
      · rw [if_pos isSeparator] at cut
        exact ⟨_, _, cut, by rw [split, cut]⟩
      · rw [if_neg isSeparator] at cut
        exact ⟨_, _, cut, by rw [split, cut]⟩

theorem split_ne_nil (separator : α) (list : List α) : split separator list ≠ [] := by
  cases list with
  | nil => simp [split]
  | cons first rest =>
      obtain ⟨piece, pieces, -, cut⟩ := split_cons separator first rest
      rw [cut]
      split <;> simp

theorem split_of_not_mem {list : List α} (absent : separator ∉ list) :
    split separator list = [list] := by
  induction list with
  | nil => rfl
  | cons first rest induction =>
      simp only [List.mem_cons, not_or] at absent
      rw [split, if_neg (Ne.symm absent.1), induction absent.2]

/-- Two lists with a separator between them are cut one after the other. -/
theorem split_append_separator (separator : α) (left right : List α) :
    split separator (left ++ separator :: right) =
      split separator left ++ split separator right := by
  induction left with
  | nil => simp [split]
  | cons first left induction =>
      obtain ⟨piece, pieces, cutRest, cut⟩ := split_cons separator first left
      obtain ⟨longPiece, longPieces, cutLong, cutWhole⟩ :=
        split_cons separator first (left ++ separator :: right)
      rw [induction, cutRest, List.cons_append, List.cons.injEq] at cutLong
      obtain ⟨rfl, rfl⟩ := cutLong
      rw [List.cons_append, cutWhole, cut]
      split <;> rfl

theorem split_append_cons {list : List α} (absent : separator ∉ list) (rest : List α) :
    split separator (list ++ separator :: rest) = list :: split separator rest := by
  rw [split_append_separator, split_of_not_mem absent, List.singleton_append]

theorem split_append_replicate (separator : α) (list : List α) (count : Nat) :
    split separator (list ++ List.replicate count separator) =
      split separator list ++ List.replicate count [] := by
  induction count with
  | zero => simp
  | succ count induction =>
      rw [List.replicate_succ', ← List.append_assoc, split_append_separator, induction,
        List.append_assoc, List.replicate_succ']
      rfl

theorem exists_split_append {list behind : List α} (absent : separator ∉ behind) :
    ∃ start last, split separator list = start ++ [last] ∧
      split separator (list ++ behind) = start ++ [last ++ behind] := by
  induction list with
  | nil => exact ⟨[], [], rfl, split_of_not_mem absent⟩
  | cons first list induction =>
      obtain ⟨start, last, cutList, cutLong⟩ := induction
      by_cases isSeparator : first = separator
      · exact ⟨[] :: start, last, by simp [split, isSeparator, cutList],
          by simp [split, isSeparator, cutLong]⟩
      · cases start with
        | nil =>
            exact ⟨[], first :: last, by simp [split, isSeparator, cutList],
              by simp [split, isSeparator, cutLong]⟩
        | cons piece start =>
            exact ⟨(first :: piece) :: start, last, by simp [split, isSeparator, cutList],
              by simp [split, isSeparator, cutLong]⟩

/-- Pieces behind separators are cut where they were put together. -/
theorem split_append_flatMap {first : List α} {pieces : List (List α)}
    (firstFree : separator ∉ first) (free : ∀ piece ∈ pieces, separator ∉ piece) :
    split separator (first ++ pieces.flatMap (separator :: ·)) = first :: pieces := by
  induction pieces generalizing first with
  | nil => simpa using split_of_not_mem firstFree
  | cons piece pieces induction =>
      rw [List.flatMap_cons, List.cons_append, split_append_cons firstFree,
        induction (free piece List.mem_cons_self)
          fun later member => free later (List.mem_cons_of_mem _ member)]

theorem mem_piece {list piece : List α} (member : piece ∈ split separator list) {item : α}
    (inside : item ∈ piece) : item ∈ list ∧ item ≠ separator := by
  induction list generalizing piece with
  | nil =>
      simp only [split, List.mem_singleton] at member
      subst piece
      cases inside
  | cons first rest induction =>
      obtain ⟨head, tail, cutRest, cut⟩ := split_cons separator first rest
      rw [cutRest] at induction
      rw [cut] at member
      by_cases isSeparator : first = separator
      · rw [if_pos isSeparator] at member
        rcases List.mem_cons.mp member with rfl | later
        · cases inside
        · exact (induction later inside).imp_left (List.mem_cons_of_mem _)
      · rw [if_neg isSeparator] at member
        rcases List.mem_cons.mp member with rfl | later
        · rcases List.mem_cons.mp inside with rfl | behind
          · exact ⟨List.mem_cons_self, isSeparator⟩
          · exact (induction List.mem_cons_self behind).imp_left (List.mem_cons_of_mem _)
        · exact (induction (List.mem_cons_of_mem _ later) inside).imp_left
            (List.mem_cons_of_mem _)

theorem exists_mem_split {item : α} {list : List α} (other : item ≠ separator)
    (member : item ∈ list) : ∃ piece ∈ split separator list, item ∈ piece := by
  induction list with
  | nil => cases member
  | cons first rest induction =>
      obtain ⟨head, tail, cutRest, cut⟩ := split_cons separator first rest
      rw [cut]
      rw [cutRest] at induction
      rcases List.mem_cons.mp member with rfl | behind
      · rw [if_neg other]
        exact ⟨_, List.mem_cons_self, List.mem_cons_self⟩
      · obtain ⟨piece, among, inside⟩ := induction behind
        split
        · exact ⟨piece, List.mem_cons_of_mem _ among, inside⟩
        · rcases List.mem_cons.mp among with rfl | later
          · exact ⟨_, List.mem_cons_self, List.mem_cons_of_mem _ inside⟩
          · exact ⟨piece, List.mem_cons_of_mem _ later, inside⟩

theorem intercalate_split (separator : α) (list : List α) :
    List.intercalate [separator] (split separator list) = list := by
  induction list with
  | nil => rfl
  | cons first rest induction =>
      obtain ⟨piece, pieces, cutRest, cut⟩ := split_cons separator first rest
      rw [cutRest] at induction
      rw [cut]
      split
      · rename_i isSeparator
        rw [List.intercalate_cons_cons, induction, isSeparator]
        rfl
      · cases pieces with
        | nil =>
            rw [List.intercalate_singleton] at induction ⊢
            rw [induction]
        | cons next pieces =>
            rw [List.intercalate_cons_cons] at induction ⊢
            rw [← induction]
            rfl

end

theorem mem_intercalate {α : Type} {between piece : List α} {pieces : List (List α)}
    (among : piece ∈ pieces) {item : α} (inside : item ∈ piece) :
    item ∈ List.intercalate between pieces := by
  induction pieces with
  | nil => cases among
  | cons first pieces induction =>
      cases pieces with
      | nil =>
          rw [List.mem_singleton] at among
          subst among
          simpa using inside
      | cons next pieces =>
          rw [List.intercalate_cons_cons, List.mem_append, List.mem_append]
          rcases List.mem_cons.mp among with rfl | later
          · exact .inl (.inl inside)
          · exact .inr (induction later)

theorem trimEnd_append_of_pos (p : UInt16 → Bool) {u : UInt16} (trimmed : p u) (text : Text) :
    trimEnd p (text ++ [u]) = trimEnd p text := by
  simp [trimEnd, trimmed]

theorem trimEnd_append_of_neg (p : UInt16 → Bool) {u : UInt16} (kept : p u = false)
    (text : Text) : trimEnd p (text ++ [u]) = text ++ [u] := by
  simp [trimEnd, kept]

theorem join_cons (separator first : Text) (pieces : List Text) :
    join separator (first :: pieces) = first ++ pieces.flatMap (separator ++ ·) := by
  induction pieces generalizing first with
  | nil => simp [join]
  | cons piece pieces induction => simp [join, induction, List.append_assoc]

theorem mem_join {separator : Text} {pieces : List Text} {u : UInt16}
    (member : u ∈ join separator pieces) : u ∈ separator ∨ ∃ piece ∈ pieces, u ∈ piece := by
  cases pieces with
  | nil => cases member
  | cons first pieces =>
      rw [join_cons, List.mem_append, List.mem_flatMap] at member
      rcases member with inFirst | ⟨piece, later, inside⟩
      · exact .inr ⟨first, List.mem_cons_self, inFirst⟩
      · rcases List.mem_append.mp inside with inSeparator | inPiece
        · exact .inl inSeparator
        · exact .inr ⟨piece, List.mem_cons_of_mem _ later, inPiece⟩

theorem split_join {separator : UInt16} {pieces : List Text} (some : pieces ≠ [])
    (free : ∀ piece ∈ pieces, separator ∉ piece) :
    split separator (join [separator] pieces) = pieces := by
  cases pieces with
  | nil => exact absurd rfl some
  | cons first pieces =>
      rw [join_cons]
      exact split_append_flatMap (free first List.mem_cons_self)
        fun piece member => free piece (List.mem_cons_of_mem _ member)

/-- The pieces of a text join to it again, so that no two texts have the same pieces. -/
theorem join_split (separator : UInt16) (text : Text) :
    join [separator] (split separator text) = text := by
  induction text with
  | nil => rfl
  | cons first rest induction =>
      obtain ⟨piece, pieces, cutRest, cut⟩ := split_cons separator first rest
      rw [cutRest, join_cons] at induction
      rw [cut]
      split
      · rename_i isSeparator
        rw [join_cons, List.flatMap_cons, ← induction, isSeparator]
        simp
      · rw [join_cons, List.cons_append, induction]

end BlobStorage.Text
