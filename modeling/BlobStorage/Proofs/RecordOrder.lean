import BlobStorage.Value.Record
import Mathlib.Data.List.Induction
import Mathlib.Data.List.Pairwise

/-!
# The order of a record

A record is made by adding entries one after another.  It has one entry for each name that was
added, with the value that was added last.  The names that are indices come first, by size; the
others follow in the order in which they were added for the first time.
-/

namespace BlobStorage.Record

variable {α : Type}

/-- The value that was added last under a name. -/
def lastAdded? (given : List (Text × α)) (name : Text) : Option α :=
  (given.reverse.find? fun entry => entry.1 == name).map (·.2)

theorem lastAdded?_concat (given : List (Text × α)) (entry : Text × α) (name : Text) :
    lastAdded? (given ++ [entry]) name =
      if name = entry.1 then some entry.2 else lastAdded? given name := by
  rw [lastAdded?, List.reverse_append, List.reverse_singleton, List.singleton_append,
    List.find?_cons]
  by_cases same : entry.1 = name
  · simp [same]
  · rw [beq_false_of_ne same, if_neg (Ne.symm same)]
    rfl

/-- Where a name stands among those that were added: the place of its first time. -/
def placeOf (given : List (Text × α)) (name : Text) : Nat := (given.map (·.1)).idxOf name

/-- One name comes before another: as the smaller of two indices, as an index before a name that is
none, or as the one of two other names that was added first. -/
def Precedes (given : List (Text × α)) (left right : Text) : Prop :=
  match index? left, index? right with
  | some smaller, some larger => smaller < larger
  | some _, none => True
  | none, some _ => False
  | none, none => placeOf given left < placeOf given right

theorem Precedes.ne {given : List (Text × α)} {left right : Text}
    (precedes : Precedes given left right) : left ≠ right := by
  rintro rfl
  unfold Precedes at precedes
  cases index : index? left with
  | some number =>
      rw [index] at precedes
      exact Nat.lt_irrefl _ precedes
  | none =>
      rw [index] at precedes
      exact Nat.lt_irrefl _ precedes

/-- Two names do not spell the same index. -/
theorem eq_of_index? {left right : Text} {number : Nat} (leftIndex : index? left = some number)
    (rightIndex : index? right = some number) : left = right := by
  have spelled : ∀ name, index? name = some number → Text.ofNat number = name := by
    intro name index
    obtain ⟨-, canonical⟩ := Option.filter_eq_some_iff.mp index
    exact eq_of_beq (Bool.and_eq_true_iff.mp canonical).2
  rw [← spelled left leftIndex, ← spelled right rightIndex]

section Put

variable {entries : List (Text × α)} {name : Text} {value : α}

theorem mem_put {entry : Text × α} :
    entry ∈ put entries name value ↔
      entry = (name, value) ∨ entry.1 ≠ name ∧ entry ∈ entries := by
  unfold put
  by_cases there : entries.any (·.1 == name) = true
  · rw [if_pos there, List.mem_map]
    constructor
    · rintro ⟨own, member, rfl⟩
      by_cases same : own.1 = name
      · simp [same]
      · simp [same, member]
    · rintro (rfl | ⟨other, member⟩)
      · obtain ⟨own, member, same⟩ := List.any_eq_true.mp there
        exact ⟨own, member, if_pos same⟩
      · exact ⟨entry, member, by rw [if_neg (by simpa using other)]⟩
  · rw [if_neg there, List.mem_append, List.mem_singleton, or_comm]
    refine or_congr_right ⟨?_, And.right⟩
    intro member
    refine ⟨?_, member⟩
    rintro rfl
    exact there (List.any_eq_true.mpr ⟨entry, member, beq_self_eq_true _⟩)

/-- A name that is there keeps its place, and a new one goes to the end. -/
theorem map_fst_put :
    (put entries name value).map (·.1) =
      if name ∈ entries.map (·.1) then entries.map (·.1) else entries.map (·.1) ++ [name] := by
  have there : entries.any (·.1 == name) = true ↔ name ∈ entries.map (·.1) := by
    simp [List.any_eq_true, List.mem_map]
  unfold put
  by_cases among : name ∈ entries.map (·.1)
  · rw [if_pos (there.mpr among), if_pos among, List.map_map]
    apply List.map_congr_left
    intro entry _
    dsimp only [Function.comp]
    split
    · rename_i same
      exact (eq_of_beq same).symm
    · rfl
  · rw [if_neg (mt there.mp among), if_neg among, List.map_append]
    rfl

theorem put_of_not_mem (fresh : name ∉ entries.map (·.1)) :
    put entries name value = entries ++ [(name, value)] := by
  have absent : entries.any (·.1 == name) = false := by
    rw [List.any_eq_false]
    intro entry member same
    exact fresh (List.mem_map.mpr ⟨entry, member, eq_of_beq same⟩)
  rw [put, absent, if_neg Bool.false_ne_true]

end Put

theorem foldl_put_of_nodup {entries : List (Text × α)} (nodup : (entries.map (·.1)).Nodup) :
    entries.foldl (fun record entry => put record entry.1 entry.2) [] = entries := by
  induction entries using List.reverseRecOn with
  | nil => rfl
  | append_singleton entries entry induction =>
      rw [List.map_append, List.nodup_append] at nodup
      obtain ⟨before, -, apart⟩ := nodup
      have fresh : entry.1 ∉ entries.map (·.1) := by
        intro member
        exact apart entry.1 member entry.1 List.mem_cons_self rfl
      rw [List.foldl_append, induction before]
      exact put_of_not_mem fresh

theorem isSome_lastAdded?_iff {given : List (Text × α)} {name : Text} :
    (lastAdded? given name).isSome ↔ name ∈ given.map (·.1) := by
  simp [lastAdded?]

section Place

variable {given : List (Text × α)} {entry : Text × α} {name : Text}

theorem placeOf_concat_of_mem (among : name ∈ given.map (·.1)) :
    placeOf (given ++ [entry]) name = placeOf given name := by
  rw [placeOf, List.map_append, List.idxOf_append, if_pos among, placeOf]

theorem placeOf_lt_length (among : name ∈ given.map (·.1)) :
    placeOf given name < given.length := by
  have inside := List.idxOf_lt_length_of_mem among
  rwa [List.length_map] at inside

theorem placeOf_concat_self (fresh : entry.1 ∉ given.map (·.1)) :
    placeOf (given ++ [entry]) entry.1 = given.length := by
  rw [placeOf, List.map_append, List.idxOf_append, if_neg fresh, List.length_map]
  simp

end Place

/-- What entries are that were added one after another to none: each name once with its last value,
in the places of their first time. -/
structure AddedFrom (given record : List (Text × α)) : Prop where
  mem_iff : ∀ name value, (name, value) ∈ record ↔ lastAdded? given name = some value
  inPlace : (record.map (·.1)).Pairwise fun left right => placeOf given left < placeOf given right

namespace AddedFrom

variable {given record : List (Text × α)}

theorem mem_names_iff (addedFrom : AddedFrom given record) {name : Text} :
    name ∈ record.map (·.1) ↔ name ∈ given.map (·.1) := by
  have added : name ∈ record.map (·.1) ↔ (lastAdded? given name).isSome := by
    rw [Option.isSome_iff_exists, List.mem_map]
    constructor
    · rintro ⟨⟨own, value⟩, member, rfl⟩
      exact ⟨value, (addedFrom.mem_iff own value).mp member⟩
    · rintro ⟨value, last⟩
      exact ⟨(name, value), (addedFrom.mem_iff name value).mpr last, rfl⟩
  rw [added, isSome_lastAdded?_iff]

theorem nodup_names (addedFrom : AddedFrom given record) : (record.map (·.1)).Nodup := by
  refine addedFrom.inPlace.imp ?_
  rintro left right before rfl
  exact Nat.lt_irrefl _ before

theorem put (addedFrom : AddedFrom given record) (entry : Text × α) :
    AddedFrom (given ++ [entry]) (put record entry.1 entry.2) := by
  constructor
  · intro name value
    rw [mem_put, lastAdded?_concat, addedFrom.mem_iff]
    by_cases same : name = entry.1
    · rw [if_pos same, or_iff_left fun other => other.1 same, Prod.mk.injEq, and_iff_right same,
        Option.some.injEq, eq_comm]
    · rw [if_neg same, or_iff_right fun own => same (Prod.mk.inj own).1, and_iff_right same]
  · have kept : (record.map (·.1)).Pairwise fun left right =>
        placeOf (given ++ [entry]) left < placeOf (given ++ [entry]) right := by
      refine addedFrom.inPlace.imp_of_mem ?_
      intro left right leftMember rightMember before
      rw [placeOf_concat_of_mem (addedFrom.mem_names_iff.mp leftMember),
        placeOf_concat_of_mem (addedFrom.mem_names_iff.mp rightMember)]
      exact before
    rw [map_fst_put]
    split
    · exact kept
    · rename_i fresh
      rw [addedFrom.mem_names_iff] at fresh
      refine List.pairwise_append.mpr ⟨kept, List.pairwise_singleton _ _, ?_⟩
      intro left leftMember right rightMember
      have among := addedFrom.mem_names_iff.mp leftMember
      rw [List.mem_singleton.mp rightMember, placeOf_concat_of_mem among,
        placeOf_concat_self fresh]
      exact placeOf_lt_length among

end AddedFrom

/-- Adding entries keeps the invariant from the empty record on. -/
theorem addedFrom_foldl_put (given : List (Text × α)) :
    AddedFrom given (given.foldl (fun record entry => put record entry.1 entry.2) []) := by
  induction given using List.reverseRecOn with
  | nil => exact ⟨by simp [lastAdded?], .nil⟩
  | append_singleton given entry induction =>
      rw [List.foldl_append]
      exact induction.put entry

/-- The entries whose names are indices, with their indices and sorted by them. -/
def indexed (entries : List (Text × α)) : List (Nat × Text × α) :=
  (entries.filterMap fun entry => (index? entry.1).map (·, entry)).mergeSort
    fun left right => left.1 ≤ right.1

theorem ordered_eq (entries : List (Text × α)) :
    ordered entries =
      (indexed entries).map (·.2) ++ entries.filter fun entry => (index? entry.1).isNone := rfl

theorem mem_indexed {entries : List (Text × α)} {number : Nat} {entry : Text × α} :
    (number, entry) ∈ indexed entries ↔ entry ∈ entries ∧ index? entry.1 = some number := by
  rw [indexed, List.mem_mergeSort, List.mem_filterMap]
  constructor
  · rintro ⟨own, member, found⟩
    obtain ⟨ownNumber, index, same⟩ := Option.map_eq_some_iff.mp found
    cases same
    exact ⟨member, index⟩
  · rintro ⟨member, index⟩
    exact ⟨entry, member, by rw [index, Option.map_some]⟩

theorem mem_ordered {entries : List (Text × α)} {entry : Text × α} :
    entry ∈ ordered entries ↔ entry ∈ entries := by
  rw [ordered_eq, List.mem_append, List.mem_map, List.mem_filter, Option.isNone_iff_eq_none]
  constructor
  · rintro (⟨⟨number, own⟩, member, rfl⟩ | ⟨member, -⟩)
    · exact (mem_indexed.mp member).1
    · exact member
  · intro member
    cases index : index? entry.1 with
    | some number => exact .inl ⟨(number, entry), mem_indexed.mpr ⟨member, index⟩, rfl⟩
    | none => exact .inr ⟨member, rfl⟩

/-- Indices rise along the indexed entries, since no two names spell the same one. -/
theorem pairwise_indexed {entries : List (Text × α)} (nodup : (entries.map (·.1)).Nodup) :
    (indexed entries).Pairwise fun left right => left.1 < right.1 := by
  have sorted : (indexed entries).Pairwise fun left right => left.1 ≤ right.1 := by
    refine (List.pairwise_mergeSort ?_ ?_ _).imp of_decide_eq_true
    · intro first second third smaller larger
      exact decide_eq_true (Nat.le_trans (of_decide_eq_true smaller) (of_decide_eq_true larger))
    · intro first second
      simpa using Nat.le_total first.1 second.1
  have distinct : (indexed entries).Pairwise fun left right => left.2.1 ≠ right.2.1 := by
    refine List.Pairwise.perm ?_ (List.mergeSort_perm _ _).symm Ne.symm
    rw [List.pairwise_filterMap]
    refine (List.pairwise_map.mp nodup).imp ?_
    intro left right different leftPair leftFound rightPair rightFound
    obtain ⟨-, -, rfl⟩ := Option.map_eq_some_iff.mp leftFound
    obtain ⟨-, -, rfl⟩ := Option.map_eq_some_iff.mp rightFound
    exact different
  refine (sorted.and distinct).imp_of_mem ?_
  rintro ⟨number, entry⟩ ⟨other, later⟩ member otherMember ⟨small, different⟩
  refine Nat.lt_of_le_of_ne small ?_
  rintro rfl
  exact different (eq_of_index? (mem_indexed.mp member).2 (mem_indexed.mp otherMember).2)

theorem pairwise_ordered {given record : List (Text × α)} (addedFrom : AddedFrom given record) :
    (ordered record).Pairwise fun left right => Precedes given left.1 right.1 := by
  rw [ordered_eq]
  refine List.pairwise_append.mpr ⟨?_, ?_, ?_⟩
  · rw [List.pairwise_map]
    refine (pairwise_indexed addedFrom.nodup_names).imp_of_mem ?_
    rintro ⟨number, entry⟩ ⟨other, later⟩ member otherMember smaller
    rw [Precedes, (mem_indexed.mp member).2, (mem_indexed.mp otherMember).2]
    exact smaller
  · have inPlace := List.pairwise_map.mp addedFrom.inPlace
    refine (inPlace.filter _).imp_of_mem ?_
    intro left right leftMember rightMember before
    have leftName := Option.isNone_iff_eq_none.mp (List.mem_filter.mp leftMember).2
    have rightName := Option.isNone_iff_eq_none.mp (List.mem_filter.mp rightMember).2
    rw [Precedes, leftName, rightName]
    exact before
  · intro left leftMember right rightMember
    obtain ⟨⟨number, entry⟩, member, rfl⟩ := List.mem_map.mp leftMember
    have rightName := Option.isNone_iff_eq_none.mp (List.mem_filter.mp rightMember).2
    rw [Precedes, (mem_indexed.mp member).2, rightName]
    trivial

section OfEntries

variable {given : List (Text × α)}

theorem mem_ofEntries_iff {name : Text} {value : α} :
    (name, value) ∈ ofEntries given ↔ lastAdded? given name = some value := by
  rw [ofEntries, mem_ordered, (addedFrom_foldl_put given).mem_iff]

theorem pairwise_ofEntries (given : List (Text × α)) :
    (ofEntries given).Pairwise fun left right => Precedes given left.1 right.1 :=
  pairwise_ordered (addedFrom_foldl_put given)

theorem nodup_names_ofEntries (given : List (Text × α)) :
    ((ofEntries given).map (·.1)).Nodup := by
  rw [List.Nodup, List.pairwise_map]
  exact (pairwise_ofEntries given).imp Precedes.ne

end OfEntries

end BlobStorage.Record
