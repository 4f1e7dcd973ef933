import BlobStorage.Text.Units
import Mathlib.Data.List.Forall2

/-!
# Characters and units

Writing characters as units and reading them back are inverse to each other on texts in which no
surrogate stands alone.  Texts of ASCII go unit by unit, so that cutting and joining can be followed
on characters.
-/

namespace BlobStorage.Text

theorem toNat_charOfNat {n : Nat} (valid : n.isValidChar) : (Char.ofNat n).toNat = n := by
  unfold Char.ofNat
  rw [dif_pos valid]
  rfl

theorem toNat_unit {character : Char} (basic : character.toNat < 0x10000) :
    (unit character).toNat = character.toNat := by
  simp only [unit, Nat.toUInt16, UInt16.toNat_ofNat']
  omega

theorem unit_inj {left right : Char}
    (leftBasic : left.toNat < 0x10000) (rightBasic : right.toNat < 0x10000)
    (same : unit left = unit right) : left = right := by
  have numbers := congrArg UInt16.toNat same
  rw [toNat_unit leftBasic, toNat_unit rightBasic] at numbers
  exact Char.toNat_inj.mp numbers

theorem isHighSurrogate_iff (u : UInt16) :
    isHighSurrogate u ↔ 0xD800 ≤ u.toNat ∧ u.toNat < 0xDC00 := by
  simp [isHighSurrogate, UInt16.le_iff_toNat_le, UInt16.lt_iff_toNat_lt]

theorem isLowSurrogate_iff (u : UInt16) :
    isLowSurrogate u ↔ 0xDC00 ≤ u.toNat ∧ u.toNat < 0xE000 := by
  simp [isLowSurrogate, UInt16.le_iff_toNat_le, UInt16.lt_iff_toNat_lt]

theorem char_valid (character : Char) :
    character.toNat < 0xD800 ∨ 0xDFFF < character.toNat ∧ character.toNat < 0x110000 :=
  character.valid

theorem ofChar_cases (character : Char) :
    (∃ u : UInt16, ofChar character = [u] ∧ ¬isHighSurrogate u ∧ ¬isLowSurrogate u ∧
        Char.ofNat u.toNat = character) ∨
      ∃ high low : UInt16, ofChar character = [high, low] ∧ isHighSurrogate high ∧
        isLowSurrogate low ∧ pairChar high low = character := by
  have valid := char_valid character
  by_cases basic : character.toNat < 0x10000
  · left
    have number := toNat_unit basic
    refine ⟨unit character, by simp [ofChar, basic], ?_, ?_, ?_⟩
    · rw [isHighSurrogate_iff, number]
      omega
    · rw [isLowSurrogate_iff, number]
      omega
    · rw [number, Char.ofNat_toNat]
  · right
    have high : (((character.toNat - 0x10000) / 0x400 + 0xD800).toUInt16).toNat =
        (character.toNat - 0x10000) / 0x400 + 0xD800 := by
      simp only [Nat.toUInt16, UInt16.toNat_ofNat']
      omega
    have low : (((character.toNat - 0x10000) % 0x400 + 0xDC00).toUInt16).toNat =
        (character.toNat - 0x10000) % 0x400 + 0xDC00 := by
      simp only [Nat.toUInt16, UInt16.toNat_ofNat']
      omega
    refine ⟨_, _, by simp only [ofChar, basic, if_false]; rfl, ?_, ?_, ?_⟩
    · rw [isHighSurrogate_iff, high]
      omega
    · rw [isLowSurrogate_iff, low]
      omega
    · rw [pairChar, high, low]
      have number : 0x10000 + ((character.toNat - 0x10000) / 0x400 + 0xD800 - 0xD800) * 0x400 +
          ((character.toNat - 0x10000) % 0x400 + 0xDC00 - 0xDC00) = character.toNat := by
        omega
      rw [number, Char.ofNat_toNat]

theorem scalars_cons_single {u : UInt16} (notHigh : ¬isHighSurrogate u)
    (notLow : ¬isLowSurrogate u) (rest : Text) :
    scalars (u :: rest) = some (Char.ofNat u.toNat) :: scalars rest := by
  cases rest <;> simp [scalars, notHigh, notLow]

theorem scalars_cons_pair {high low : UInt16} (isHigh : isHighSurrogate high)
    (isLow : isLowSurrogate low) (rest : Text) :
    scalars (high :: low :: rest) = some (pairChar high low) :: scalars rest := by
  simp [scalars, isHigh, isLow]

theorem scalars_ofChar_append (character : Char) (rest : Text) :
    scalars (ofChar character ++ rest) = some character :: scalars rest := by
  rcases ofChar_cases character with
    ⟨u, spelled, notHigh, notLow, back⟩ | ⟨high, low, spelled, isHigh, isLow, back⟩
  · rw [spelled, List.singleton_append, scalars_cons_single notHigh notLow, back]
  · rw [spelled, List.cons_append, List.singleton_append, scalars_cons_pair isHigh isLow, back]

/-- Characters written as units are read back in order, and none of them is a lone surrogate. -/
theorem scalars_ofChars (characters : List Char) :
    scalars (ofChars characters) = characters.map some := by
  induction characters with
  | nil => rfl
  | cons character characters induction =>
      rw [ofChars, List.flatMap_cons, scalars_ofChar_append, List.map_cons]
      exact congrArg _ induction

@[simp] theorem toCharsLossy_ofChars (characters : List Char) :
    toCharsLossy (ofChars characters) = characters := by
  simp [toCharsLossy, scalars_ofChars, Function.comp_def]

@[simp] theorem ofChars_append (left right : List Char) :
    ofChars (left ++ right) = ofChars left ++ ofChars right :=
  List.flatMap_append

theorem ofChars_cons (character : Char) (characters : List Char) :
    ofChars (character :: characters) = ofChar character ++ ofChars characters :=
  List.flatMap_cons

theorem ofChars_of_basic {characters : List Char}
    (basic : ∀ character ∈ characters, character.toNat < 0x10000) :
    ofChars characters = characters.map unit := by
  induction characters with
  | nil => rfl
  | cons character characters induction =>
      rw [ofChars_cons, ofChar, if_pos (basic character List.mem_cons_self),
        induction fun other member => basic other (List.mem_cons_of_mem _ member)]
      rfl

theorem unit_mem_ofChar_iff {mark : Char} (basic : mark.toNat < 0xD800) {character : Char} :
    unit mark ∈ ofChar character ↔ mark = character := by
  have number : (unit mark).toNat = mark.toNat := toNat_unit (by omega)
  rcases ofChar_cases character with
    ⟨u, spelled, -, -, back⟩ | ⟨high, low, spelled, isHigh, isLow, back⟩
  · rw [spelled, List.mem_singleton]
    constructor
    · intro same
      rw [← back, ← same, number, Char.ofNat_toNat]
    · rintro rfl
      simpa [ofChar, show mark.toNat < 0x10000 by omega] using spelled
  · rw [isHighSurrogate_iff] at isHigh
    rw [isLowSurrogate_iff] at isLow
    rw [spelled]
    constructor
    · intro member
      rcases List.mem_pair.mp member with same | same
      · rw [same] at number
        omega
      · rw [same] at number
        omega
    · rintro rfl
      simp [ofChar, show mark.toNat < 0x10000 by omega] at spelled

/-- A character below the surrogates is seen in a text by its unit alone. -/
theorem unit_mem_ofChars_iff {mark : Char} (basic : mark.toNat < 0xD800)
    {characters : List Char} : unit mark ∈ ofChars characters ↔ mark ∈ characters := by
  simp [ofChars, List.mem_flatMap, unit_mem_ofChar_iff basic]

theorem ofChar_pairChar {high low : UInt16} (isHigh : isHighSurrogate high)
    (isLow : isLowSurrogate low) : ofChar (pairChar high low) = [high, low] := by
  rw [isHighSurrogate_iff] at isHigh
  rw [isLowSurrogate_iff] at isLow
  have number : (pairChar high low).toNat =
      0x10000 + (high.toNat - 0xD800) * 0x400 + (low.toNat - 0xDC00) :=
    toNat_charOfNat (by right; omega)
  rw [ofChar, number, if_neg (by omega)]
  have first : (0x10000 + (high.toNat - 0xD800) * 0x400 + (low.toNat - 0xDC00) - 0x10000) / 0x400 +
      0xD800 = high.toNat := by omega
  have second : (0x10000 + (high.toNat - 0xD800) * 0x400 + (low.toNat - 0xDC00) - 0x10000) % 0x400 +
      0xDC00 = low.toNat := by omega
  rw [first, second]
  simp [Nat.toUInt16]

theorem ofChar_charOfNat {u : UInt16} (notHigh : ¬isHighSurrogate u)
    (notLow : ¬isLowSurrogate u) : ofChar (Char.ofNat u.toNat) = [u] := by
  rw [isHighSurrogate_iff] at notHigh
  rw [isLowSurrogate_iff] at notLow
  have bound := u.toNat_lt
  have number : (Char.ofNat u.toNat).toNat = u.toNat :=
    toNat_charOfNat (by unfold Nat.isValidChar; omega)
  rw [ofChar, unit, number, if_pos (by omega)]
  simp [Nat.toUInt16]

theorem ofChars_of_scalars {text : Text} {characters : List Char}
    (read : text.scalars = characters.map some) : ofChars characters = text := by
  -- The units are read one by one or in pairs, and one that is half of a pair is no scalar.
  fun_induction scalars text generalizing characters with
  | case1 =>
      cases characters with
      | nil => rfl
      | cons _ _ => simp at read
  | case2 u =>
      cases characters with
      | nil => simp at read
      | cons character characters =>
          simp only [List.map_cons, List.cons.injEq] at read
          obtain ⟨first, rest⟩ := read
          have empty : characters = [] := List.map_eq_nil_iff.mp rest.symm
          subst empty
          split at first
          · cases first
          · rename_i single
            simp only [Bool.or_eq_true, not_or] at single
            cases first
            simpa [ofChars] using ofChar_charOfNat single.1 single.2
  | case3 high low rest isHigh isLow induction =>
      cases characters with
      | nil => simp at read
      | cons character characters =>
          simp only [List.map_cons, List.cons.injEq, Option.some.injEq] at read
          obtain ⟨rfl, tail⟩ := read
          have written := induction tail
          rw [ofChars, List.flatMap_cons, ofChar_pairChar isHigh isLow]
          exact congrArg _ written
  | case4 u v rest isHigh notLow induction =>
      cases characters <;> simp at read
  | case5 u v rest notHigh isLow induction =>
      cases characters <;> simp at read
  | case6 u v rest notHigh notLow induction =>
      cases characters with
      | nil => simp at read
      | cons character characters =>
          simp only [List.map_cons, List.cons.injEq, Option.some.injEq] at read
          obtain ⟨rfl, tail⟩ := read
          have written := induction tail
          rw [ofChars, List.flatMap_cons, ofChar_charOfNat notHigh notLow]
          exact congrArg _ written

theorem mapM_eq_some_iff {α β : Type} {f : α → Option β} {items : List α} {images : List β} :
    items.mapM f = some images ↔
      List.Forall₂ (fun item image => f item = some image) items images := by
  induction items generalizing images with
  | nil => cases images <;> simp
  | cons item items induction =>
      cases images with
      | nil => simp [Option.bind_eq_some_iff]
      | cons image images => simp [Option.bind_eq_some_iff, induction]

theorem exists_image_of_mapM {α β : Type} {f : α → Option β} {items : List α} {images : List β}
    (every : items.mapM f = some images) {item : α} (member : item ∈ items) :
    ∃ image ∈ images, f item = some image := by
  induction mapM_eq_some_iff.mp every with
  | nil => cases member
  | cons first later induction =>
      rcases List.mem_cons.mp member with rfl | behind
      · exact ⟨_, List.mem_cons_self, first⟩
      · obtain ⟨image, among, isImage⟩ := induction (mapM_eq_some_iff.mpr later) behind
        exact ⟨image, List.mem_cons_of_mem _ among, isImage⟩

theorem toChars?_eq_some_iff {text : Text} {characters : List Char} :
    text.toChars? = some characters ↔ ofChars characters = text := by
  have whole : text.toChars? = some characters ↔ text.scalars = characters.map some := by
    rw [toChars?, mapM_eq_some_iff, ← List.forall₂_eq_eq_eq, List.forall₂_map_right_iff]
    rfl
  rw [whole]
  constructor
  · exact ofChars_of_scalars
  · intro written
    rw [← written, scalars_ofChars]

end BlobStorage.Text
