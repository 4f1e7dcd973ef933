import BlobStorage.Text.Utf8

/-!
# Reading UTF-8 back

The bytes of a character are read as that character, whatever bytes follow.  This module supplies
one lemma for each length of a sequence, and from them that reading undoes writing.
-/

namespace BlobStorage.Utf8

section Sequences

variable {lead second third fourth : UInt8} (rest : List UInt8)

theorem isContinuation_iff {byte : UInt8} :
    isContinuation byte ↔ 0x80 ≤ byte.toNat ∧ byte.toNat ≤ 0xBF := by
  simp [isContinuation, UInt8.le_iff_toNat_le]

theorem decode_one (short : lead.toNat < 0x80) :
    decode (lead :: rest) = Char.ofNat lead.toNat :: decode rest := by
  have ascii : lead < 0x80 := UInt8.lt_iff_toNat_lt.mpr short
  rw [decode.eq_def]
  exact if_pos ascii

theorem decode_two (low : 0xC2 ≤ lead.toNat) (high : lead.toNat ≤ 0xDF)
    (continues : isContinuation second) :
    decode (lead :: second :: rest) =
      Char.ofNat (lead.toNat % 32 * 64 + payload second) :: decode rest := by
  have long : ¬lead < 0x80 := by
    rw [UInt8.lt_iff_toNat_lt]
    exact Nat.not_lt.mpr (Nat.le_trans (by decide) low)
  have opens : (0xC2 ≤ lead && lead ≤ 0xDF) = true := by
    simp [UInt8.le_iff_toNat_le, low, high]
  rw [decode, if_neg long, if_pos opens, if_pos continues]

theorem decode_three (low : 0xE0 ≤ lead.toNat) (high : lead.toNat ≤ 0xEF)
    (allowed : secondByteAllowed lead second) (continues : isContinuation third) :
    decode (lead :: second :: third :: rest) =
      Char.ofNat (lead.toNat % 16 * 4096 + payload second * 64 + payload third) ::
        decode rest := by
  have long : ¬lead < 0x80 := by
    rw [UInt8.lt_iff_toNat_lt]
    exact Nat.not_lt.mpr (Nat.le_trans (by decide) low)
  have notTwo : ¬(0xC2 ≤ lead && lead ≤ 0xDF) = true := by
    simp [UInt8.le_iff_toNat_le]
    omega
  have opens : (0xE0 ≤ lead && lead ≤ 0xEF) = true := by
    simp [UInt8.le_iff_toNat_le, low, high]
  rw [decode, if_neg long, if_neg notTwo, if_pos opens]
  dsimp only
  rw [if_pos allowed, if_pos continues]

theorem decode_four (low : 0xF0 ≤ lead.toNat) (high : lead.toNat ≤ 0xF4)
    (allowed : secondByteAllowed lead second) (continues : isContinuation third)
    (closes : isContinuation fourth) :
    decode (lead :: second :: third :: fourth :: rest) =
      Char.ofNat
          (lead.toNat % 8 * 262144 + payload second * 4096 + payload third * 64 +
            payload fourth) ::
        decode rest := by
  have long : ¬lead < 0x80 := by
    rw [UInt8.lt_iff_toNat_lt]
    exact Nat.not_lt.mpr (Nat.le_trans (by decide) low)
  have notTwo : ¬(0xC2 ≤ lead && lead ≤ 0xDF) = true := by
    simp [UInt8.le_iff_toNat_le]
    omega
  have notThree : ¬(0xE0 ≤ lead && lead ≤ 0xEF) = true := by
    simp [UInt8.le_iff_toNat_le]
    omega
  have opens : (0xF0 ≤ lead && lead ≤ 0xF4) = true := by
    simp [UInt8.le_iff_toNat_le, low, high]
  rw [decode, if_neg long, if_neg notTwo, if_neg notThree, if_pos opens]
  dsimp only
  rw [if_pos allowed, if_pos continues, if_pos closes]

end Sequences

private theorem toNat_ofNat {n : Nat} (small : n < 256) : (UInt8.ofNat n).toNat = n := by
  simpa using small

/-- The byte behind a lead byte of three or four bytes is in the range that the lead byte leaves,
because the character is no surrogate and needs so many bytes. -/
theorem secondByteAllowed_iff {lead second : UInt8} :
    secondByteAllowed lead second ↔
      0x80 ≤ second.toNat ∧ second.toNat ≤ 0xBF ∧ (lead.toNat = 0xE0 → 0xA0 ≤ second.toNat) ∧
        (lead.toNat = 0xED → second.toNat ≤ 0x9F) ∧ (lead.toNat = 0xF0 → 0x90 ≤ second.toNat) ∧
        (lead.toNat = 0xF4 → second.toNat ≤ 0x8F) := by
  unfold secondByteAllowed isContinuation
  simp only [← UInt8.toNat_inj, UInt8.reduceToNat]
  repeat' split
  all_goals
    simp only [Bool.and_eq_true, decide_eq_true_eq, UInt8.le_iff_toNat_le, UInt8.reduceToNat]
    omega

private theorem continuing (bits : Nat) :
    isContinuation (UInt8.ofNat (bits % 64 + 128)) ∧
      payload (UInt8.ofNat (bits % 64 + 128)) = bits % 64 := by
  have byte : (UInt8.ofNat (bits % 64 + 128)).toNat = bits % 64 + 128 := toNat_ofNat (by omega)
  rw [isContinuation_iff, payload, byte]
  omega

theorem decode_utf8EncodeChar_append (character : Char) (rest : List UInt8) :
    decode (String.utf8EncodeChar character ++ rest) = character :: decode rest := by
  have valid : character.toNat < 0xD800 ∨ 0xDFFF < character.toNat ∧ character.toNat < 0x110000 :=
    character.valid
  have back : Char.ofNat character.toNat = character := Char.ofNat_toNat character
  unfold String.utf8EncodeChar
  rw [show character.val.toNat = character.toNat from rfl]
  generalize character.toNat = code at valid back ⊢
  dsimp only
  -- One case for each length; the arithmetic puts the bits of the code point together again.
  split
  · have lead : (UInt8.ofNat code).toNat = code := toNat_ofNat (by omega)
    rw [List.singleton_append, decode_one rest (by omega), lead, back]
  · split
    · have lead : (UInt8.ofNat (code / 64 % 32 + 192)).toNat = code / 64 % 32 + 192 :=
        toNat_ofNat (by omega)
      obtain ⟨second, secondBits⟩ := continuing code
      have code_eq : (code / 64 % 32 + 192) % 32 * 64 + code % 64 = code := by omega
      rw [List.cons_append, List.singleton_append,
        decode_two rest (by omega) (by omega) second, lead, secondBits, code_eq, back]
    · split
      · have lead : (UInt8.ofNat (code / 4096 % 16 + 224)).toNat = code / 4096 % 16 + 224 :=
          toNat_ofNat (by omega)
        have byte : (UInt8.ofNat (code / 64 % 64 + 128)).toNat = code / 64 % 64 + 128 :=
          toNat_ofNat (by omega)
        have allowed : secondByteAllowed (UInt8.ofNat (code / 4096 % 16 + 224))
            (UInt8.ofNat (code / 64 % 64 + 128)) := by
          rw [secondByteAllowed_iff, lead, byte]
          omega
        obtain ⟨-, secondBits⟩ := continuing (code / 64)
        obtain ⟨third, thirdBits⟩ := continuing code
        have code_eq : (code / 4096 % 16 + 224) % 16 * 4096 + code / 64 % 64 * 64 + code % 64 =
            code := by omega
        rw [List.cons_append, List.cons_append, List.singleton_append,
          decode_three rest (by omega) (by omega) allowed third, lead, secondBits, thirdBits,
          code_eq, back]
      · have lead : (UInt8.ofNat (code / 262144 % 8 + 240)).toNat = code / 262144 % 8 + 240 :=
          toNat_ofNat (by omega)
        have byte : (UInt8.ofNat (code / 4096 % 64 + 128)).toNat = code / 4096 % 64 + 128 :=
          toNat_ofNat (by omega)
        have allowed : secondByteAllowed (UInt8.ofNat (code / 262144 % 8 + 240))
            (UInt8.ofNat (code / 4096 % 64 + 128)) := by
          rw [secondByteAllowed_iff, lead, byte]
          omega
        obtain ⟨-, secondBits⟩ := continuing (code / 4096)
        obtain ⟨third, thirdBits⟩ := continuing (code / 64)
        obtain ⟨fourth, fourthBits⟩ := continuing code
        have code_eq : (code / 262144 % 8 + 240) % 8 * 262144 + code / 4096 % 64 * 4096 +
            code / 64 % 64 * 64 + code % 64 = code := by omega
        rw [List.cons_append, List.cons_append, List.cons_append, List.singleton_append,
          decode_four rest (by omega) (by omega) allowed third fourth, lead, secondBits,
          thirdBits, fourthBits, code_eq, back]

theorem decode_encode (characters : List Char) : decode (encode characters) = characters := by
  induction characters with
  | nil => rfl
  | cons character characters induction =>
      simp only [encode, List.flatMap_cons] at induction ⊢
      rw [decode_utf8EncodeChar_append, induction]

/-- A byte of ASCII is read as a character, whatever stands around it. -/
theorem mem_decode_of_ascii {bytes : List UInt8} {byte : UInt8} (ascii : byte < 0x80)
    (member : byte ∈ bytes) : Char.ofNat byte.toNat ∈ decode bytes := by
  have short : byte.toNat < 0x80 := UInt8.lt_iff_toNat_lt.mp ascii
  have notContinuation : isContinuation byte = false := by
    rw [← Bool.not_eq_true, isContinuation_iff]
    omega
  have notSecond (lead : UInt8) : secondByteAllowed lead byte = false := by
    rw [← Bool.not_eq_true, secondByteAllowed_iff]
    omega
  -- no sequence of more than one byte takes it in, so it stays for what is read behind
  fun_induction decode bytes <;> grind

end BlobStorage.Utf8
