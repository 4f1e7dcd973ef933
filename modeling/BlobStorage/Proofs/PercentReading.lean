import BlobStorage.Proofs.TextUnits
import BlobStorage.Proofs.Utf8Reading
import BlobStorage.Text.Percent

/-!
# Reading percent-encoded names back

A name is encoded character by character, and its characters are read back from the bytes.  Whatever
set of characters stands for itself, reading undoes writing as long as `%` is not in that set; so no
two names are encoded alike.  An encoded name has plain characters and `%` only, and with them no
character that ends a segment or a path.
-/

namespace BlobStorage.Percent

theorem hexValue?_hexDigit {digit : Nat} (small : digit < 16) :
    hexValue? (hexDigit digit) = some digit := by
  have every : ∀ digit < 16, hexValue? (hexDigit digit) = some digit := by decide
  exact every digit small

theorem decodeBytes_encodeByte_append (byte : UInt8) (rest : List Char) :
    decodeBytes (encodeByte byte ++ rest) = byte :: decodeBytes rest := by
  have bound := byte.toNat_lt
  have high := hexValue?_hexDigit (show byte.toNat / 16 < 16 by omega)
  have low := hexValue?_hexDigit (show byte.toNat % 16 < 16 by omega)
  have whole : UInt8.ofNat (16 * (byte.toNat / 16) + byte.toNat % 16) = byte := by
    rw [Nat.div_add_mod]
    exact UInt8.ofNat_toNat
  simp [encodeByte, decodeBytes, high, low, whole]

theorem decodeBytes_encodeChar_append (character : Char) (rest : List Char) :
    decodeBytes (encodeChar character ++ rest) =
      String.utf8EncodeChar character ++ decodeBytes rest := by
  unfold encodeChar
  induction String.utf8EncodeChar character with
  | nil => rfl
  | cons byte bytes induction =>
      rw [List.flatMap_cons, List.append_assoc, decodeBytes_encodeByte_append, induction,
        List.cons_append]

theorem decodeBytes_cons {character : Char} (noMark : character ≠ '%') (rest : List Char) :
    decodeBytes (character :: rest) = String.utf8EncodeChar character ++ decodeBytes rest := by
  rw [decodeBytes.eq_def]
  split
  · contradiction
  · rename_i same
    exact absurd (List.cons.inj same).1 noMark
  · rename_i same
    obtain ⟨rfl, rfl⟩ := List.cons.inj same
    rfl

theorem utf8EncodeChar_of_ascii {character : Char} (ascii : character.toNat < 128) :
    String.utf8EncodeChar character = [UInt8.ofNat character.toNat] := by
  have short : character.toNat ≤ 127 := Nat.le_of_lt_succ ascii
  simp [String.utf8EncodeChar, short]

/-- Whether a character stands for itself when marks and digits are read as bytes. -/
def isBare (character : Char) : Bool := character != '%' && (hexValue? character).isNone

theorem mem_decodeBytes {characters : List Char} {character : Char}
    (ascii : character.toNat < 128) (bare : isBare character) (member : character ∈ characters) :
    UInt8.ofNat character.toNat ∈ decodeBytes characters := by
  simp only [isBare, Bool.and_eq_true, bne_iff_ne, Option.isNone_iff_eq_none] at bare
  obtain ⟨noMark, noDigit⟩ := bare
  fun_induction decodeBytes characters with
  | case1 => cases member
  | case2 high low rest h l isHigh isLow induction =>
      -- it is neither the mark nor one of the two digits
      have behind : character ∈ rest := by grind
      exact List.mem_cons_of_mem _ (induction behind)
  | case3 high low rest unread induction =>
      have behind : character ∈ high :: low :: rest := by grind
      exact List.mem_append_right _ (induction behind)
  | case4 first rest unmarked induction =>
      rcases List.mem_cons.mp member with rfl | behind
      · rw [utf8EncodeChar_of_ascii ascii]
        exact List.mem_append_left _ (List.mem_singleton_self _)
      · exact List.mem_append_right _ (induction behind)

theorem mem_decode {characters : List Char} {character : Char} (ascii : character.toNat < 128)
    (bare : isBare character) (member : character ∈ characters) :
    character ∈ decode characters := by
  have byte : (UInt8.ofNat character.toNat).toNat = character.toNat := by
    simpa using Nat.lt_trans ascii (by decide)
  have read := Utf8.mem_decode_of_ascii
    (UInt8.lt_iff_toNat_lt.mpr (by rw [byte]; exact ascii)) (mem_decodeBytes ascii bare member)
  rwa [byte, Char.ofNat_toNat] at read

section

variable {plain : Char → Bool}

theorem encode_cons (character : Char) (characters : List Char) :
    encode plain (character :: characters) =
      (if plain character then [character] else encodeChar character) ++
        encode plain characters :=
  List.flatMap_cons

theorem decodeBytes_encode (noMark : plain '%' = false) (characters : List Char) :
    decodeBytes (encode plain characters) = Utf8.encode characters := by
  induction characters with
  | nil => rfl
  | cons character characters induction =>
      rw [encode_cons, Utf8.encode, List.flatMap_cons]
      split
      · rename_i isPlain
        have other : character ≠ '%' := by
          rintro rfl
          simp [noMark] at isPlain
        rw [List.singleton_append, decodeBytes_cons other, induction]
        rfl
      · rw [decodeBytes_encodeChar_append, induction]
        rfl

theorem decode_encode (noMark : plain '%' = false) (characters : List Char) :
    decode (encode plain characters) = characters := by
  rw [decode, decodeBytes_encode noMark, Utf8.decode_encode]

theorem encode_of_plain {characters : List Char}
    (every : ∀ character ∈ characters, plain character) : encode plain characters = characters := by
  induction characters with
  | nil => rfl
  | cons character characters induction =>
      rw [encode_cons, if_pos (every character List.mem_cons_self),
        induction fun other member => every other (List.mem_cons_of_mem _ member)]
      rfl

theorem encode_append (plain : Char → Bool) (left right : List Char) :
    encode plain (left ++ right) = encode plain left ++ encode plain right :=
  List.flatMap_append

theorem encode_ne_nil {plain : Char → Bool} {characters : List Char}
    (someCharacter : characters ≠ []) : encode plain characters ≠ [] := by
  obtain ⟨first, later, rfl⟩ := List.exists_cons_of_ne_nil someCharacter
  obtain ⟨byte, bytes, written⟩ :=
    List.exists_cons_of_ne_nil (String.utf8EncodeChar_ne_nil (c := first))
  rw [encode_cons]
  split <;> simp [encodeChar, encodeByte, written]

end

theorem isAlphanumeric_hexDigit {digit : Nat} (small : digit < 16) :
    isAlphanumeric (hexDigit digit) := by
  have every : ∀ digit < 16, isAlphanumeric (hexDigit digit) = true := by decide
  exact every digit small

theorem mem_encodeChar {character written : Char} (member : written ∈ encodeChar character) :
    written = '%' ∨ isAlphanumeric written := by
  unfold encodeChar encodeByte at member
  simp only [List.mem_flatMap, List.mem_cons, List.not_mem_nil, or_false] at member
  obtain ⟨byte, -, rfl | rfl | rfl⟩ := member
  · exact .inl rfl
  · have bound := byte.toNat_lt
    exact .inr (isAlphanumeric_hexDigit (by omega))
  · exact .inr (isAlphanumeric_hexDigit (by omega))

/-- What is written for characters is `%`, a letter or digit, or a plain one of them. -/
theorem mem_encode {plain : Char → Bool} {characters : List Char} {written : Char}
    (member : written ∈ encode plain characters) :
    written = '%' ∨ isAlphanumeric written ∨ written ∈ characters ∧ plain written := by
  unfold encode at member
  obtain ⟨character, isCharacter, inside⟩ := List.mem_flatMap.mp member
  split at inside
  · rename_i isPlain
    rw [List.mem_singleton] at inside
    subst written
    exact .inr (.inr ⟨isCharacter, isPlain⟩)
  · exact (mem_encodeChar inside).imp_right .inl

theorem isComponentPlain_of_isAlphanumeric (character : Char)
    (alphanumeric : isAlphanumeric character) : isComponentPlain character := by
  simp [isComponentPlain, alphanumeric]

/-- The text that an encoded name stands for; bytes that are not UTF-8 stand for none. -/
def decodeComponent? (piece : Text) : Option Text :=
  piece.toChars?.bind fun characters =>
    let name := decode characters
    if Utf8.encode name = decodeBytes characters then some (Text.ofChars name) else none

theorem decodeComponent?_encodeComponent? {name piece : Text}
    (encoded : encodeComponent? name = some piece) : decodeComponent? piece = some name := by
  obtain ⟨characters, read, rfl⟩ := Option.map_eq_some_iff.mp encoded
  have noMark : isComponentPlain '%' = false := by decide
  have written : (Text.ofChars (encode isComponentPlain characters)).toChars? =
      some (encode isComponentPlain characters) := Text.toChars?_eq_some_iff.mpr rfl
  rw [decodeComponent?, written, Option.bind_some, decode_encode noMark,
    decodeBytes_encode noMark, if_pos rfl, Text.toChars?_eq_some_iff.mp read]

theorem unit_not_mem_encodeComponent? {name piece : Text}
    (encoded : encodeComponent? name = some piece) {mark : Char} (basic : mark.toNat < 0xD800)
    (noMark : mark ≠ '%') (notPlain : isComponentPlain mark = false) :
    Text.unit mark ∉ piece := by
  obtain ⟨characters, -, rfl⟩ := Option.map_eq_some_iff.mp encoded
  rw [Text.unit_mem_ofChars_iff basic]
  intro member
  have isPlain : isComponentPlain mark := by
    rcases mem_encode member with same | alphanumeric | ⟨-, isPlain⟩
    · exact absurd same noMark
    · exact isComponentPlain_of_isAlphanumeric mark alphanumeric
    · exact isPlain
  rw [notPlain] at isPlain
  cases isPlain

end BlobStorage.Percent
