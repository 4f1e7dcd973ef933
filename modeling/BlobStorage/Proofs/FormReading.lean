import BlobStorage.Proofs.PercentReading
import BlobStorage.Proofs.WellFormedText
import BlobStorage.Text.Form

/-!
# Reading form-encoded pairs back

The two halves of a pair are encoded without the marks that pairs are cut at, so every pair is found
again.  A half is percent-encoded with blanks as plain characters, each of them written as a plus
sign, and a plus sign of its own is encoded: so no half is changed on the way back.
-/

namespace BlobStorage.Form

theorem mem_encodeHalf {characters : List Char} {written : Char}
    (member : written ∈ encodeHalf characters) :
    written = '+' ∨ written = '%' ∨ isPlain written := by
  obtain ⟨character, -, inside⟩ := List.mem_flatMap.mp member
  split at inside
  · rename_i plain
    rw [List.mem_singleton.mp inside]
    exact .inr (.inr plain)
  · split at inside
    · exact .inl (List.mem_singleton.mp inside)
    · rcases Percent.mem_encodeChar inside with percent | alphanumeric
      · exact .inr (.inl percent)
      · exact .inr (.inr (by simp [isPlain, alphanumeric]))

/-- Plus signs are read as blanks before anything is decoded. -/
def blankOf (character : Char) : Char := if character = '+' then ' ' else character

theorem map_blankOf_of_absent {characters : List Char} (absent : '+' ∉ characters) :
    characters.map blankOf = characters := by
  refine (List.map_congr_left ?_).trans (List.map_id _)
  rintro character member
  rw [blankOf, if_neg]
  · rfl
  · rintro rfl
    exact absent member

/-- The characters that stand for themselves once plus signs are blanks. -/
def isPlainOrBlank (character : Char) : Bool := isPlain character || character == ' '

theorem map_blankOf_encodeHalf (characters : List Char) :
    (encodeHalf characters).map blankOf = Percent.encode isPlainOrBlank characters := by
  rw [encodeHalf, Percent.encode, List.map_flatMap]
  congr 1
  funext character
  by_cases plain : isPlain character = true
  · have other : character ≠ '+' := by
      rintro rfl
      cases plain
    simp [plain, isPlainOrBlank, blankOf, other]
  · by_cases blank : character = ' '
    · subst blank
      rfl
    · have absent : '+' ∉ Percent.encodeChar character := by
        intro member
        rcases Percent.mem_encodeChar member with percent | alphanumeric
        · cases percent
        · cases alphanumeric
      simp [plain, isPlainOrBlank, blank, map_blankOf_of_absent absent]

theorem decodeHalf_encodeHalf (characters : List Char) :
    decodeHalf (Text.ofChars (encodeHalf characters)) = Text.ofChars characters := by
  rw [decodeHalf, Text.toCharsLossy_ofChars]
  exact congrArg Text.ofChars <|
    (congrArg Percent.decode (map_blankOf_encodeHalf characters)).trans
      (Percent.decode_encode (by decide) characters)

theorem unit_not_mem_encodeHalf {mark : Char} (basic : mark.toNat < 0xD800) (noPlus : mark ≠ '+')
    (noPercent : mark ≠ '%') (notPlain : isPlain mark = false) (characters : List Char) :
    Text.unit mark ∉ Text.ofChars (encodeHalf characters) := by
  rw [Text.unit_mem_ofChars_iff basic]
  intro member
  rcases mem_encodeHalf member with plus | percent | plain
  · exact noPlus plus
  · exact noPercent percent
  · exact Bool.false_ne_true (notPlain.symm.trans plain)

/-- A pair as it stands between two of the marks that pairs are cut at. -/
def encodePair (pair : Text × Text) : Text :=
  Text.ofChars (encodeHalf pair.1.toCharsLossy) ++
    Text.unit '=' :: Text.ofChars (encodeHalf pair.2.toCharsLossy)

theorem encode_eq (pairs : List (Text × Text)) :
    encode pairs = Text.join [Text.unit '&'] (pairs.map encodePair) := by
  rw [encode]
  congr 1
  apply List.map_congr_left
  rintro ⟨name, value⟩ -
  exact List.append_assoc _ _ _

theorem unit_not_mem_encodePair (pair : Text × Text) : Text.unit '&' ∉ encodePair pair := by
  rw [encodePair, List.mem_append, List.mem_cons]
  rintro (inName | equals | inValue)
  · exact unit_not_mem_encodeHalf (by decide) (by decide) (by decide) (by decide) _ inName
  · exact absurd equals (by decide)
  · exact unit_not_mem_encodeHalf (by decide) (by decide) (by decide) (by decide) _ inValue

/-- A piece is cut at its first equals sign, the one that was written between the halves. -/
def readPair (piece : Text) : Text × Text :=
  (decodeHalf (piece.takeWhile fun u => u != Text.unit '='),
    decodeHalf ((piece.dropWhile fun u => u != Text.unit '=').drop 1))

theorem readPair_encodePair {pair : Text × Text} (name : pair.1.isWellFormed)
    (value : pair.2.isWellFormed) : readPair (encodePair pair) = pair := by
  have before : ∀ u ∈ Text.ofChars (encodeHalf pair.1.toCharsLossy),
      (u != Text.unit '=') = true := by
    intro u member
    rw [bne_iff_ne]
    rintro rfl
    exact unit_not_mem_encodeHalf (by decide) (by decide) (by decide) (by decide) _ member
  rw [readPair, encodePair, List.takeWhile_append_of_pos before,
    List.dropWhile_append_of_pos before]
  simp only [List.takeWhile_cons, List.dropWhile_cons, bne_self_eq_false, Bool.false_eq_true,
    if_false, List.append_nil, List.drop_one, List.tail_cons, decodeHalf_encodeHalf,
    Text.ofChars_toCharsLossy name, Text.ofChars_toCharsLossy value]

theorem decode_eq (query : Text) :
    decode query =
      ((Text.split (Text.unit '&') query).filter fun piece => !piece.isEmpty).map readPair := rfl

/-- Pairs without lone surrogates are read back as they are, in their order. -/
theorem decode_encode {pairs : List (Text × Text)}
    (wellFormed : ∀ pair ∈ pairs, pair.1.isWellFormed ∧ pair.2.isWellFormed) :
    decode (encode pairs) = pairs := by
  by_cases none : pairs = []
  · subst none
    rfl
  · have pieces : ∀ piece ∈ pairs.map encodePair, Text.unit '&' ∉ piece := by
      rw [List.forall_mem_map]
      exact fun pair _ => unit_not_mem_encodePair pair
    have kept : (pairs.map encodePair).filter (fun piece => !piece.isEmpty) =
        pairs.map encodePair := by
      rw [List.filter_eq_self, List.forall_mem_map]
      intro pair _
      simp [encodePair]
    rw [decode_eq, encode_eq, Text.split_join (by simpa using none) pieces, kept, List.map_map]
    refine (List.map_congr_left ?_).trans (List.map_id _)
    intro pair member
    exact readPair_encodePair (wellFormed pair member).1 (wellFormed pair member).2

end BlobStorage.Form
