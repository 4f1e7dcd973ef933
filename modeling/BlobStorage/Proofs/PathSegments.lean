import BlobStorage.Proofs.PercentReading
import BlobStorage.Proofs.TextPieces
import BlobStorage.Url.Path
import Mathlib.Data.List.Induction

/-!
# Paths that are read back as they are

A segment is settled when reading it again changes nothing: its characters stand for themselves, no
slash or backslash is in it, and it is no dots in any spelling.  Every segment that reading a path
leaves is settled, and so is every encoded name that is not made of dots itself.  A path of settled
segments is read back segment by segment.
-/

namespace BlobStorage

namespace Host

theorem eq_of_lowerChar_eq {character other : Char} (lowered : lowerChar character = other)
    (noLetter : ¬('a' ≤ other ∧ other ≤ 'z')) : character = other := by
  unfold lowerChar at lowered
  split at lowered
  · rename_i upper
    rw [Char.le_def, Char.le_def, UInt32.le_iff_toNat_le, UInt32.le_iff_toNat_le] at upper
    have bounds : 65 ≤ character.toNat ∧ character.toNat ≤ 90 := upper
    have number : (Char.ofNat (character.toNat + 32)).toNat = character.toNat + 32 :=
      Text.toNat_charOfNat (by left; omega)
    rw [lowered] at number
    have inRange : 97 ≤ other.toNat ∧ other.toNat ≤ 122 := by omega
    exact absurd inRange noLetter
  · exact lowered

end Host

/-- What holds of each ASCII character of a kind holds of the kind, if it is one of ASCII. -/
theorem forall_of_ascii {kind property : Char → Bool}
    (ascii : ∀ character, kind character → character.toNat < 128)
    (checked : ∀ number < 128, kind (Char.ofNat number) → property (Char.ofNat number))
    (character : Char) (isKind : kind character) : property character := by
  have number := ascii character isKind
  rw [← Char.ofNat_toNat character] at isKind ⊢
  exact checked _ number isKind

namespace Percent

theorem ascii_of_isAlphanumeric (character : Char) (alphanumeric : isAlphanumeric character) :
    character.toNat < 128 := by
  simp only [isAlphanumeric, Bool.or_eq_true, Bool.and_eq_true, decide_eq_true_eq, Char.le_def,
    UInt32.le_iff_toNat_le] at alphanumeric
  have bounds : (48 ≤ character.toNat ∧ character.toNat ≤ 57 ∨
      97 ≤ character.toNat ∧ character.toNat ≤ 122) ∨
        65 ≤ character.toNat ∧ character.toNat ≤ 90 := alphanumeric
  omega

/-- A set of ASCII marks and the letters and digits are ASCII. -/
theorem ascii_of_marked (marks : List Char) (ascii : marks.all fun mark => mark.toNat < 128)
    (character : Char) (plain : isAlphanumeric character || marks.contains character) :
    character.toNat < 128 := by
  rcases Bool.or_eq_true_iff.mp plain with alphanumeric | mark
  · exact ascii_of_isAlphanumeric character alphanumeric
  · exact of_decide_eq_true (List.all_eq_true.mp ascii character (List.contains_iff_mem.mp mark))

theorem ascii_of_isPathPlain (character : Char) (plain : Url.isPathPlain character) :
    character.toNat < 128 := by
  simp only [Url.isPathPlain, Url.isPrintable, Bool.and_eq_true, decide_eq_true_eq, Char.le_def,
    UInt32.le_iff_toNat_le] at plain
  exact Nat.lt_of_le_of_lt plain.1.2 (by decide)

theorem isPathPlain_of_isAlphanumeric :
    ∀ character, isAlphanumeric character → Url.isPathPlain character :=
  forall_of_ascii ascii_of_isAlphanumeric (by decide +kernel)

theorem isPathPlain_of_isComponentPlain :
    ∀ character, isComponentPlain character → Url.isPathPlain character :=
  forall_of_ascii (ascii_of_marked _ (by decide)) (by decide +kernel)

/-- Every mark in a list of characters is followed by the two digits of a dot. -/
def marksDots : List Char → Bool
  | [] => true
  | '%' :: rest => rest.take 2 == ['2', 'e'] && marksDots rest
  | _ :: rest => marksDots rest

theorem marksDots_of_append {first second : List Char} (dots : marksDots (first ++ second)) :
    marksDots second := by
  induction first with
  | nil => exact dots
  | cons character first induction =>
      apply induction
      rw [List.cons_append, marksDots.eq_def] at dots
      split at dots
      · contradiction
      · rename_i same
        obtain ⟨rfl, rfl⟩ := List.cons.inj same
        exact (Bool.and_eq_true_iff.mp dots).2
      · rename_i same
        obtain ⟨rfl, rfl⟩ := List.cons.inj same
        exact dots

private theorem dot_of_hexDigits {byte : UInt8}
    (high : Host.lowerChar (hexDigit (byte.toNat / 16)) = '2')
    (low : Host.lowerChar (hexDigit (byte.toNat % 16)) = 'e') : byte.toNat = 0x2E := by
  have bound := byte.toNat_lt
  have highDigit : ∀ digit < 16, Host.lowerChar (hexDigit digit) = '2' → digit = 2 := by decide
  have lowDigit : ∀ digit < 16, Host.lowerChar (hexDigit digit) = 'e' → digit = 14 := by decide
  have first := highDigit _ (by omega) high
  have second := lowDigit _ (by omega) low
  omega

private theorem eq_dot_of_byte {character : Char} {byte : UInt8} {bytes : List UInt8}
    (written : String.utf8EncodeChar character = byte :: bytes) (dot : byte.toNat = 0x2E) :
    character = '.' := by
  have read := Utf8.decode_utf8EncodeChar_append character []
  rw [written, List.cons_append, Utf8.decode_one _ (by omega), dot] at read
  exact (List.cons.inj read).1.symm

/-- Characters whose encoded form spells dots stood for themselves: a dot is never encoded. -/
theorem plain_of_marksDots {plain : Char → Bool} (dot : plain '.' = true)
    {characters : List Char}
    (dots : marksDots ((encode plain characters).map Host.lowerChar)) :
    ∀ character ∈ characters, plain character := by
  induction characters with
  | nil => simp
  | cons character characters induction =>
      rw [encode_cons, List.map_append] at dots
      rw [List.forall_mem_cons]
      refine ⟨?_, induction (marksDots_of_append dots)⟩
      by_cases isPlain : plain character
      · exact isPlain
      · rw [if_neg isPlain] at dots
        obtain ⟨byte, bytes, written⟩ :=
          List.exists_cons_of_ne_nil (String.utf8EncodeChar_ne_nil (c := character))
        unfold encodeChar at dots
        rw [written, List.flatMap_cons] at dots
        have mark : Host.lowerChar '%' = '%' := by decide
        simp only [encodeByte, List.cons_append, List.map_cons, mark, marksDots,
          List.take_succ_cons, List.take_zero, Bool.and_eq_true, beq_iff_eq, List.cons.injEq,
          and_true] at dots
        have same := eq_dot_of_byte written (dot_of_hexDigits dots.1.1 dots.1.2)
        rw [same] at isPlain
        exact absurd dot isPlain

end Percent

namespace UrlPath

theorem marksDots_of_isSingleDot {segment : List Char} (dots : isSingleDot segment) :
    Percent.marksDots (segment.map Host.lowerChar) := by
  unfold isSingleDot at dots
  rw [Bool.or_eq_true, beq_iff_eq, beq_iff_eq] at dots
  rcases dots with same | same <;> rw [same] <;> decide

theorem marksDots_of_isDoubleDot {segment : List Char} (dots : isDoubleDot segment) :
    Percent.marksDots (segment.map Host.lowerChar) := by
  unfold isDoubleDot at dots
  obtain ⟨spelling, member, same⟩ := List.any_eq_true.mp dots
  have every : ∀ spelling ∈ ["..", ".%2e", "%2e.", "%2e%2e"],
      Percent.marksDots spelling.toList := by
    decide
  rw [← beq_iff_eq.mp same]
  exact every spelling member

section Dots

variable {isDots : List Char → Bool}
  (marks : ∀ segment, isDots segment → Percent.marksDots (segment.map Host.lowerChar))
  {plain : Char → Bool} (dot : plain '.' = true) {piece : List Char}

include marks dot

/-- Encoding does not turn a segment into dots: nothing was encoded of one that is dots then. -/
theorem of_dots_encode (dots : isDots (Percent.encode plain piece)) :
    (∀ character ∈ piece, plain character) ∧ isDots piece := by
  have isPlain := Percent.plain_of_marksDots dot (marks _ dots)
  rw [Percent.encode_of_plain isPlain] at dots
  exact ⟨isPlain, dots⟩

theorem dots_encode_eq_false (noDots : isDots piece = false) :
    isDots (Percent.encode plain piece) = false := by
  rw [Bool.eq_false_iff] at noDots ⊢
  exact fun dots => noDots (of_dots_encode marks dot dots).2

end Dots

/-- Reading the segment again changes nothing. -/
structure Settled (segment : List Char) : Prop where
  plain : ∀ character ∈ segment, Url.isPathPlain character
  noSlash : '/' ∉ segment
  noBackslash : '\\' ∉ segment
  noSingleDot : isSingleDot segment = false
  noDoubleDot : isDoubleDot segment = false

theorem settled_nil : Settled [] where
  plain := by simp
  noSlash := by simp
  noBackslash := by simp
  noSingleDot := by decide
  noDoubleDot := by decide

/-- A segment that was encoded is settled unless it is dots, whichever set of characters stood for
themselves. -/
theorem settled_encode {plain : Char → Bool}
    (pathPlain : ∀ character, plain character → Url.isPathPlain character) {piece : List Char}
    (noSlash : ¬('/' ∈ piece ∧ plain '/')) (noBackslash : ¬('\\' ∈ piece ∧ plain '\\'))
    (noSingleDot : isSingleDot (Percent.encode plain piece) = false)
    (noDoubleDot : isDoubleDot (Percent.encode plain piece) = false) :
    Settled (Percent.encode plain piece) where
  plain := by
    intro character member
    rcases Percent.mem_encode member with rfl | alphanumeric | ⟨-, isPlain⟩
    · decide
    · exact Percent.isPathPlain_of_isAlphanumeric character alphanumeric
    · exact pathPlain character isPlain
  noSlash := by
    intro member
    rcases Percent.mem_encode member with same | alphanumeric | kept
    · cases same
    · exact absurd alphanumeric (by decide)
    · exact noSlash kept
  noBackslash := by
    intro member
    rcases Percent.mem_encode member with same | alphanumeric | kept
    · cases same
    · exact absurd alphanumeric (by decide)
    · exact noBackslash kept
  noSingleDot := noSingleDot
  noDoubleDot := noDoubleDot

private theorem eq_of_map_lowerChar_eq {characters other : List Char}
    (lowered : characters.map Host.lowerChar = other)
    (noLetter : other.all fun character => ¬('a' ≤ character ∧ character ≤ 'z')) :
    characters = other := by
  subst other
  induction characters with
  | nil => rfl
  | cons character characters induction =>
      rw [List.map_cons, List.all_cons, Bool.and_eq_true] at noLetter
      rw [List.map_cons, ← induction noLetter.2,
        ← Host.eq_of_lowerChar_eq rfl (of_decide_eq_true noLetter.1)]

private theorem mark_mem_of_map_lowerChar {characters : List Char}
    (member : '%' ∈ characters.map Host.lowerChar) : '%' ∈ characters := by
  obtain ⟨character, isCharacter, lowered⟩ := List.mem_map.mp member
  rwa [← Host.eq_of_lowerChar_eq lowered (by decide)]

theorem eq_dot_of_isSingleDot {segment : List Char} (noMark : '%' ∉ segment)
    (dots : isSingleDot segment) : segment = ['.'] := by
  unfold isSingleDot at dots
  rw [Bool.or_eq_true, beq_iff_eq, beq_iff_eq] at dots
  rcases dots with plain | marked
  · exact eq_of_map_lowerChar_eq plain (by decide)
  · exact absurd (mark_mem_of_map_lowerChar (by rw [marked]; decide)) noMark

theorem eq_dots_of_isDoubleDot {segment : List Char} (noMark : '%' ∉ segment)
    (dots : isDoubleDot segment) : segment = ['.', '.'] := by
  unfold isDoubleDot at dots
  obtain ⟨spelling, member, same⟩ := List.any_eq_true.mp dots
  rw [beq_iff_eq] at same
  rcases List.mem_cons.mp member with rfl | marked
  · exact eq_of_map_lowerChar_eq same.symm (by decide)
  · have every :
        [".%2e", "%2e.", "%2e%2e"].all (fun spelling => spelling.toList.contains '%') := by
      decide
    have inside := List.contains_iff_mem.mp (List.all_eq_true.mp every spelling marked)
    rw [same] at inside
    exact absurd (mark_mem_of_map_lowerChar inside) noMark

theorem settled_encodeComponent {name : List Char} (noDot : name ≠ ['.'])
    (noDots : name ≠ ['.', '.']) :
    Settled (Percent.encode Percent.isComponentPlain name) := by
  have dot : Percent.isComponentPlain '.' = true := by decide
  have noMark (plain : ∀ character ∈ name, Percent.isComponentPlain character) : '%' ∉ name :=
    fun member => absurd (plain '%' member) (by decide)
  apply settled_encode Percent.isPathPlain_of_isComponentPlain
  · exact fun both => absurd both.2 (by decide)
  · exact fun both => absurd both.2 (by decide)
  · rw [← Bool.not_eq_true]
    intro dots
    obtain ⟨plain, single⟩ := of_dots_encode (fun _ => marksDots_of_isSingleDot) dot dots
    exact noDot (eq_dot_of_isSingleDot (noMark plain) single)
  · rw [← Bool.not_eq_true]
    intro dots
    obtain ⟨plain, double⟩ := of_dots_encode (fun _ => marksDots_of_isDoubleDot) dot dots
    exact noDots (eq_dots_of_isDoubleDot (noMark plain) double)

theorem mem_of_mem_shorten {isFile : Bool} {segments : List (List Char)} {segment : List Char}
    (member : segment ∈ shorten isFile segments) : segment ∈ segments := by
  unfold shorten at member
  split at member
  · split at member
    · exact member
    · cases member
  · exact List.dropLast_subset segments member

theorem push_eq_append (segments : List (List Char)) (segment : List Char) :
    push false segments segment = segments ++ [Percent.encode Url.isPathPlain segment] := by
  unfold push
  split
  · rw [Bool.false_and]
    rfl
  · rfl

theorem settled_push {segments : List (List Char)} {piece : List Char}
    (settled : ∀ segment ∈ segments, Settled segment) (noSlash : '/' ∉ piece)
    (noBackslash : '\\' ∉ piece) (noSingleDot : isSingleDot piece = false)
    (noDoubleDot : isDoubleDot piece = false) :
    ∀ segment ∈ push false segments piece, Settled segment := by
  rw [push_eq_append, List.forall_mem_append]
  refine ⟨settled, ?_⟩
  rw [List.forall_mem_singleton]
  apply settled_encode
  · exact fun _ plain => plain
  · exact fun both => noSlash both.1
  · exact fun both => noBackslash both.1
  · exact dots_encode_eq_false (fun _ => marksDots_of_isSingleDot) (by decide) noSingleDot
  · exact dots_encode_eq_false (fun _ => marksDots_of_isDoubleDot) (by decide) noDoubleDot

theorem settled_append_nil {segments : List (List Char)}
    (settled : ∀ segment ∈ segments, Settled segment) :
    ∀ segment ∈ segments ++ [[]], Settled segment := by
  rw [List.forall_mem_append, List.forall_mem_singleton]
  exact ⟨settled, settled_nil⟩

theorem settled_resolve {segments pieces : List (List Char)}
    (settled : ∀ segment ∈ segments, Settled segment)
    (noSlash : ∀ piece ∈ pieces, '/' ∉ piece) (noBackslash : ∀ piece ∈ pieces, '\\' ∉ piece) :
    ∀ segment ∈ resolve false segments pieces, Settled segment := by
  induction pieces generalizing segments with
  | nil => exact settled
  | cons piece pieces induction =>
      rw [List.forall_mem_cons] at noSlash noBackslash
      have shortened : ∀ segment ∈ shorten false segments, Settled segment :=
        fun segment member => settled segment (mem_of_mem_shorten member)
      cases pieces with
      | nil =>
          rw [resolve]
          split
          · exact settled_append_nil shortened
          · split
            · exact settled_append_nil settled
            · rename_i noDoubleDot noSingleDot
              exact settled_push settled noSlash.1 noBackslash.1 (by simpa using noSingleDot)
                (by simpa using noDoubleDot)
      | cons next pieces =>
          rw [resolve]
          · split
            · exact induction shortened noSlash.2 noBackslash.2
            · split
              · exact induction settled noSlash.2 noBackslash.2
              · rename_i noDoubleDot noSingleDot
                apply induction _ noSlash.2 noBackslash.2
                exact settled_push settled noSlash.1 noBackslash.1 (by simpa using noSingleDot)
                  (by simpa using noDoubleDot)
          · simp

theorem resolve_settled {segments pieces : List (List Char)}
    (settled : ∀ piece ∈ pieces, Settled piece) :
    resolve false segments pieces = segments ++ pieces := by
  induction pieces generalizing segments with
  | nil => simp [resolve]
  | cons piece pieces induction =>
      rw [List.forall_mem_cons] at settled
      obtain ⟨plain, -, -, noSingleDot, noDoubleDot⟩ := settled.1
      have pushed : push false segments piece = segments ++ [piece] := by
        rw [push_eq_append, Percent.encode_of_plain plain]
      cases pieces with
      | nil => simp [resolve, noSingleDot, noDoubleDot, pushed]
      | cons next pieces =>
          have later : resolve false (segments ++ [piece]) (next :: pieces) =
              segments ++ [piece] ++ next :: pieces := induction settled.2
          simpa [resolve, noSingleDot, noDoubleDot, pushed] using later

theorem noBackslash_withSlashes (text : List Char) : '\\' ∉ withSlashes text := by
  unfold withSlashes
  intro member
  obtain ⟨character, -, same⟩ := List.mem_map.mp member
  split at same
  · cases same
  · contradiction

theorem withSlashes_of_not_mem {text : List Char} (noBackslash : '\\' ∉ text) :
    withSlashes text = text := by
  induction text with
  | nil => rfl
  | cons character text induction =>
      simp only [List.mem_cons, not_or] at noBackslash
      rw [withSlashes, List.map_cons, if_neg (Ne.symm noBackslash.1)]
      exact congrArg _ (induction noBackslash.2)

theorem mem_of_mem_afterSlash {text : List Char} {character : Char}
    (member : character ∈ afterSlash text) : character ∈ text := by
  unfold afterSlash at member
  split at member
  · exact List.mem_cons_of_mem _ member
  · exact member

theorem settled_ofSpecial (text : List Char) :
    ∃ segments, ofSpecial false text = .segments segments ∧
      ∀ segment ∈ segments, Settled segment := by
  refine ⟨_, rfl, ?_⟩
  apply settled_resolve
  · simp
  · intro piece member inside
    exact (Text.mem_piece member inside).2 rfl
  · intro piece member inside
    have inText := mem_of_mem_afterSlash (Text.mem_piece member inside).1
    exact noBackslash_withSlashes text inText

/-- A path of settled segments is read back segment by segment. -/
theorem ofSpecial_settled {segments : List (List Char)} (some : segments ≠ [])
    (settled : ∀ segment ∈ segments, Settled segment) :
    ofSpecial false (segments.flatMap ('/' :: ·)) = .segments segments := by
  obtain ⟨first, later, rfl⟩ := List.exists_cons_of_ne_nil some
  have noBackslash : '\\' ∉ (first :: later).flatMap ('/' :: ·) := by
    intro member
    obtain ⟨segment, isSegment, inside⟩ := List.mem_flatMap.mp member
    rcases List.mem_cons.mp inside with same | inSegment
    · cases same
    · exact (settled segment isSegment).noBackslash inSegment
  unfold ofSpecial
  rw [withSlashes_of_not_mem noBackslash, List.flatMap_cons, List.cons_append, afterSlash]
  rw [Text.split_append_flatMap, resolve_settled settled, List.nil_append]
  · exact (settled first List.mem_cons_self).noSlash
  · exact fun piece member => (settled piece (List.mem_cons_of_mem _ member)).noSlash

/-- The text of a path without the slashes at its end is a path of some of its segments. -/
theorem exists_segments_trimmed (segments : List (List Char))
    (settled : ∀ segment ∈ segments, Settled segment) :
    ∃ kept : List (List Char), (∀ segment ∈ kept, segment ∈ segments) ∧
      Text.trimEnd (· == Text.unit '/') (Text.ofChars (segments.flatMap ('/' :: ·))) =
        Text.ofChars (kept.flatMap ('/' :: ·)) := by
  induction segments using List.reverseRecOn with
  | nil => exact ⟨[], by simp, rfl⟩
  | append_singleton segments last induction =>
      rw [List.forall_mem_append, List.forall_mem_singleton] at settled
      obtain rfl | ⟨start, character, rfl⟩ := last.eq_nil_or_concat'
      · obtain ⟨kept, among, trimmed⟩ := induction settled.1
        refine ⟨kept, fun segment member => List.mem_append_left _ (among segment member), ?_⟩
        rw [← trimmed, List.flatMap_append, Text.ofChars_append]
        exact Text.trimEnd_append_of_pos _ rfl _
      · refine ⟨_, fun _ member => member, ?_⟩
        have isPlain := settled.2.plain character (by simp)
        have basic := Percent.ascii_of_isPathPlain character isPlain
        have other : (Text.unit character == Text.unit '/') = false := by
          rw [beq_eq_false_iff_ne]
          intro same
          have slash := Text.unit_inj (by omega) (by decide) same
          exact settled.2.noSlash (by simp [slash])
        have last : Text.ofChars [character] = [Text.unit character] :=
          Text.ofChars_of_basic (by simpa using Nat.lt_trans basic (by decide))
        have ending : (segments ++ [start ++ [character]]).flatMap ('/' :: ·) =
            segments.flatMap ('/' :: ·) ++ '/' :: start ++ [character] := by
          simp
        rw [ending, Text.ofChars_append, last]
        apply Text.trimEnd_append_of_neg
        exact other

end UrlPath

end BlobStorage
