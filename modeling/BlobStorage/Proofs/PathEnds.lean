import BlobStorage.Proofs.AddressParts

/-!
# The ends of paths

Reading a path folds its segments: one of dots goes back or stays, any other one is added.  Slashes
at the end of a path therefore only leave empty segments behind, and where the slashes at the end do
not count, they make no difference.  A blank before them does: it makes the path longer, and dots in
front of it are none any more.
-/

namespace BlobStorage

namespace UrlPath

/-- What one more piece of a path does to the segments before it. -/
def step (segments : List (List Char)) (piece : List Char) : List (List Char) :=
  if isDoubleDot piece then segments.dropLast
  else if isSingleDot piece then segments
  else segments ++ [Percent.encode Url.isPathPlain piece]

theorem shorten_eq_dropLast (segments : List (List Char)) :
    shorten false segments = segments.dropLast := by
  unfold shorten
  split <;> simp

/-- Reading a path goes piece by piece, and leaves an empty segment where dots end it. -/
theorem exists_resolve_eq (segments : List (List Char)) {pieces : List (List Char)}
    (somePiece : pieces ≠ []) :
    ∃ count, resolve false segments pieces =
      pieces.foldl step segments ++ List.replicate count [] := by
  induction pieces generalizing segments with
  | nil => exact absurd rfl somePiece
  | cons piece pieces induction =>
      have stepped : step segments piece =
          if isDoubleDot piece then shorten false segments
          else if isSingleDot piece then segments else push false segments piece := by
        rw [step, shorten_eq_dropLast, push_eq_append]
      cases pieces with
      | nil =>
          by_cases dots : isDoubleDot piece
          · exact ⟨1, by simp [resolve, stepped, dots]⟩
          · by_cases dot : isSingleDot piece
            · exact ⟨1, by simp [resolve, stepped, dots, dot]⟩
            · exact ⟨0, by simp [resolve, stepped, dots, dot]⟩
      | cons next pieces =>
          obtain ⟨count, resolved⟩ := induction (step segments piece) (List.cons_ne_nil _ _)
          refine ⟨count, ?_⟩
          rw [List.foldl_cons, ← resolved, stepped, resolve]
          · split
            · rfl
            · split <;> rfl
          · simp

/-- A path as text, without the slashes at its end. -/
def trimmed (segments : List (List Char)) : Text :=
  Text.trimEnd (· == Text.unit '/') (Text.ofChars (segments.flatMap ('/' :: ·)))

theorem trimmed_append_replicate (segments : List (List Char)) (count : Nat) :
    trimmed (segments ++ List.replicate count []) = trimmed segments := by
  induction count with
  | zero => simp
  | succ count induction =>
      rw [← induction, List.replicate_succ', ← List.append_assoc, trimmed, List.flatMap_append,
        Text.ofChars_append]
      exact Text.trimEnd_append_of_pos _ rfl _

/-- The segments that reading leaves of the text of a path. -/
def segmentsOf (text : List Char) : List (List Char) :=
  resolve false [] (Text.split '/' (afterSlash (withSlashes text)))

theorem trimmed_segmentsOf (text : List Char) :
    trimmed (segmentsOf text) =
      trimmed ((Text.split '/' (afterSlash (withSlashes text))).foldl step []) := by
  obtain ⟨count, resolved⟩ := exists_resolve_eq [] (Text.split_ne_nil '/' _)
  rw [segmentsOf, resolved, trimmed_append_replicate]

theorem foldl_step_replicate (segments : List (List Char)) (count : Nat) :
    (List.replicate count []).foldl step segments = segments ++ List.replicate count [] := by
  have added (segments : List (List Char)) : step segments [] = segments ++ [[]] := by
    simp [step, isDoubleDot, isSingleDot, Percent.encode]
  induction count generalizing segments with
  | zero => simp
  | succ count induction =>
      rw [List.replicate_succ, List.foldl_cons, added, induction, List.append_assoc,
        List.singleton_append]

theorem withSlashes_append (left right : List Char) :
    withSlashes (left ++ right) = withSlashes left ++ withSlashes right := List.map_append

theorem afterSlash_append {text : List Char} (someText : text ≠ []) (behind : List Char) :
    afterSlash (text ++ behind) = afterSlash text ++ behind := by
  obtain ⟨first, later, rfl⟩ := List.exists_cons_of_ne_nil someText
  by_cases isSlash : first = '/'
  · simp [isSlash, afterSlash]
  · have kept (rest : List Char) : afterSlash (first :: rest) = first :: rest := by
      unfold afterSlash
      split
      · rename_i same
        exact absurd (List.cons.inj same).1 isSlash
      · rfl
    rw [List.cons_append, kept, kept, List.cons_append]

theorem exists_afterSlash_append (text : List Char) (count : Nat) :
    ∃ fewer, afterSlash (text ++ List.replicate count '/') =
      afterSlash text ++ List.replicate fewer '/' := by
  by_cases empty : text = []
  · subst empty
    cases count with
    | zero => exact ⟨0, rfl⟩
    | succ count => exact ⟨count, rfl⟩
  · exact ⟨count, afterSlash_append empty _⟩

/-- Where the slashes at the end of a path do not count, there may be any number of them. -/
theorem trimmed_segmentsOf_append (text : List Char) (count : Nat) :
    trimmed (segmentsOf (text ++ List.replicate count '/')) = trimmed (segmentsOf text) := by
  have same : withSlashes (List.replicate count '/') = List.replicate count '/' :=
    withSlashes_of_not_mem (by simp [List.mem_replicate])
  obtain ⟨fewer, behind⟩ := exists_afterSlash_append (withSlashes text) count
  rw [trimmed_segmentsOf, trimmed_segmentsOf, withSlashes_append, same, behind,
    Text.split_append_replicate, List.foldl_append, foldl_step_replicate,
    trimmed_append_replicate]

/-! ### Blanks at the end of a path -/

theorem basic_of_mem_encode_edges {blanks : List Char}
    (edges : ∀ character ∈ blanks, Url.isEdge character) {written : Char}
    (member : written ∈ Percent.encode Url.isPathPlain blanks) :
    written.toNat < 128 ∧ written ≠ '/' := by
  rcases Percent.mem_encode member with rfl | alphanumeric | ⟨inside, -⟩
  · decide
  · refine ⟨Percent.ascii_of_isAlphanumeric _ alphanumeric, ?_⟩
    rintro rfl
    exact absurd alphanumeric (by decide)
  · refine ⟨Url.ascii_of_isEdge _ (edges _ inside), ?_⟩
    rintro rfl
    exact absurd (edges _ inside) (by decide)

theorem no_dots_of_edge {piece : List Char} {blank : Char} (edge : Url.isEdge blank)
    (member : blank ∈ piece) : isSingleDot piece = false ∧ isDoubleDot piece = false := by
  have lowered : Url.isEdge (Host.lowerChar blank) :=
    @forall_of_ascii Url.isEdge (fun character => Url.isEdge (Host.lowerChar character))
      Url.ascii_of_isEdge (by decide +kernel) blank edge
  have inside : Host.lowerChar blank ∈ piece.map Host.lowerChar := List.mem_map_of_mem member
  have spelling : ∀ dots ∈ [".", "%2e", "..", ".%2e", "%2e.", "%2e%2e"],
      dots.toList ≠ piece.map Host.lowerChar := by
    intro dots among same
    have visible : [".", "%2e", "..", ".%2e", "%2e.", "%2e%2e"].all
        (fun dots => dots.toList.all fun character => !Url.isEdge character) := by decide
    rw [← same] at inside
    have shown := List.all_eq_true.mp (List.all_eq_true.mp visible dots among) _ inside
    rw [lowered] at shown
    cases shown
  constructor
  · rw [isSingleDot, beq_eq_false_iff_ne.mpr (spelling "." (by simp)).symm,
      beq_eq_false_iff_ne.mpr (spelling "%2e" (by simp)).symm]
    rfl
  · refine List.any_eq_false.mpr fun dots among => ?_
    rw [beq_iff_eq]
    exact spelling dots (List.mem_cons_of_mem _ (List.mem_cons_of_mem _ among))

theorem step_of_edge (segments : List (List Char)) {piece : List Char} {blank : Char}
    (edge : Url.isEdge blank) (member : blank ∈ piece) :
    step segments piece = segments ++ [Percent.encode Url.isPathPlain piece] := by
  obtain ⟨noDot, noDots⟩ := no_dots_of_edge edge member
  simp [step, noDot, noDots]

/-- The length of a path as text. -/
def textLength (segments : List (List Char)) : Nat :=
  (Text.ofChars (segments.flatMap ('/' :: ·))).length

theorem textLength_append (left right : List (List Char)) :
    textLength (left ++ right) = textLength left + textLength right := by
  simp [textLength]

theorem textLength_singleton (segment : List Char) :
    textLength [segment] = 1 + (Text.ofChars segment).length := by
  have slash : (Text.ofChar '/').length = 1 := rfl
  simp [textLength, Text.ofChars_cons, slash]

theorem length_trimmed_le (segments : List (List Char)) :
    (trimmed segments).length ≤ textLength segments := by
  unfold trimmed Text.trimEnd textLength
  rw [List.length_reverse]
  exact (List.dropWhile_sublist _).length_le.trans (List.length_reverse).le

theorem trimmed_append_singleton (segments : List (List Char)) {segment : List Char}
    {last : Char} (ends : segment.getLast? = some last) (basic : last.toNat < 128)
    (noSlash : last ≠ '/') :
    (trimmed (segments ++ [segment])).length = textLength (segments ++ [segment]) := by
  obtain ⟨start, rfl⟩ := List.getLast?_eq_some_iff.mp ends
  have other : (Text.unit last == Text.unit '/') = false := by
    rw [beq_eq_false_iff_ne]
    exact fun same => noSlash (Text.unit_inj (by omega) (by decide) same)
  have single : Text.ofChars [last] = [Text.unit last] :=
    Text.ofChars_of_basic (by simpa using Nat.lt_trans basic (by decide))
  have ending : (segments ++ [start ++ [last]]).flatMap ('/' :: ·) =
      segments.flatMap ('/' :: ·) ++ '/' :: start ++ [last] := by simp
  unfold trimmed textLength
  rw [ending, Text.ofChars_append, single]
  exact congrArg List.length (Text.trimEnd_append_of_neg (· == Text.unit '/') other _)

/-- No step makes a path longer than one that keeps its piece. -/
theorem textLength_step_le (segments : List (List Char)) (piece : List Char) :
    textLength (step segments piece) ≤
      textLength (segments ++ [Percent.encode Url.isPathPlain piece]) := by
  rw [textLength_append]
  unfold step
  split
  · obtain rfl | ⟨start, last, rfl⟩ := segments.eq_nil_or_concat'
    · simp [textLength]
    · rw [List.dropLast_concat, textLength_append]
      omega
  · split
    · omega
    · rw [textLength_append]

theorem afterSlash_append_blanks (path : List Char) {blanks : List Char}
    (someBlank : blanks ≠ []) (noSlash : '/' ∉ blanks) (behind : List Char) :
    afterSlash (path ++ (blanks ++ behind)) = afterSlash path ++ (blanks ++ behind) := by
  by_cases empty : path = []
  · obtain ⟨first, later, rfl⟩ := List.exists_cons_of_ne_nil someBlank
    have other : first ≠ '/' := fun isSlash => noSlash (by simp [isSlash])
    subst empty
    unfold afterSlash
    split
    · rename_i same
      exact absurd (List.cons.inj same).1 other
    · rfl
  · exact afterSlash_append empty _

/-- A piece leaves a longer path if blanks stand at its end. -/
theorem length_trimmed_step_lt (segments : List (List Char)) (piece : List Char)
    {blanks : List Char} (someBlank : blanks ≠ [])
    (edges : ∀ character ∈ blanks, Url.isEdge character) :
    (trimmed (step segments piece)).length <
      (trimmed (step segments (piece ++ blanks))).length := by
  obtain ⟨blank, isBlank⟩ := List.exists_mem_of_ne_nil blanks someBlank
  have kept : step segments (piece ++ blanks) = segments ++
      [Percent.encode Url.isPathPlain piece ++ Percent.encode Url.isPathPlain blanks] := by
    rw [step_of_edge _ (edges blank isBlank) (List.mem_append_right piece isBlank),
      Percent.encode_append]
  have someWritten : Percent.encode Url.isPathPlain blanks ≠ [] := Percent.encode_ne_nil someBlank
  obtain ⟨basic, noSlash⟩ := basic_of_mem_encode_edges edges (List.getLast_mem someWritten)
  have ends : (Percent.encode Url.isPathPlain piece ++
      Percent.encode Url.isPathPlain blanks).getLast? =
        some ((Percent.encode Url.isPathPlain blanks).getLast someWritten) := by
    rw [List.getLast?_append, List.getLast?_eq_some_getLast someWritten]
    rfl
  have someUnit : 0 < (Text.ofChars (Percent.encode Url.isPathPlain blanks)).length := by
    refine List.length_pos_iff.mpr fun nothing => someWritten ?_
    rw [← Text.toCharsLossy_ofChars (Percent.encode Url.isPathPlain blanks), nothing]
    rfl
  have shorter := length_trimmed_le (step segments piece)
  have bounded := textLength_step_le segments piece
  rw [textLength_append, textLength_singleton] at bounded
  rw [kept, trimmed_append_singleton segments ends basic noSlash, textLength_append,
    textLength_singleton, Text.ofChars_append, List.length_append]
  omega

theorem length_trimmed_lt (text : List Char) {blanks : List Char} (someBlank : blanks ≠ [])
    (edges : ∀ character ∈ blanks, Url.isEdge character) (count : Nat) :
    (trimmed (segmentsOf text)).length <
      (trimmed (segmentsOf (text ++ (blanks ++ List.replicate count '/')))).length := by
  have absent (mark : Char) (visible : Url.isEdge mark = false) : mark ∉ blanks := by
    intro member
    rw [edges mark member] at visible
    cases visible
  have same : withSlashes (blanks ++ List.replicate count '/') =
      blanks ++ List.replicate count '/' :=
    withSlashes_of_not_mem (by simp [List.mem_replicate, absent '\\' (by decide)])
  obtain ⟨start, last, cutText, cutLong⟩ :=
    Text.exists_split_append (absent '/' (by decide))
  rw [trimmed_segmentsOf, trimmed_segmentsOf, withSlashes_append, same,
    afterSlash_append_blanks _ someBlank (absent '/' (by decide)), ← List.append_assoc,
    Text.split_append_replicate, cutLong, cutText, List.foldl_append, List.foldl_append,
    List.foldl_append, foldl_step_replicate, trimmed_append_replicate]
  exact length_trimmed_step_lt (start.foldl step []) last someBlank edges

end UrlPath

end BlobStorage
