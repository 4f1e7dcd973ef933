import BlobStorage.Proofs.AddressParts

/-!
# Blanks in hosts

A blank stands for itself in every form that a domain name goes through: it is read from its own
byte, no table replaces it, no character is composed with it, and it is written among the ASCII
characters of its label.  So it is still there when the name is looked through for characters that
no domain may have, and no authority of the web ends in a blank.
-/

namespace BlobStorage

namespace Idna

/-! ### The table of composed characters -/

/-- Whether no number in an entry of the table is that of a blank. -/
def isBlankFree (entry : List Char) : Bool :=
  (Text.split ',' entry).all fun digits => !Url.isEdge (Char.ofNat (readHex digits))

theorem isBlankFree_pieces_cons {characters : List Char} {lines : List String}
    (first : (Text.split ' ' characters).all isBlankFree)
    (later : (pieces lines).all isBlankFree) :
    (pieces (String.ofList characters :: lines)).all isBlankFree := by
  rw [pieces, List.flatMap_cons, List.all_append, String.toList_ofList, first]
  exact later

theorem isBlankFree_pieces_nil : (pieces []).all isBlankFree := rfl

-- line by line, so that no line is taken apart into its characters inside a computation
theorem isBlankFree_compositionLines : (pieces compositionLines).all isBlankFree := by
  unfold compositionLines
  repeat refine isBlankFree_pieces_cons (by decide +kernel) ?_
  exact isBlankFree_pieces_nil

theorem not_isEdge_of_mem_compositions {parts : Composition} (member : parts ∈ compositions) :
    ¬Url.isEdge parts.whole ∧ ¬Url.isEdge parts.first ∧ ¬Url.isEdge parts.second := by
  obtain ⟨entry, among, read⟩ := List.mem_filterMap.mp member
  have free := List.all_eq_true.mp isBlankFree_compositionLines entry among
  split at read
  · rename_i whole first second cut
    cases read
    simpa [isBlankFree, cut] using free
  · cases read

/-! ### Blanks in names -/

variable {blank : Char}

theorem mapChar?_of_edge (edge : Url.isEdge blank) : mapChar? blank = some [blank] := by
  have mapped := @forall_of_ascii Url.isEdge
    (fun character => mapChar? character == some [character]) Url.ascii_of_isEdge
    (by decide +kernel) blank edge
  exact beq_iff_eq.mp mapped

theorem mem_map? {name mapped : List Char} (edge : Url.isEdge blank) (member : blank ∈ name)
    (read : map? name = some mapped) : blank ∈ mapped := by
  obtain ⟨pieces, every, rfl⟩ := Option.map_eq_some_iff.mp read
  obtain ⟨piece, among, mappedTo⟩ := Text.exists_image_of_mapM every member
  rw [mapChar?_of_edge edge, Option.some.injEq] at mappedTo
  subst mappedTo
  exact List.mem_flatten.mpr ⟨[blank], among, List.mem_singleton_self _⟩

theorem markClass_of_edge (edge : Url.isEdge blank) : markClass blank = 0 := by
  have classless := @forall_of_ascii Url.isEdge (fun character => markClass character == 0)
    Url.ascii_of_isEdge (by decide +kernel) blank edge
  exact beq_iff_eq.mp classless

theorem decompose_of_edge (edge : Url.isEdge blank) : decompose blank = [blank] := by
  have small := Url.ascii_of_isEdge blank edge
  have noSyllable : decomposeSyllable? blank = none := if_neg (by omega)
  have noParts : compositions.find? (·.whole == blank) = none := by
    rw [List.find?_eq_none]
    intro parts member same
    rw [beq_iff_eq] at same
    subst same
    exact (not_isEdge_of_mem_compositions member).1 edge
  unfold decompose decomposeWithin
  rw [noSyllable]
  simp only
  rw [noParts]

theorem compose?_of_edge {first second : Char}
    (edge : Url.isEdge first ∨ Url.isEdge second) : compose? first second = none := by
  have noSyllable : composeSyllable? first second = none := by
    have small := edge.imp (Url.ascii_of_isEdge first) (Url.ascii_of_isEdge second)
    unfold composeSyllable?
    rw [if_neg (by omega), if_neg (by omega)]
  have noParts : compositions.find?
      (fun parts => parts.first == first && parts.second == second) = none := by
    rw [List.find?_eq_none]
    intro parts member same
    rw [Bool.and_eq_true, beq_iff_eq, beq_iff_eq] at same
    obtain ⟨rfl, rfl⟩ := same
    obtain ⟨-, notFirst, notSecond⟩ := not_isEdge_of_mem_compositions member
    exact edge.elim notFirst notSecond
  rw [compose?, noSyllable, noParts]
  rfl

theorem orderMarks_perm (characters : List Char) : (orderMarks characters).Perm characters := by
  fun_induction orderMarks characters with
  | case1 => exact .refl _
  | case2 character rest starter induction => exact induction.cons character
  | case3 character rest mark marks induction =>
      exact ((List.mergeSort_perm marks _).append induction).trans
        (.of_eq List.takeWhile_append_dropWhile)

namespace Composer

/-- A character becomes part of the starter, starts anew, or stays behind as a mark. -/
theorem push_cases (composer : Composer) (character : Char) :
    (∃ starter whole, composer.starter = some starter ∧
      compose? starter character = some whole ∧
      composer.push character = { composer with starter := some whole }) ∨
    (composer.push character = ⟨composer.flush, some character, []⟩) ∨
    (markClass character ≠ 0 ∧
      composer.push character = { composer with marks := composer.marks ++ [character] }) := by
  generalize result : composer.push character = pushed
  unfold push at result
  extract_lets blocked at result
  clear_value blocked
  split at result
  · rename_i whole composed
    obtain ⟨starter, starts, joined⟩ := Option.bind_eq_some_iff.mp composed
    exact .inl ⟨starter, whole, Option.eq_some_of_filter_eq_some starts, joined, result.symm⟩
  · split at result
    · exact .inr (.inl result.symm)
    · rename_i notComposed isMark
      exact .inr (.inr ⟨isMark, result.symm⟩)

theorem mem_flush_push (composer : Composer) (edge : Url.isEdge blank) :
    blank ∈ (composer.push blank).flush := by
  rcases composer.push_cases blank with ⟨_, _, -, joined, -⟩ | pushed | ⟨isMark, -⟩
  · rw [compose?_of_edge (.inr edge)] at joined
    cases joined
  · simp [pushed, flush]
  · exact absurd (markClass_of_edge edge) isMark

theorem mem_flush_push_of_mem {composer : Composer} (edge : Url.isEdge blank)
    (member : blank ∈ composer.flush) (character : Char) :
    blank ∈ (composer.push character).flush := by
  rcases composer.push_cases character with
    ⟨starter, whole, isStarter, joined, pushed⟩ | pushed | ⟨-, pushed⟩
  · have other : blank ≠ starter := by
      rintro rfl
      rw [compose?_of_edge (.inl edge)] at joined
      cases joined
    rw [pushed]
    simp only [flush, isStarter, Option.toList_some, List.mem_append, List.mem_singleton,
      other, or_false] at member ⊢
    exact member.imp_left .inl
  · rw [pushed]
    exact List.mem_append_left _ (List.mem_append_left _ member)
  · rw [pushed]
    simp only [flush, ← List.append_assoc]
    exact List.mem_append_left _ member

theorem mem_flush_foldl {composer : Composer} {characters : List Char} (edge : Url.isEdge blank)
    (member : blank ∈ composer.flush ∨ blank ∈ characters) :
    blank ∈ (characters.foldl push composer).flush := by
  induction characters generalizing composer with
  | nil => simpa using member
  | cons character characters induction =>
      apply induction
      rcases member with there | ahead
      · exact .inl (mem_flush_push_of_mem edge there character)
      · rcases List.mem_cons.mp ahead with rfl | later
        · exact .inl (mem_flush_push composer edge)
        · exact .inr later

end Composer

theorem mem_normalize {name : List Char} (edge : Url.isEdge blank) (member : blank ∈ name) :
    blank ∈ normalize name := by
  apply Composer.mem_flush_foldl edge
  refine .inr ((orderMarks_perm _).mem_iff.mpr (List.mem_flatMap.mpr ⟨blank, member, ?_⟩))
  rw [decompose_of_edge edge]
  exact List.mem_singleton_self _

end Idna

namespace Punycode

theorem mem_encode_of_isBasic {label : List Char} {character : Char}
    (basic : isBasic character) (member : character ∈ label) : character ∈ encode label := by
  have kept : character ∈ label.filter isBasic := List.mem_filter.mpr ⟨member, basic⟩
  have someBasic : (label.filter isBasic).isEmpty = false := by
    rw [List.isEmpty_eq_false_iff]
    exact List.ne_nil_of_mem kept
  unfold encode
  simp only [someBasic, Bool.false_eq_true, if_false]
  exact List.mem_append_left _ (List.mem_append_left _ kept)

end Punycode

namespace Domain

variable {blank : Char}

theorem mem_labelToAscii? {label written : List Char} (edge : Url.isEdge blank)
    (member : blank ∈ label) (read : labelToAscii? label = some written) : blank ∈ written := by
  unfold labelToAscii? at read
  split at read
  · split at read
    · cases read
      exact member
    · cases read
  · split at read
    · cases read
      exact member
    · split at read
      · cases read
        have basic : Punycode.isBasic blank := decide_eq_true (Url.ascii_of_isEdge blank edge)
        exact List.mem_append_right _ (Punycode.mem_encode_of_isBasic basic member)
      · cases read

theorem mem_prepare? {name prepared : List Char} (edge : Url.isEdge blank) (member : blank ∈ name)
    (read : prepare? name = some prepared) : blank ∈ prepared := by
  unfold prepare? at read
  split at read
  · cases read
    have lowered := @forall_of_ascii Url.isEdge
      (fun character => Host.lowerChar character == character) Url.ascii_of_isEdge
      (by decide +kernel) blank edge
    exact List.mem_map.mpr ⟨blank, member, beq_iff_eq.mp lowered⟩
  · obtain ⟨mapped, isMapped, rfl⟩ := Option.map_eq_some_iff.mp read
    exact Idna.mem_normalize edge (Idna.mem_map? edge member isMapped)

theorem mem_toAscii? {name written : List Char} (edge : Url.isEdge blank) (member : blank ∈ name)
    (read : toAscii? name = some written) : blank ∈ written := by
  simp only [toAscii?, Option.bind_eq_bind, Option.bind_eq_some_iff, Option.pure_def,
    Option.some.injEq] at read
  obtain ⟨prepared, isPrepared, labels, every, rfl⟩ := read
  have visible : blank ≠ '.' := by
    rintro rfl
    exact absurd edge (by decide)
  obtain ⟨label, among, inside⟩ :=
    Text.exists_mem_split visible (mem_prepare? edge member isPrepared)
  obtain ⟨image, isLabel, isImage⟩ := Text.exists_image_of_mapM every among
  exact Text.mem_intercalate isLabel (mem_labelToAscii? edge inside isImage)

end Domain

namespace Url

variable {blank : Char}

theorem readDomain?_of_edge {text : List Char} (edge : isEdge blank) (member : blank ∈ text) :
    readDomain? text = none := by
  have bare := @forall_of_ascii isEdge Percent.isBare ascii_of_isEdge (by decide +kernel) blank edge
  have forbidden := @forall_of_ascii isEdge Host.isForbiddenInDomain ascii_of_isEdge
    (by decide +kernel) blank edge
  have there := Percent.mem_decode (ascii_of_isEdge blank edge) bare member
  unfold readDomain?
  cases written : Domain.toAscii? (Percent.decode text) with
  | none => rfl
  | some name =>
      have isForbidden : name.any Host.isForbiddenInDomain :=
        List.any_eq_true.mpr ⟨blank, Domain.mem_toAscii? edge there written, forbidden⟩
      rw [Option.bind_eq_bind, Option.bind_some, isForbidden, Bool.or_true, if_pos rfl]

/-- What ends in a blank is no host of the web. -/
theorem readSpecialHost?_append_edge (edge : isEdge blank) (text : List Char) :
    readSpecialHost? (text ++ [blank]) = none := by
  unfold readSpecialHost?
  split
  · rename_i rest same
    have notClosed : rest.getLast? ≠ some ']' := by
      intro closed
      have last : (text ++ [blank]).getLast? = some ']' := by
        rw [same, List.getLast?_cons, closed]
        rfl
      rw [List.getLast?_concat, Option.some.injEq] at last
      subst last
      exact absurd edge (by decide)
    exact if_neg notClosed
  · exact readDomain?_of_edge edge (by simp)

theorem readPort?_append_edge (scheme digits : List Char) (edge : isEdge blank) :
    readPort? scheme (digits ++ [blank]) = none := by
  have notDigit := @forall_of_ascii isEdge (fun character => !('0' ≤ character && character ≤ '9'))
    ascii_of_isEdge (by decide +kernel) blank edge
  rw [Bool.not_eq_true'] at notDigit
  rw [readPort?, List.all_append, List.all_cons, notDigit, Bool.false_and, Bool.and_false]
  rfl

/-- A user ends at a mark, and what stands behind it ends as the authority does. -/
theorem exists_cutAtLast_append (edge : isEdge blank) (text : List Char) :
    ∃ user? location, cutAtLast '@' (text ++ [blank]) = (user?, location ++ [blank]) := by
  have other : (blank != '@') = true := by
    rw [bne_iff_ne]
    rintro rfl
    exact absurd edge (by decide)
  have behind : ((text ++ [blank]).reverse.takeWhile (· != '@')).reverse =
      (text.reverse.takeWhile (· != '@')).reverse ++ [blank] := by
    rw [List.reverse_append, List.reverse_singleton, List.singleton_append, List.takeWhile_cons,
      if_pos other, List.reverse_cons]
  rw [cutAtLast, behind]
  split
  · exact ⟨_, _, rfl⟩
  · exact ⟨_, _, rfl⟩

theorem readAuthority?_append_edge {scheme : List Char} (web : IsWeb scheme) (edge : isEdge blank)
    (text : List Char) : readAuthority? scheme (text ++ [blank]) = none := by
  have special := isSpecial_of_isWeb web
  obtain ⟨user?, location, cut⟩ := exists_cutAtLast_append edge text
  have some : (location ++ [blank]).isEmpty = false := by simp
  simp only [readAuthority?, cut, special, if_true]
  rcases hostPart_cases false (location ++ [blank]) with whole | ⟨host, port, parted, ends⟩
  · simp only [whole, some, Bool.false_and, Bool.false_eq_true, if_false,
      readSpecialHost?_append_edge edge]
    rfl
  · have last := congrArg List.getLast? ends
    rw [List.getLast?_concat] at last
    obtain rfl | ⟨digits, digit, rfl⟩ := List.eq_nil_or_concat' port
    · rw [List.getLast?_concat, Option.some.injEq] at last
      subst last
      exact absurd edge (by decide)
    rw [← List.cons_append, ← List.append_assoc, List.getLast?_concat, Option.some.injEq] at last
    subst last
    simp only [parted, Option.getD_some, readPort?_append_edge scheme digits edge]
    split
    · rfl
    · cases readSpecialHost? host <;> rfl

end Url

end BlobStorage
