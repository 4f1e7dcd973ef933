import BlobStorage.Proofs.AddressReading

/-!
# The parts of an address of the web

Behind its scheme an address of the web is an authority, a path, a query and a fragment, each found
by a cut.  This module names the parts, says how reading puts them together, and follows each cut on
an address to which something was appended.
-/

namespace BlobStorage.Url

/-! ### Reading by parts -/

/-- What separates the segments of a path of the web, and its authority from what stands around. -/
def isSlash (character : Char) : Bool := character == '/' || character == '\\'

/-- The authority in what stands behind the scheme of an address of the web. -/
def authorityPart (bare : List Char) : List Char :=
  (bare.dropWhile isSlash).takeWhile (!isSlash ·)

/-- The path in what stands behind the scheme of an address of the web. -/
def pathPart (bare : List Char) : List Char := (bare.dropWhile isSlash).dropWhile (!isSlash ·)

/-- What stands behind a scheme, cut where the authority starts and where it ends. -/
structure Parts (bare lead authority path : List Char) : Prop where
  whole : bare = lead ++ (authority ++ path)
  leads : ∀ character ∈ lead, isSlash character
  goesOn : ∀ character ∈ authority, isSlash character = false
  starts : ∀ character, path.head? = some character → isSlash character
  someAuthority : path ≠ [] → authority ≠ []

namespace Parts

variable {bare lead authority path : List Char}

theorem eq (parts : Parts bare lead authority path) :
    authorityPart bare = authority ∧ pathPart bare = path := by
  obtain ⟨rfl, leads, goesOn, starts, someAuthority⟩ := parts
  have kept : ∀ character ∈ authority, (!isSlash character) = true := by
    simpa using goesOn
  have started : (lead ++ (authority ++ path)).dropWhile isSlash = authority ++ path := by
    rw [List.dropWhile_append_of_pos leads]
    cases authority with
    | nil =>
        have noPath : path = [] := not_not.mp fun somePath => someAuthority somePath rfl
        rw [noPath]
        rfl
    | cons first authority =>
        exact List.dropWhile_cons_of_neg (by simp [goesOn first List.mem_cons_self])
  have ended : path.takeWhile (!isSlash ·) = [] ∧ path.dropWhile (!isSlash ·) = path := by
    cases path with
    | nil => exact ⟨rfl, rfl⟩
    | cons first path => simp [starts first rfl]
  rw [authorityPart, pathPart, started, List.takeWhile_append_of_pos kept,
    List.dropWhile_append_of_pos kept, ended.1, ended.2, List.append_nil]
  exact ⟨rfl, rfl⟩

/-- Behind an authority, what starts with a slash goes to the path, and anything goes to a path that
is there. -/
theorem append (parts : Parts bare lead authority path) (named : authority ≠ [])
    {behind : List Char}
    (divides : path = [] → ∀ character, behind.head? = some character → isSlash character) :
    Parts (bare ++ behind) lead authority (path ++ behind) := by
  obtain ⟨rfl, leads, goesOn, starts, -⟩ := parts
  refine ⟨by simp, leads, goesOn, ?_, fun _ => named⟩
  intro character first
  cases path with
  | nil => exact divides rfl character first
  | cons mark path => exact starts character first

/-- Slashes that no authority stands behind lead to none. -/
theorem append_lead (parts : Parts bare lead [] path) {slashes : List Char}
    (allSlashes : ∀ character ∈ slashes, isSlash character) :
    Parts (bare ++ slashes) (lead ++ slashes) [] [] := by
  obtain ⟨rfl, leads, -, -, someAuthority⟩ := parts
  have noPath : path = [] := not_not.mp fun somePath => someAuthority somePath rfl
  refine ⟨by simp [noPath], ?_, by simp, by simp, by simp⟩
  rw [List.forall_mem_append]
  exact ⟨leads, allSlashes⟩

/-- Behind an authority without a path, what has no slash goes to the authority. -/
theorem append_authority (parts : Parts bare lead authority []) {behind : List Char}
    (noSlash : ∀ character ∈ behind, isSlash character = false) :
    Parts (bare ++ behind) lead (authority ++ behind) [] := by
  obtain ⟨rfl, leads, goesOn, -, -⟩ := parts
  refine ⟨by simp, leads, ?_, by simp, by simp⟩
  rw [List.forall_mem_append]
  exact ⟨goesOn, noSlash⟩

end Parts

theorem exists_parts (bare : List Char) :
    ∃ lead, Parts bare lead (authorityPart bare) (pathPart bare) := by
  refine ⟨bare.takeWhile isSlash, ?_, fun _ member => List.mem_takeWhile_imp member, ?_, ?_, ?_⟩
  · rw [authorityPart, pathPart, List.takeWhile_append_dropWhile, List.takeWhile_append_dropWhile]
  · intro character member
    simpa using List.mem_takeWhile_imp member
  · intro character first
    have stops := List.head?_dropWhile_not (!isSlash ·) (bare.dropWhile isSlash)
    rw [← pathPart, first] at stops
    simpa using stops
  · intro somePath noAuthority
    cases inner : bare.dropWhile isSlash with
    | nil =>
        rw [pathPart, inner] at somePath
        exact somePath rfl
    | cons first later =>
        have stops := List.head?_dropWhile_not isSlash bare
        rw [inner] at stops
        have other : isSlash first = false := by simpa using stops
        rw [authorityPart, inner, List.takeWhile_cons_of_pos (by simp [other])] at noAuthority
        cases noAuthority

/-- An address of the web from what stands behind its scheme, with its query and its fragment as
they are written. -/
def readWeb? (scheme bare : List Char) (query? fragment? : Option (List Char)) : Option Url :=
  (readAuthority? scheme (authorityPart bare)).map fun authority =>
    authority.under scheme (.ofSpecial false (pathPart bare))
      (query?.map (Percent.encode (isQueryPlain true)))
      (fragment?.map (Percent.encode isFragmentPlain))

/-- How the fragment of an address is written behind its query. -/
def fragmentSuffix (fragment? : Option (List Char)) : List Char :=
  (fragment?.map ('#' :: ·)).getD []

/-- What stands behind a scheme, cut at the marks of the fragment and of the query. -/
structure Cut (rest bare : List Char) (query? fragment? : Option (List Char)) : Prop where
  whole : rest = bare ++ querySuffix query? ++ fragmentSuffix fragment?
  noFragment : '#' ∉ bare
  noQuery : '?' ∉ bare
  queryFree : ∀ query, query? = some query → '#' ∉ query

theorem exists_cut (rest : List Char) :
    ∃ bare query? fragment?, Cut rest bare query? fragment? := by
  have queryCut (text : List Char) (noFragment : '#' ∉ text) :
      ∃ bare query?, text = bare ++ querySuffix query? ∧ '#' ∉ bare ∧ '?' ∉ bare ∧
        ∀ query, query? = some query → '#' ∉ query := by
    by_cases marked : '?' ∈ text
    · obtain ⟨bare, query, rfl, noQuery⟩ := List.eq_append_cons_of_mem marked
      simp only [List.mem_append, List.mem_cons, not_or] at noFragment
      refine ⟨bare, some query, rfl, noFragment.1, noQuery, ?_⟩
      rintro _ ⟨⟩
      exact noFragment.2.2
    · exact ⟨text, none, (List.append_nil text).symm, noFragment, marked, by simp⟩
  by_cases marked : '#' ∈ rest
  · obtain ⟨text, fragment, rfl, noFragment⟩ := List.eq_append_cons_of_mem marked
    obtain ⟨bare, query?, rfl, bareFree, noQuery, queryFree⟩ := queryCut text noFragment
    exact ⟨bare, query?, some fragment, rfl, bareFree, noQuery, queryFree⟩
  · obtain ⟨bare, query?, rfl, bareFree, noQuery, queryFree⟩ := queryCut rest marked
    exact ⟨bare, query?, none, (List.append_nil _).symm, bareFree, noQuery, queryFree⟩

namespace Cut

variable {rest bare : List Char} {query? fragment? : Option (List Char)}

theorem cutAt_fragment (cut : Cut rest bare query? fragment?) :
    cutAt '#' rest = (bare ++ querySuffix query?, fragment?) := by
  have absent : '#' ∉ bare ++ querySuffix query? := by
    rw [List.mem_append, not_or]
    refine ⟨cut.noFragment, ?_⟩
    cases query? with
    | none => simp [querySuffix]
    | some query => simpa [querySuffix] using cut.queryFree query rfl
  rw [cut.whole]
  cases fragment? with
  | none =>
      rw [fragmentSuffix, Option.map_none, Option.getD_none, List.append_nil]
      exact cutAt_of_not_mem absent
  | some fragment => exact cutAt_append_cons absent fragment

theorem ofChars? {text scheme : List Char} (cut : Cut rest bare query? fragment?)
    (web : IsWeb scheme) (split : splitScheme? (clean text) = some (scheme, rest)) :
    Url.ofChars? text = readWeb? scheme bare query? fragment? := by
  have special := isSpecial_of_isWeb web
  have notFile : scheme ≠ "file".toList := by
    rcases web with rfl | rfl <;> decide
  simp only [Url.ofChars?, split, Option.bind_eq_bind, Option.bind_some, cut.cutAt_fragment,
    cutAt_querySuffix cut.noQuery, notFile, if_false, special, if_true, withAuthority?,
    Bool.true_and]
  unfold readWeb? authorityPart pathPart isSlash
  cases readAuthority? scheme _ <;> rfl

theorem append (cut : Cut rest bare query? fragment?) {behind : List Char}
    (noFragment : '#' ∉ behind) (noQuery : '?' ∉ behind) :
    (∀ fragment, fragment? = some fragment →
      Cut (rest ++ behind) bare query? (some (fragment ++ behind))) ∧
    (fragment? = none → ∀ query, query? = some query →
      Cut (rest ++ behind) bare (some (query ++ behind)) none) ∧
    (fragment? = none → query? = none → Cut (rest ++ behind) (bare ++ behind) none none) := by
  obtain ⟨rfl, bareFree, bareNoQuery, queryFree⟩ := cut
  refine ⟨?_, ?_, ?_⟩
  · rintro fragment rfl
    exact ⟨by simp [fragmentSuffix], bareFree, bareNoQuery, queryFree⟩
  · rintro rfl query rfl
    refine ⟨by simp [fragmentSuffix, querySuffix], bareFree, bareNoQuery, ?_⟩
    rintro _ ⟨⟩
    rw [List.mem_append, not_or]
    exact ⟨queryFree query rfl, noFragment⟩
  · rintro rfl rfl
    refine ⟨by simp [fragmentSuffix, querySuffix], ?_, ?_, by simp⟩
    · rw [List.mem_append, not_or]
      exact ⟨bareFree, noFragment⟩
    · rw [List.mem_append, not_or]
      exact ⟨bareNoQuery, noQuery⟩

end Cut

theorem hostPart_cases (inBrackets : Bool) (text : List Char) :
    hostPart inBrackets text = (text, none) ∨
      ∃ host port, hostPart inBrackets text = (host, some port) ∧ text = host ++ ':' :: port := by
  induction text generalizing inBrackets with
  | nil => exact .inl rfl
  | cons first rest induction =>
      unfold hostPart
      split
      · rename_i isColon
        exact .inr ⟨[], rest, rfl, by rw [isColon.1]; rfl⟩
      · simp only
        rcases induction (if first = '[' then true else if first = ']' then false else inBrackets)
          with whole | ⟨host, port, cut, rfl⟩
        · exact .inl (by rw [whole])
        · exact .inr ⟨first :: host, port, by rw [cut], rfl⟩

theorem splitScheme?_of_ofChars? {text : List Char} {url : Url}
    (read : ofChars? text = some url) :
    ∃ rest, splitScheme? (clean text) = some (url.scheme, rest) := by
  have whole := read
  simp only [ofChars?, Option.bind_eq_bind, Option.bind_eq_some_iff] at read
  obtain ⟨⟨scheme, rest⟩, split, -⟩ := read
  exact ⟨rest, by rw [split, scheme_ofChars? split whole]⟩

/-! ### Slashes and blanks at the end -/

/-- A blank counts inside an address and not at its ends. -/
def isBlank (character : Char) : Bool := isEdge character && !isBreak character

/-- The blanks at the end of a text. -/
def blanksAtEnd (text : List Char) : List Char :=
  ((text.reverse.takeWhile isEdge).reverse).filter fun character => !isBreak character

theorem isBlank_of_mem_blanksAtEnd {text : List Char} :
    ∀ character ∈ blanksAtEnd text, isBlank character := by
  intro character member
  obtain ⟨inRun, notBreak⟩ := List.mem_filter.mp member
  have edge := List.mem_takeWhile_imp (List.mem_reverse.mp inRun)
  rw [isBlank, edge, notBreak]
  rfl

theorem ascii_of_isEdge (character : Char) (edge : isEdge character) : character.toNat < 128 := by
  simp only [isEdge, decide_eq_true_eq, Char.le_def, UInt32.le_iff_toNat_le] at edge
  exact Nat.lt_of_le_of_lt edge (by decide)

theorem isEdge_of_isBreak {character : Char} (isBroken : isBreak character) : isEdge character := by
  simp only [isBreak, Bool.or_eq_true, beq_iff_eq] at isBroken
  rcases isBroken with (rfl | rfl) | rfl <;> decide

theorem filter_of_visible {text : List Char}
    (visible : ∀ character ∈ text, isEdge character = false) :
    text.filter (fun character => !isBreak character) = text := by
  apply List.filter_eq_self.mpr
  intro character member
  rw [Bool.not_eq_true', ← Bool.not_eq_true]
  intro isBroken
  have edge := isEdge_of_isBreak isBroken
  rw [visible character member] at edge
  cases edge

/-- What counts at the ends of an address is kept wherever it stands. -/
theorem mem_clean {text : List Char} {character : Char} (visible : isEdge character = false)
    (member : character ∈ text) : character ∈ clean text := by
  have kept {list : List Char} (inside : character ∈ list) : character ∈ list.dropWhile isEdge := by
    rw [← List.takeWhile_append_dropWhile (p := isEdge) (l := list), List.mem_append] at inside
    refine inside.resolve_left fun run => ?_
    have edge := List.mem_takeWhile_imp run
    rw [visible] at edge
    cases edge
  refine List.mem_filter.mpr ⟨List.mem_reverse.mpr (kept (List.mem_reverse.mpr (kept member))), ?_⟩
  rw [Bool.not_eq_true', ← Bool.not_eq_true]
  intro isBroken
  rw [isEdge_of_isBreak isBroken] at visible
  cases visible

theorem clean_append {text behind : List Char} (someText : clean text ≠ [])
    (someBehind : behind ≠ []) (visible : ∀ character ∈ behind, isEdge character = false) :
    clean (text ++ behind) = clean text ++ blanksAtEnd text ++ behind := by
  have someInner : text.dropWhile isEdge ≠ [] := by
    intro nothing
    apply someText
    rw [clean, nothing]
    rfl
  have firstVisible := List.head_dropWhile_not isEdge someInner
  obtain ⟨first, later, inner⟩ := List.exists_cons_of_ne_nil someInner
  simp only [inner, List.head_cons] at firstVisible
  have run : text.reverse.takeWhile isEdge = (first :: later).reverse.takeWhile isEdge := by
    have parts := List.takeWhile_append_dropWhile (p := isEdge) (l := text)
    have shorter : ((first :: later).reverse.takeWhile isEdge).length ≠
        (first :: later).reverse.length := by
      intro whole
      have all := (List.takeWhile_sublist isEdge).eq_of_length whole
      have edge := List.takeWhile_eq_self_iff.mp all first (by simp)
      rw [firstVisible] at edge
      cases edge
    rw [inner] at parts
    rw [← parts, List.reverse_append, List.takeWhile_append, if_neg shorter]
  have kept : ((first :: later) ++ behind).reverse.dropWhile isEdge =
      ((first :: later) ++ behind).reverse := by
    obtain ⟨start, last, rfl⟩ := (List.eq_nil_or_concat behind).resolve_left someBehind
    have lastVisible := visible last (by simp)
    simp [lastVisible]
  unfold clean blanksAtEnd
  rw [List.dropWhile_append, if_neg (by simpa using someInner), inner, kept, List.reverse_reverse,
    List.filter_append, filter_of_visible visible, run, ← List.filter_append,
    ← List.reverse_append, List.takeWhile_append_dropWhile, List.reverse_reverse]

/-- The scheme is the same, whatever is appended that no scheme could go on with. -/
theorem splitScheme?_append {text behind : List Char}
    (stops : ∀ character, behind.head? = some character →
      isSchemeChar character = false ∧ character ≠ ':') :
    splitScheme? (text ++ behind) =
      (splitScheme? text).map fun parts => (parts.1, parts.2 ++ behind) := by
  have parts := List.takeWhile_append_dropWhile (p := isSchemeChar) (l := text)
  have passes : ∀ character ∈ text.takeWhile isSchemeChar, isSchemeChar character :=
    fun _ member => List.mem_takeWhile_imp member
  have stopped := List.head?_dropWhile_not isSchemeChar text
  generalize text.takeWhile isSchemeChar = scheme at parts passes
  generalize text.dropWhile isSchemeChar = rest at parts stopped
  subst parts
  unfold splitScheme?
  rw [List.append_assoc, List.takeWhile_append_of_pos passes, List.takeWhile_append_of_pos passes,
    List.dropWhile_append_of_pos passes, List.dropWhile_append_of_pos passes]
  cases rest with
  | nil =>
      cases behind with
      | nil => cases scheme <;> simp
      | cons first later =>
          obtain ⟨notScheme, notColon⟩ := stops first rfl
          cases scheme <;> simp [notScheme, notColon]
  | cons mark later =>
      have notScheme : isSchemeChar mark = false := by simpa using stopped
      by_cases colon : mark = ':'
      · subst colon
        cases scheme with
        | nil => simp [notScheme]
        | cons letter scheme =>
            simp only [List.cons_append, notScheme, Bool.false_eq_true, not_false_eq_true,
              List.takeWhile_cons_of_neg, List.dropWhile_cons_of_neg, List.append_nil]
            split <;> rfl
      · cases scheme <;> simp [notScheme, colon]

end BlobStorage.Url
