import BlobStorage.Proofs.HostCharacters
import BlobStorage.Proofs.PathSegments
import Mathlib.Data.List.TakeWhile

/-!
# Reading an assembled address

What reading an address leaves under a scheme of the web, and how an address is read that was put
together of an origin, a path of settled segments and a query: its authority is read as that of the
origin alone, and path and query as they stand.
-/

namespace BlobStorage.Url

def IsWeb (scheme : List Char) : Prop := scheme = "http".toList ∨ scheme = "https".toList

theorem isSpecial_of_isWeb {scheme : List Char} (web : IsWeb scheme) : isSpecial scheme := by
  rcases web with rfl | rfl <;> decide

/-- An address of the web as reading leaves it. -/
structure Web (url : Url) : Prop where
  scheme : IsWeb url.scheme
  host : ∃ host, url.host = some host ∧ host.Located
  path : ∃ segments, url.path = .segments segments ∧
    ∀ segment ∈ segments, UrlPath.Settled segment

theorem located_readAuthority? {scheme text : List Char} {authority : Authority}
    (special : isSpecial scheme) (read : readAuthority? scheme text = some authority) :
    authority.host.Located := by
  unfold readAuthority? at read
  dsimp only at read
  split at read
  · cases read
  · simp only [Option.bind_eq_bind, Option.bind_eq_some_iff] at read
    obtain ⟨host, hostRead, port, -, made⟩ := read
    cases made
    exact located_readSpecialHost? hostRead

theorem web_withAuthority? {scheme text : List Char} {query fragment : Option (List Char)}
    {url : Url} (web : IsWeb scheme) (read : withAuthority? scheme text query fragment = some url) :
    url.Web := by
  have special := isSpecial_of_isWeb web
  simp only [withAuthority?, special, if_true, Option.bind_eq_bind,
    Option.bind_eq_some_iff] at read
  obtain ⟨authority, authorityRead, made⟩ := read
  cases made
  obtain ⟨segments, path, settled⟩ := UrlPath.settled_ofSpecial
    (text.dropWhile fun c => !(c == '/' || (true && c == '\\')))
  exact ⟨web, ⟨_, rfl, located_readAuthority? special authorityRead⟩, segments, path, settled⟩

theorem scheme_readFile? {text : List Char} {query fragment : Option (List Char)} {url : Url}
    (read : readFile? text query fragment = some url) : url.scheme = "file".toList := by
  unfold readFile? at read
  dsimp only at read
  split at read
  · split at read
    · cases read
      rfl
    · split at read
      · cases read
        rfl
      · obtain ⟨host, -, rfl⟩ := Option.map_eq_some_iff.mp read
        rfl
  · cases read
    rfl

theorem scheme_withAuthority? {scheme text : List Char} {query fragment : Option (List Char)}
    {url : Url} (read : withAuthority? scheme text query fragment = some url) :
    url.scheme = scheme := by
  simp only [withAuthority?, Option.bind_eq_bind, Option.bind_eq_some_iff] at read
  obtain ⟨authority, -, made⟩ := read
  cases made
  rfl

theorem scheme_ofChars? {text scheme rest : List Char} {url : Url}
    (split : splitScheme? (clean text) = some (scheme, rest)) (read : ofChars? text = some url) :
    url.scheme = scheme := by
  simp only [ofChars?, split, Option.bind_eq_bind, Option.bind_some] at read
  split at read
  · rename_i isFile
    rw [scheme_readFile? read, isFile]
  · split at read
    · exact scheme_withAuthority? read
    · split at read
      · exact scheme_withAuthority? read
      · cases read
        rfl
      · cases read
        rfl

theorem web_ofChars? {text : List Char} {url : Url} (read : ofChars? text = some url)
    (web : IsWeb url.scheme) : url.Web := by
  have whole := read
  simp only [ofChars?, Option.bind_eq_bind, Option.bind_eq_some_iff] at read
  obtain ⟨⟨scheme, rest⟩, cut, read⟩ := read
  rw [scheme_ofChars? cut whole] at web
  dsimp only at read
  split at read
  · rename_i isFile
    rw [isFile] at web
    rcases web with same | same <;> cases same
  · split at read
    · exact web_withAuthority? web read
    · rename_i notSpecial
      exact absurd (isSpecial_of_isWeb web) notSpecial

/-! ### Reading what was put together -/

theorem clean_of_visible {text : List Char}
    (visible : ∀ character ∈ text, isEdge character = false) : clean text = text := by
  have keeps (list : List Char) (shown : ∀ character ∈ list, isEdge character = false) :
      list.dropWhile isEdge = list := by
    cases list with
    | nil => rfl
    | cons first rest => simp [shown first List.mem_cons_self]
  have unbroken : ∀ character ∈ text, (!isBreak character) = true := by
    intro character member
    have shown := visible character member
    rw [Bool.not_eq_true', ← Bool.not_eq_true]
    intro isBroken
    simp only [isBreak, Bool.or_eq_true, beq_iff_eq] at isBroken
    rcases isBroken with (rfl | rfl) | rfl <;> cases shown
  unfold clean
  rw [keeps text visible, keeps text.reverse fun character member =>
    visible character (List.mem_reverse.mp member), List.reverse_reverse]
  exact List.filter_eq_self.mpr unbroken

private theorem passes_of_not_mem {mark : Char} {text : List Char} (absent : mark ∉ text) :
    ∀ character ∈ text, (character != mark) = true := by
  intro character member
  rw [bne_iff_ne]
  rintro rfl
  exact absent member

theorem cutAt_of_not_mem {mark : Char} {text : List Char} (absent : mark ∉ text) :
    cutAt mark text = (text, none) := by
  rw [cutAt, List.dropWhile_eq_nil_iff.mpr (passes_of_not_mem absent)]

theorem cutAt_append_cons {mark : Char} {text : List Char} (absent : mark ∉ text)
    (behind : List Char) : cutAt mark (text ++ mark :: behind) = (text, some behind) := by
  have passes := passes_of_not_mem absent
  rw [cutAt, List.dropWhile_append_of_pos passes, List.takeWhile_append_of_pos passes]
  simp

theorem splitScheme?_of_isWeb {scheme : List Char} (web : IsWeb scheme) (rest : List Char) :
    splitScheme? (scheme ++ ':' :: rest) = some (scheme, rest) := by
  rcases web with rfl | rfl <;> rfl

def Authority.under (authority : Authority) (scheme : List Char) (path : UrlPath)
    (query fragment : Option (List Char)) : Url where
  scheme := scheme
  username := authority.username
  password := authority.password
  host := authority.host
  port := authority.port
  path := path
  query := query
  fragment := fragment

/-- How the query of an address is written behind its path. -/
def querySuffix (query? : Option (List Char)) : List Char :=
  (query?.map ('?' :: ·)).getD []

theorem cutAt_querySuffix {text : List Char} (absent : '?' ∉ text)
    (query? : Option (List Char)) : cutAt '?' (text ++ querySuffix query?) = (text, query?) := by
  cases query? with
  | none =>
      rw [querySuffix, Option.map_none, Option.getD_none, List.append_nil]
      exact cutAt_of_not_mem absent
  | some query => exact cutAt_append_cons absent query

theorem withAuthority?_append {scheme location rest : List Char}
    {query fragment : Option (List Char)} (web : IsWeb scheme)
    (plain : ∀ character ∈ location, isLocationPlain character) :
    withAuthority? scheme (location ++ '/' :: rest) query fragment =
      (readAuthority? scheme location).map fun authority =>
        authority.under scheme (.ofSpecial false ('/' :: rest)) query fragment := by
  have special := isSpecial_of_isWeb web
  have goesOn : ∀ character ∈ location,
      (!(character == '/' || (isSpecial scheme && character == '\\'))) = true := by
    intro character member
    have isPlain := plain character member
    rw [Bool.not_eq_true', ← Bool.not_eq_true, special, Bool.true_and, Bool.or_eq_true,
      beq_iff_eq, beq_iff_eq]
    rintro (rfl | rfl) <;> cases isPlain
  unfold withAuthority?
  dsimp only
  rw [List.takeWhile_append_of_pos goesOn, List.dropWhile_append_of_pos goesOn]
  simp only [special, beq_self_eq_true, Bool.true_or, Bool.not_true, Bool.false_eq_true,
    not_false_eq_true, List.takeWhile_cons_of_neg, List.dropWhile_cons_of_neg, List.append_nil,
    if_true]
  cases readAuthority? scheme location <;> rfl

/-- A character that stays in an address and starts no fragment. -/
def Staying (character : Char) : Prop := isEdge character = false ∧ character ≠ '#'

private theorem staying_of_printable (kind : Char → Bool)
    (printable : ∀ character, kind character → isPrintable character)
    (noBlank : kind ' ' = false) (noMark : kind '#' = false) {character : Char}
    (isKind : kind character) : Staying character := by
  constructor
  · rw [isEdge, decide_eq_false_iff_not]
    intro blank
    have notBelow := of_decide_eq_true (Bool.and_eq_true_iff.mp (printable character isKind)).1
    rw [Char.le_antisymm blank notBelow, noBlank] at isKind
    cases isKind
  · rintro rfl
    rw [noMark] at isKind
    cases isKind

theorem staying_of_isPathPlain {character : Char} (plain : isPathPlain character) :
    Staying character :=
  staying_of_printable isPathPlain (fun _ isPlain => (Bool.and_eq_true_iff.mp isPlain).1)
    (by decide) (by decide) plain

theorem staying_of_isQueryPlain {character : Char} (plain : isQueryPlain true character) :
    Staying character :=
  staying_of_printable (isQueryPlain true)
    (fun _ isPlain => (Bool.and_eq_true_iff.mp (Bool.and_eq_true_iff.mp isPlain).1).1)
    (by decide) (by decide) plain

theorem staying_querySuffix {query? : Option (List Char)}
    (plain : ∀ query, query? = some query → ∀ character ∈ query, isQueryPlain true character) :
    ∀ character ∈ querySuffix query?, Staying character := by
  cases query? with
  | none => simp [querySuffix]
  | some query =>
      change ∀ character ∈ '?' :: query, Staying character
      rw [List.forall_mem_cons]
      refine ⟨by constructor <;> decide, ?_⟩
      exact fun character member => staying_of_isQueryPlain (plain query rfl character member)

theorem staying_of_isLocationPlain {character : Char} (plain : isLocationPlain character) :
    Staying character := by
  constructor
  · simpa using (Bool.and_eq_true_iff.mp plain).1
  · rintro rfl
    cases plain

theorem isPathPlain_of_mem_path {segments : List (List Char)}
    (settled : ∀ segment ∈ segments, UrlPath.Settled segment) :
    ∀ character ∈ segments.flatMap ('/' :: ·), isPathPlain character := by
  intro character member
  obtain ⟨segment, isSegment, inside⟩ := List.mem_flatMap.mp member
  rcases List.mem_cons.mp inside with rfl | inSegment
  · decide
  · exact (settled segment isSegment).plain character inSegment

theorem ofChars?_assembled {scheme location : List Char} {segments : List (List Char)}
    {query? : Option (List Char)} (web : IsWeb scheme) (located : location ≠ [])
    (plain : ∀ character ∈ location, isLocationPlain character) (someSegment : segments ≠ [])
    (settled : ∀ segment ∈ segments, UrlPath.Settled segment)
    (queryPlain : ∀ query, query? = some query → ∀ character ∈ query, isQueryPlain true character) :
    ofChars? (scheme ++ "://".toList ++ location ++ segments.flatMap ('/' :: ·) ++
        querySuffix query?) =
      (readAuthority? scheme location).map fun authority =>
        authority.under scheme (.segments segments) query? none := by
  have path := isPathPlain_of_mem_path settled
  have pathRead := UrlPath.ofSpecial_settled someSegment settled
  obtain ⟨rest, starts⟩ : ∃ rest, segments.flatMap ('/' :: ·) = '/' :: rest := by
    obtain ⟨first, later, rfl⟩ := List.exists_cons_of_ne_nil someSegment
    exact ⟨_, rfl⟩
  rw [starts] at path pathRead ⊢
  -- No character is dropped at the ends or in between, and no mark stands too early.
  have staying : ∀ character ∈ location ++ '/' :: rest ++ querySuffix query?,
      Staying character := by
    simp only [List.forall_mem_append]
    refine ⟨⟨?_, ?_⟩, staying_querySuffix queryPlain⟩
    · exact fun character member => staying_of_isLocationPlain (plain character member)
    · exact fun character member => staying_of_isPathPlain (path character member)
  have visible : ∀ character ∈ scheme ++ ':' :: ('/' :: '/' :: (location ++ '/' :: rest) ++
      querySuffix query?), isEdge character = false := by
    rw [List.forall_mem_append, List.forall_mem_cons, List.cons_append, List.cons_append,
      List.forall_mem_cons, List.forall_mem_cons]
    refine ⟨?_, by decide, by decide, by decide, ?_⟩
    · intro character member
      have schemeVisible : scheme.all (fun character => !isEdge character) := by
        rcases web with rfl | rfl <;> decide
      simpa using List.all_eq_true.mp schemeVisible character member
    · exact fun character member => (staying character member).1
  have noFragment : '#' ∉ '/' :: '/' :: (location ++ '/' :: rest) ++ querySuffix query? := by
    rw [List.cons_append, List.cons_append, List.mem_cons, List.mem_cons]
    rintro (same | same | member)
    · cases same
    · cases same
    · exact (staying '#' member).2 rfl
  have noQuery : '?' ∉ '/' :: '/' :: (location ++ '/' :: rest) := by
    rw [List.mem_cons, List.mem_cons, List.mem_append]
    rintro (same | same | inLocation | inPath)
    · cases same
    · cases same
    · exact absurd (plain '?' inLocation) (by decide)
    · exact absurd (path '?' inPath) (by decide)
  have slashes : ('/' :: '/' :: (location ++ '/' :: rest)).dropWhile
      (fun c => c == '/' || c == '\\') = location ++ '/' :: rest := by
    obtain ⟨first, later, rfl⟩ := List.exists_cons_of_ne_nil located
    have firstPlain := plain first List.mem_cons_self
    have stops : (first == '/' || first == '\\') = false := by
      rw [← Bool.not_eq_true, Bool.or_eq_true, beq_iff_eq, beq_iff_eq]
      rintro (rfl | rfl) <;> cases firstPlain
    simp [stops]
  have sameQuery : query?.map (Percent.encode (isQueryPlain true)) = query? := by
    cases query? with
    | none => rfl
    | some query => exact congrArg some (Percent.encode_of_plain (queryPlain query rfl))
  have notFile : scheme ≠ "file".toList := by
    rcases web with rfl | rfl <;> decide
  have assembled : scheme ++ "://".toList ++ location ++ '/' :: rest ++ querySuffix query? =
      scheme ++ ':' :: ('/' :: '/' :: (location ++ '/' :: rest) ++ querySuffix query?) := by
    simp
  rw [assembled, ofChars?, clean_of_visible visible, splitScheme?_of_isWeb web]
  simp only [Option.bind_eq_bind, Option.bind_some, cutAt_of_not_mem noFragment,
    cutAt_querySuffix noQuery, notFile, if_false, isSpecial_of_isWeb web, if_true, slashes,
    sameQuery, Option.map_none, withAuthority?_append web plain, pathRead]

/-! ### Reading an origin again -/

/-- The origin of an address is read back: with a path behind it, it is that origin again. -/
def OriginReadBack (url : Url) : Prop :=
  ∃ again, ofChars? (url.origin ++ ['/']) = some again ∧ again.origin = url.origin

/-- An origin of the web is a scheme and a part that no user, path, query or fragment can be cut
from. -/
theorem Web.exists_location {url : Url} (web : url.Web) :
    ∃ location, url.origin = url.scheme ++ "://".toList ++ location ∧ location ≠ [] ∧
      ∀ character ∈ location, isLocationPlain character := by
  obtain ⟨host, isHost, located⟩ := web.host
  have colon : isLocationPlain ':' := by decide
  unfold origin
  rw [isHost, Option.map_some, Option.getD_some]
  cases url.port with
  | none => exact ⟨host.write, List.append_nil _, located.named, located.plain⟩
  | some port =>
      refine ⟨host.write ++ ':' :: Nat.toDigits 10 port, List.append_assoc .., by simp, ?_⟩
      rw [List.forall_mem_append, List.forall_mem_cons]
      exact ⟨located.plain, colon, fun _ member =>
        Host.isLocationPlain_of_mem_toDigits (by decide) (by decide) member⟩

theorem no_user_readAuthority? {scheme location : List Char} {authority : Authority}
    (special : isSpecial scheme) (plain : ∀ character ∈ location, isLocationPlain character)
    (read : readAuthority? scheme location = some authority) :
    authority.username = [] ∧ authority.password = [] := by
  have noUser : location.contains '@' = false := by
    rw [← Bool.not_eq_true, List.contains_iff_mem]
    intro member
    exact absurd (plain '@' member) (by decide)
  simp only [readAuthority?, cutAtLast, noUser, Bool.false_eq_true, if_false,
    Option.bind_eq_bind] at read
  split at read
  · cases read
  · simp only [Option.bind_eq_some_iff] at read
    obtain ⟨host, -, port, -, made⟩ := read
    cases made
    exact ⟨rfl, rfl⟩

theorem search_eq_querySuffix {url : Url} (someQuery : url.query ≠ some []) :
    url.search = querySuffix url.query := by
  unfold search querySuffix
  rcases query : url.query with - | - | ⟨first, later⟩
  · rfl
  · exact absurd query someQuery
  · rfl

/-- Behind the origin of an address that is read back, settled segments and a plain query are read
as they stand, and there is neither user nor fragment. -/
theorem Web.reads_again {url : Url} (web : url.Web) (readBack : url.OriginReadBack)
    {segments : List (List Char)} {query? : Option (List Char)} (someSegment : segments ≠ [])
    (settled : ∀ segment ∈ segments, UrlPath.Settled segment)
    (queryPlain : ∀ query, query? = some query → ∀ character ∈ query, isQueryPlain true character)
    (someQuery : query? ≠ some []) :
    ∃ again, ofChars? (url.origin ++ segments.flatMap ('/' :: ·) ++ querySuffix query?) =
        some again ∧
      again.origin = url.origin ∧ again.username = [] ∧ again.password = [] ∧
      again.fragment = none ∧ again.pathname = segments.flatMap ('/' :: ·) ∧
      again.search = querySuffix query? := by
  obtain ⟨location, isOrigin, located, plain⟩ := web.exists_location
  obtain ⟨bare, bareRead, bareOrigin⟩ := readBack
  have bareAssembled : ofChars? (url.origin ++ ['/']) =
      (readAuthority? url.scheme location).map fun authority =>
        authority.under url.scheme (.segments [[]]) none none := by
    have bareForm : url.origin ++ ['/'] = url.scheme ++ "://".toList ++ location ++
        [([] : List Char)].flatMap ('/' :: ·) ++ querySuffix none := by
      rw [isOrigin]
      exact (List.append_nil _).symm
    rw [bareForm]
    exact ofChars?_assembled web.scheme located plain (List.cons_ne_nil [] [])
      (List.forall_mem_singleton.mpr UrlPath.settled_nil) (fun _ none => nomatch none)
  have assembled := ofChars?_assembled web.scheme located plain someSegment settled queryPlain
  rw [bareRead] at bareAssembled
  obtain ⟨authority, authorityRead, rfl⟩ := Option.map_eq_some_iff.mp bareAssembled.symm
  rw [← isOrigin, authorityRead] at assembled
  obtain ⟨username, password⟩ :=
    no_user_readAuthority? (isSpecial_of_isWeb web.scheme) plain authorityRead
  exact ⟨_, assembled, bareOrigin, username, password, rfl, rfl, search_eq_querySuffix someQuery⟩

end BlobStorage.Url
