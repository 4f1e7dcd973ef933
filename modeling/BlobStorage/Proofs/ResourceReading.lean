import BlobStorage.Proofs.AddressReading
import BlobStorage.Proofs.FormReading
import BlobStorage.Proofs.ResourceAddress

/-!
# Reading the address of a resource again

A reader of addresses finds in the address of a resource what was put into it: the origin of the
endpoint, its path, the encoded names as segments, and the query.  Nothing is taken away or encoded
once more.
-/

namespace BlobStorage

namespace Text

/-- A text of characters of one kind. -/
def SpelledBy (kind : Char → Bool) (text : Text) : Prop :=
  ∃ characters, text = ofChars characters ∧ ∀ character ∈ characters, kind character

variable {kind : Char → Bool}

theorem SpelledBy.append {left right : Text} (leftSpelled : left.SpelledBy kind)
    (rightSpelled : right.SpelledBy kind) : SpelledBy kind (left ++ right) := by
  obtain ⟨first, rfl, firstKind⟩ := leftSpelled
  obtain ⟨second, rfl, secondKind⟩ := rightSpelled
  refine ⟨first ++ second, (ofChars_append first second).symm, ?_⟩
  rw [List.forall_mem_append]
  exact ⟨firstKind, secondKind⟩

theorem SpelledBy.join {separator : Text} {pieces : List Text}
    (separatorSpelled : separator.SpelledBy kind)
    (piecesSpelled : ∀ piece ∈ pieces, SpelledBy kind piece) :
    SpelledBy kind (join separator pieces) := by
  cases pieces with
  | nil => exact ⟨[], rfl, by simp⟩
  | cons first pieces =>
      rw [join_cons]
      rw [List.forall_mem_cons] at piecesSpelled
      apply piecesSpelled.1.append
      obtain ⟨-, later⟩ := piecesSpelled
      induction pieces with
      | nil => exact ⟨[], rfl, by simp⟩
      | cons piece pieces induction =>
          rw [List.forall_mem_cons] at later
          rw [List.flatMap_cons]
          exact (separatorSpelled.append later.1).append (induction later.2)

theorem slash_join_ofChars {segments : List (List Char)} (someSegment : segments ≠ []) :
    ofString "/" ++ join "/" (segments.map ofChars) =
      ofChars (segments.flatMap ('/' :: ·)) := by
  obtain ⟨first, later, rfl⟩ := List.exists_cons_of_ne_nil someSegment
  rw [List.map_cons, join_cons, List.flatMap_cons, ofChars_append, ← List.append_assoc]
  congr 1
  clear someSegment
  induction later with
  | nil => rfl
  | cons segment later induction =>
      rw [List.map_cons, List.flatMap_cons, List.flatMap_cons, ofChars_append, ← induction]
      rfl

end Text

namespace Form

theorem isQueryPlain_of_isPlain :
    ∀ character, isPlain character → Url.isQueryPlain true character :=
  forall_of_ascii (Percent.ascii_of_marked _ (by decide)) (by decide +kernel)

theorem isQueryPlain_of_mem_encodeHalf {characters : List Char} :
    ∀ character ∈ encodeHalf characters, Url.isQueryPlain true character := by
  intro character member
  rcases mem_encodeHalf member with rfl | rfl | plain
  · decide
  · decide
  · exact isQueryPlain_of_isPlain character plain

/-- A query in the form encoding is kept by a reader of addresses as it stands. -/
theorem spelledBy_encode (pairs : List (Text × Text)) :
    (encode pairs).SpelledBy (Url.isQueryPlain true) := by
  have single (mark : String) (plain : mark.toList.all (Url.isQueryPlain true)) :
      (Text.ofString mark).SpelledBy (Url.isQueryPlain true) :=
    ⟨_, rfl, List.all_eq_true.mp plain⟩
  have half (text : Text) :
      (Text.ofChars (encodeHalf text.toCharsLossy)).SpelledBy (Url.isQueryPlain true) :=
    ⟨_, rfl, isQueryPlain_of_mem_encodeHalf⟩
  apply Text.SpelledBy.join (single "&" (by decide))
  intro piece member
  obtain ⟨⟨name, value⟩, -, rfl⟩ := List.mem_map.mp member
  exact ((half name).append (single "=" (by decide))).append (half value)

theorem encode_ne_nil {pairs : List (Text × Text)} (somePair : pairs ≠ []) :
    encode pairs ≠ [] := by
  obtain ⟨pair, later, rfl⟩ := List.exists_cons_of_ne_nil somePair
  unfold encode
  rw [List.map_cons, Text.join_cons]
  simp [Text.ofString, Text.ofChars_cons, Text.ofChar]

end Form

namespace Resource

theorem settled_of_encodeComponent? {name piece : Text}
    (encoded : Percent.encodeComponent? name = some piece) (noDots : isDotSegment name = false) :
    ∃ segment, piece = Text.ofChars segment ∧ UrlPath.Settled segment := by
  obtain ⟨characters, read, rfl⟩ := Option.map_eq_some_iff.mp encoded
  have spelled := Text.toChars?_eq_some_iff.mp read
  refine ⟨_, rfl, UrlPath.settled_encodeComponent ?_ ?_⟩
  · rintro rfl
    rw [← spelled] at noDots
    exact absurd noDots (by decide)
  · rintro rfl
    rw [← spelled] at noDots
    exact absurd noDots (by decide)

theorem exists_settled_segments {names pieces : List Text}
    (encoded : names.mapM Percent.encodeComponent? = some pieces)
    (noDots : names.any isDotSegment = false) :
    ∃ segments : List (List Char), pieces = segments.map Text.ofChars ∧
      segments.length = names.length ∧ ∀ segment ∈ segments, UrlPath.Settled segment := by
  have eachEncoded := Text.mapM_eq_some_iff.mp encoded
  clear encoded
  induction eachEncoded with
  | nil => exact ⟨[], rfl, rfl, by simp⟩
  | cons written rest induction =>
      rw [List.any_cons, Bool.or_eq_false_iff] at noDots
      obtain ⟨segment, rfl, settled⟩ := settled_of_encodeComponent? written noDots.1
      obtain ⟨segments, rfl, count, allSettled⟩ := induction noDots.2
      refine ⟨segment :: segments, rfl, congrArg (· + 1) count, ?_⟩
      rw [List.forall_mem_cons]
      exact ⟨settled, allSettled⟩

theorem exists_query (pairs : List (Text × Text)) :
    ∃ query? : Option (List Char), querySuffix pairs = Text.ofChars (Url.querySuffix query?) ∧
      query? ≠ some [] ∧
      ∀ query, query? = some query → ∀ character ∈ query, Url.isQueryPlain true character := by
  cases pairs with
  | nil => exact ⟨none, rfl, by simp, by simp⟩
  | cons pair pairs =>
      obtain ⟨query, spelled, plain⟩ := Form.spelledBy_encode (pair :: pairs)
      refine ⟨some query, ?_, ?_, ?_⟩
      · change "?" ++ Form.encode (pair :: pairs) = _
        rw [spelled]
        rfl
      · rintro ⟨⟩
        exact Form.encode_ne_nil (List.cons_ne_nil _ _) spelled
      · rintro query ⟨⟩
        exact plain

theorem web_of_endpointProblem? {endpoint : Text} {url : Url}
    (parsed : Url.ofText? endpoint = some url) (suited : endpointProblem? url = none) :
    url.Web := by
  apply Url.web_ofChars? parsed
  unfold endpointProblem? at suited
  split at suited
  · cases suited
  · rename_i supported
    rw [not_and_or, not_not, not_not] at supported
    rcases supported with https | http
    · exact .inr (List.append_cancel_right https)
    · exact .inl (List.append_cancel_right http)

/-- Whatever reads the address of a resource again finds the origin of the endpoint, no user and no
fragment, the path of the endpoint with the encoded names behind it, and the query, all of them as
they stand. -/
theorem uri_reads_again {endpoint container : Text} {blob? : Option Text}
    {search : List (Text × Value)} {address : Text}
    (made : uri (.string endpoint) (.string container) (blobValue blob?) search = .ok address)
    (readBack : ∀ url, Url.ofText? endpoint = some url → url.OriginReadBack) :
    ∃ url pieces pairs again, Url.ofText? endpoint = some url ∧
      (pathSegments container blob?).mapM Percent.encodeComponent? = some pieces ∧
      searchPairs search = .ok pairs ∧ Url.ofText? address = some again ∧
      again.origin = url.origin ∧ again.username = [] ∧ again.password = [] ∧
      again.fragment = none ∧
      Text.ofChars again.pathname =
        withoutTrailingSlashes (Text.ofChars url.pathname) ++ "/" ++ Text.join "/" pieces ∧
      Text.ofChars again.search = querySuffix pairs := by
  obtain ⟨url, pieces, pairs, parsed, suited, ⟨-, -, noDots⟩, encoded, written, rfl⟩ :=
    uri_eq_ok_iff.mp made
  have web := web_of_endpointProblem? parsed suited
  obtain ⟨below, path, belowSettled⟩ := web.path
  obtain ⟨kept, among, trimmed⟩ := UrlPath.exists_segments_trimmed below belowSettled
  obtain ⟨segments, rfl, count, settled⟩ := exists_settled_segments encoded noDots
  obtain ⟨query?, querySpelled, someQuery, queryPlain⟩ := exists_query pairs
  have someSegment : segments ≠ [] := by
    rintro rfl
    cases count
  have basePath : withoutTrailingSlashes (Text.ofChars url.pathname) =
      Text.ofChars (kept.flatMap ('/' :: ·)) := by
    rw [Url.pathname, path]
    exact trimmed
  -- The path is that of the endpoint without its last slashes, and the names behind it.
  have wholePath : withoutTrailingSlashes (Text.ofChars url.pathname) ++ "/" ++
      Text.join "/" (segments.map Text.ofChars) =
        Text.ofChars ((kept ++ segments).flatMap ('/' :: ·)) := by
    rw [basePath, List.append_assoc, Text.slash_join_ofChars someSegment, List.flatMap_append,
      Text.ofChars_append]
  have wholeSettled : ∀ segment ∈ kept ++ segments, UrlPath.Settled segment := by
    rw [List.forall_mem_append]
    exact ⟨fun segment member => belowSettled segment (among segment member), settled⟩
  obtain ⟨again, read, origin, username, password, fragment, pathname, query⟩ :=
    web.reads_again (readBack url parsed) (List.append_ne_nil_of_right_ne_nil kept someSegment)
      wholeSettled queryPlain someQuery
  refine ⟨url, _, pairs, again, parsed, encoded, written, ?_, origin, username, password, fragment,
    ?_, ?_⟩
  · have spelled : base url ++ "/" ++ Text.join "/" (segments.map Text.ofChars) ++
        querySuffix pairs =
          Text.ofChars (url.origin ++ (kept ++ segments).flatMap ('/' :: ·) ++
            Url.querySuffix query?) := by
      rw [Text.ofChars_append, Text.ofChars_append, ← wholePath, querySpelled, base]
      simp only [List.append_assoc]
    rw [spelled, Url.ofText?, Text.toCharsLossy_ofChars]
    exact read
  · rw [pathname, wholePath]
  · rw [query, querySpelled]

/-- An endpoint with a user, a port, and a path that reading changes. -/
def quirkyEndpoint : Text := "HTTPS://me:key@Ex%41mple.com:8443\\a/./b/%2e%2E/c d//"

def quirkyUrl : Url where
  scheme := "https".toList
  username := "me".toList
  password := "key".toList
  host := some (.domain "example.com".toList)
  port := some 8443
  path := .segments ["a".toList, "c%20d".toList, [], []]
  query := none
  fragment := none

/-- Names that look like dots, slashes, queries and fragments. -/
def quirkyUri : Outcome Text :=
  uri (.string quirkyEndpoint) (.string "%2e%2E") (blobValue (some "x//..y/é?#/.%2e"))
    [("timeout", .number (Number.ofInt 5)), ("prefix", .string "a&b c#")]

def quirkyAddress : Text :=
  "https://example.com:8443/a/c%20d/%252e%252E/x//..y/%C3%A9%3F%23/.%252e" ++
    "?timeout=5&prefix=a%26b+c%23"

theorem uri_reads_again_quirky :
    quirkyUri = .ok quirkyAddress ∧
      ∃ again, Url.ofText? quirkyAddress = some again ∧
        again.origin = "https://example.com:8443".toList ∧ again.username = [] ∧
        again.password = [] ∧ again.fragment = none ∧
        Text.ofChars again.pathname =
          "/a/c%20d/%252e%252E/x//..y/%C3%A9%3F%23/.%252e" := by
  have made : quirkyUri = .ok quirkyAddress := by
    rw [← Outcome.toOption_eq_some_iff]
    decide +kernel
  have parsed : Url.ofText? quirkyEndpoint = some quirkyUrl := by decide +kernel
  have readBack : ∀ url, Url.ofText? quirkyEndpoint = some url → url.OriginReadBack := by
    intro url read
    obtain rfl := Option.some.inj (parsed.symm.trans read)
    have origin : (Url.ofChars? (quirkyUrl.origin ++ ['/'])).map Url.origin =
        some quirkyUrl.origin := by
      decide +kernel
    exact Option.map_eq_some_iff.mp origin
  obtain ⟨url, pieces, -, again, read, encoded, -, readAgain, origin, username, password, fragment,
    path, -⟩ := uri_reads_again made readBack
  obtain rfl := Option.some.inj (parsed.symm.trans read)
  have names : (pathSegments "%2e%2E" (some "x//..y/é?#/.%2e")).mapM Percent.encodeComponent? =
      some (["%252e%252E", "x", "", "..y", "%C3%A9%3F%23", ".%252e"].map Text.ofString) := by
    decide +kernel
  obtain rfl := Option.some.inj (names.symm.trans encoded)
  refine ⟨made, again, readAgain, origin.trans ?_, username, password, fragment, path.trans ?_⟩
  · decide +kernel
  · decide +kernel

end Resource

end BlobStorage
