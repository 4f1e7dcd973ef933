import BlobStorage.Client.Basic
import BlobStorage.Proofs.ConfigWriting
import BlobStorage.Proofs.EndpointBase
import BlobStorage.Proofs.HostBlanks
import BlobStorage.Proofs.PathEnds

/-!
# Slashes at the end of an endpoint

A client drops the slashes at the end of its endpoint before the endpoint is read.  On the path they
make no difference.  They do where something else ends the endpoint: in a query or a fragment they
are all that it consists of, and behind a blank they are what makes the blank count.  Then, and only
then, the client has addresses that the endpoint it was given does not have.
-/

namespace BlobStorage

namespace Url

variable {text scheme rest bare : List Char} {query? fragment? : Option (List Char)}

/-! ### What slashes go to -/

/-- The slashes behind an address, of which there is at least one. -/
def slashes (more : Nat) : List Char := List.replicate (more + 1) '/'

theorem eq_slash_of_mem {more : Nat} {character : Char} (member : character ∈ slashes more) :
    character = '/' := (List.mem_replicate.mp member).2

theorem slashes_ne_nil (more : Nat) : slashes more ≠ [] := List.cons_ne_nil _ _

theorem not_isEdge_of_mem_slashes {more : Nat} :
    ∀ character ∈ slashes more, isEdge character = false := by
  intro character member
  rw [eq_slash_of_mem member]
  decide

/-- What slashes make of the blanks before them. -/
def behindText (text : List Char) (more : Nat) : List Char := blanksAtEnd text ++ slashes more

theorem not_mem_behindText {more : Nat} {mark : Char} (visible : isEdge mark = false)
    (other : mark ≠ '/') : mark ∉ behindText text more := by
  rw [behindText, List.mem_append, not_or]
  constructor
  · intro blank
    have edge := (Bool.and_eq_true_iff.mp (isBlank_of_mem_blanksAtEnd mark blank)).1
    rw [visible] at edge
    cases edge
  · exact fun member => other (eq_slash_of_mem member)

theorem splitScheme?_clean_append (text : List Char) (more : Nat) :
    splitScheme? (clean (text ++ slashes more)) =
      (splitScheme? (clean text)).map fun parts => (parts.1, parts.2 ++ behindText text more) := by
  have notScheme := @forall_of_ascii isEdge (fun character => !isSchemeChar character)
    ascii_of_isEdge (by decide +kernel)
  have stops : ∀ character, (behindText text more).head? = some character →
      isSchemeChar character = false ∧ character ≠ ':' := by
    intro character first
    rcases List.mem_append.mp (List.mem_of_mem_head? first) with blank | isSlash
    · have edge := (Bool.and_eq_true_iff.mp (isBlank_of_mem_blanksAtEnd _ blank)).1
      refine ⟨by simpa using notScheme _ edge, ?_⟩
      rintro rfl
      exact absurd edge (by decide)
    · rw [eq_slash_of_mem isSlash]
      decide
  by_cases empty : clean text = []
  · have allEdges : ∀ character ∈ text, isEdge character := by
      intro character member
      by_contra visible
      have there := mem_clean (Bool.eq_false_iff.mpr visible) member
      rw [empty] at there
      cases there
    have bare : clean (text ++ slashes more) = slashes more := by
      rw [clean, List.dropWhile_append_of_pos allEdges]
      exact clean_of_visible not_isEdge_of_mem_slashes
    rw [bare, empty]
    rfl
  · rw [clean_append empty (slashes_ne_nil more) not_isEdge_of_mem_slashes, List.append_assoc,
      ← behindText, splitScheme?_append stops]

theorem readAuthority?_nil {scheme : List Char} (web : IsWeb scheme) :
    readAuthority? scheme [] = none := by
  have special := isSpecial_of_isWeb web
  simp [readAuthority?, cutAtLast, hostPart, special]

theorem isSlash_of_mem_slashes {more : Nat} : ∀ character ∈ slashes more, isSlash character := by
  intro character member
  rw [eq_slash_of_mem member]
  decide

end Url

namespace Resource

open Url (IsWeb Parts Cut readWeb? slashes behindText)

variable {scheme rest bare lead authority path : List Char} {query? fragment? : Option (List Char)}

/-- What the addresses below an endpoint begin with, from the parts of the endpoint: there are any
if nothing stands in its query and its fragment. -/
theorem baseOf?_readWeb? (web : IsWeb scheme) (parts : Parts bare lead authority path)
    (query? fragment? : Option (List Char)) :
    baseOf? (readWeb? scheme bare query? fragment?) =
      if query?.getD [] = [] ∧ fragment?.getD [] = [] then
        (Url.readAuthority? scheme authority).map fun read =>
          Text.ofChars (read.under scheme (.segments []) none none).origin ++
            UrlPath.trimmed (UrlPath.segmentsOf path)
      else none := by
  have shown (plain : Char → Bool) (written? : Option (List Char)) :
      (written?.map (Percent.encode plain)).getD [] = [] ↔ written?.getD [] = [] := by
    rcases written? with - | - | ⟨first, written⟩
    · rfl
    · rfl
    · exact iff_of_false (Percent.encode_ne_nil (List.cons_ne_nil _ _)) (List.cons_ne_nil _ _)
  have suited (read : Url.Authority) :
      endpointProblem? (read.under scheme (.ofSpecial false path)
          (query?.map (Percent.encode (Url.isQueryPlain true)))
          (fragment?.map (Percent.encode Url.isFragmentPlain))) = none ↔
        query?.getD [] = [] ∧ fragment?.getD [] = [] := by
    rw [endpointProblem?_eq_none_iff, Url.search_eq_nil_iff, Url.hash_eq_nil_iff]
    exact (and_iff_right web).trans ((shown _ query?).and (shown _ fragment?))
  refine Option.ext fun start => ?_
  rw [baseOf?_eq_some_iff, readWeb?, parts.eq.1, parts.eq.2]
  split
  · rename_i bare
    constructor
    · rintro ⟨url, made, -, rfl⟩
      obtain ⟨read, found, rfl⟩ := Option.map_eq_some_iff.mp made
      exact Option.map_eq_some_iff.mpr ⟨read, found, rfl⟩
    · intro made
      obtain ⟨read, found, rfl⟩ := Option.map_eq_some_iff.mp made
      exact ⟨_, Option.map_eq_some_iff.mpr ⟨read, found, rfl⟩, (suited read).mpr bare, rfl⟩
  · rename_i notBare
    refine iff_of_false ?_ (Option.some_ne_none start).symm
    rintro ⟨url, made, unproblematic, -⟩
    obtain ⟨read, -, rfl⟩ := Option.map_eq_some_iff.mp made
    exact notBare ((suited read).mp unproblematic)

/-- Slashes make no difference behind a path and behind an authority. -/
theorem baseOf?_append_slashes (web : IsWeb scheme) (bare : List Char) (more : Nat) :
    baseOf? (readWeb? scheme (bare ++ slashes more) none none) =
      baseOf? (readWeb? scheme bare none none) := by
  obtain ⟨lead, parts⟩ := Url.exists_parts bare
  by_cases named : Url.authorityPart bare = []
  · rw [named] at parts
    rw [baseOf?_readWeb? web (parts.append_lead Url.isSlash_of_mem_slashes),
      baseOf?_readWeb? web parts, Url.readAuthority?_nil web]
    rfl
  · have behind : Parts (bare ++ slashes more) lead (Url.authorityPart bare)
        (Url.pathPart bare ++ slashes more) :=
      parts.append named fun _ character first =>
        Url.isSlash_of_mem_slashes character (List.mem_of_mem_head? first)
    rw [baseOf?_readWeb? web behind, baseOf?_readWeb? web parts, slashes,
      UrlPath.trimmed_segmentsOf_append]

/-- Behind blanks they do: the path is longer, or there is no such host. -/
theorem baseOf?_append_blanks (web : IsWeb scheme) (bare : List Char) {blanks : List Char}
    (someBlank : blanks ≠ []) (edges : ∀ character ∈ blanks, Url.isEdge character) (more : Nat) :
    baseOf? (readWeb? scheme (bare ++ (blanks ++ slashes more)) none none) =
        baseOf? (readWeb? scheme bare none none) ↔
      baseOf? (readWeb? scheme bare none none) = none := by
  obtain ⟨lead, parts⟩ := Url.exists_parts bare
  have noSlash : ∀ character ∈ blanks, Url.isSlash character = false := by
    intro character member
    have visible := @forall_of_ascii Url.isEdge (fun character => !Url.isSlash character)
      Url.ascii_of_isEdge (by decide +kernel) character (edges character member)
    simpa using visible
  by_cases noPath : Url.pathPart bare = []
  · rw [noPath] at parts
    have named : Url.authorityPart bare ++ blanks ≠ [] := by simp [someBlank]
    have behind : Parts (bare ++ blanks ++ slashes more) lead (Url.authorityPart bare ++ blanks)
        ([] ++ slashes more) :=
      (parts.append_authority noSlash).append named fun _ character first =>
        Url.isSlash_of_mem_slashes character (List.mem_of_mem_head? first)
    obtain ⟨earlier, blank, rfl⟩ := (List.eq_nil_or_concat' blanks).resolve_left someBlank
    rw [← List.append_assoc, baseOf?_readWeb? web behind, ← List.append_assoc,
      Url.readAuthority?_append_edge web (edges blank (by simp))]
    exact eq_comm
  · have behind : Parts (bare ++ (blanks ++ slashes more)) lead (Url.authorityPart bare)
        (Url.pathPart bare ++ (blanks ++ slashes more)) :=
      parts.append (parts.someAuthority noPath) fun none => absurd none noPath
    rw [baseOf?_readWeb? web behind, baseOf?_readWeb? web parts]
    cases Url.readAuthority? scheme (Url.authorityPart bare) with
    | none => simp
    | some read =>
        have longer := UrlPath.length_trimmed_lt (Url.pathPart bare) someBlank edges (more + 1)
        have other : UrlPath.trimmed (UrlPath.segmentsOf
            (Url.pathPart bare ++ (blanks ++ slashes more))) ≠
              UrlPath.trimmed (UrlPath.segmentsOf (Url.pathPart bare)) :=
          fun same => longer.ne (congrArg List.length same.symm)
        simp [other]

theorem baseOf?_of_marked (web : IsWeb scheme) (bare : List Char)
    (marked : query?.getD [] ≠ [] ∨ fragment?.getD [] ≠ []) :
    baseOf? (readWeb? scheme bare query? fragment?) = none := by
  obtain ⟨lead, parts⟩ := Url.exists_parts bare
  rw [baseOf?_readWeb? web parts, if_neg]
  exact fun bare => marked.elim (fun query => query bare.1) fun fragment => fragment bare.2

/-- The slashes at the end of an endpoint count: without them it is one, and something other than
its authority or its path ends it. -/
def SlashesCount (endpoint : Text) : Prop :=
  withoutTrailingSlashes endpoint ≠ endpoint ∧
    ∃ url, Url.ofText? (withoutTrailingSlashes endpoint) = some url ∧
      endpointProblem? url = none ∧
      (url.query.isSome ∨ url.fragment.isSome ∨
        Url.blanksAtEnd (withoutTrailingSlashes endpoint).toCharsLossy ≠ [])

/-- Slashes behind an address of the web count if anything but its authority or path ends it. -/
theorem baseOf?_append_iff_of_web {text : List Char} (web : IsWeb scheme)
    (split : Url.splitScheme? (Url.clean text) = some (scheme, rest))
    (cut : Cut rest bare query? fragment?) (more : Nat) :
    baseOf? (Url.ofChars? (text ++ slashes more)) = baseOf? (Url.ofChars? text) ↔
      (query? = none ∧ fragment? = none ∧ Url.blanksAtEnd text = []) ∨
        baseOf? (Url.ofChars? text) = none := by
  have longSplit := Url.splitScheme?_clean_append text more
  rw [split, Option.map_some] at longSplit
  have noFragment : '#' ∉ behindText text more := Url.not_mem_behindText (by decide) (by decide)
  have noQuery : '?' ∉ behindText text more := Url.not_mem_behindText (by decide) (by decide)
  obtain ⟨toFragment, toQuery, toBare⟩ := cut.append noFragment noQuery
  have someBehind (before : List Char) : before ++ behindText text more ≠ [] := by
    simp [behindText, Url.slashes_ne_nil]
  have refused {long short : Option Text} {unmarked : Prop} (marked : ¬unmarked)
      (unmade : long = none) : long = short ↔ unmarked ∨ short = none := by
    rw [unmade, or_iff_right marked]
    exact eq_comm
  cases fragment? with
  | some fragment =>
      rw [(toFragment fragment rfl).ofChars? web longSplit]
      refine refused (by simp) (baseOf?_of_marked web bare (.inr ?_))
      exact someBehind fragment
  | none =>
      cases query? with
      | some query =>
          rw [(toQuery rfl query rfl).ofChars? web longSplit]
          refine refused (by simp) (baseOf?_of_marked web bare (.inl ?_))
          exact someBehind query
      | none =>
          rw [(toBare rfl rfl).ofChars? web longSplit, cut.ofChars? web split, behindText]
          by_cases noBlank : Url.blanksAtEnd text = []
          · rw [noBlank, List.nil_append, baseOf?_append_slashes web]
            simp
          · have edges : ∀ character ∈ Url.blanksAtEnd text, Url.isEdge character :=
              fun character member =>
                (Bool.and_eq_true_iff.mp (Url.isBlank_of_mem_blanksAtEnd character member)).1
            rw [baseOf?_append_blanks web bare noBlank edges, or_iff_right (by simp [noBlank])]

theorem baseOf?_of_not_web {text : List Char}
    (notWeb : ∀ scheme rest, Url.splitScheme? (Url.clean text) = some (scheme, rest) →
      ¬IsWeb scheme) : baseOf? (Url.ofChars? text) = none := by
  refine baseOf?_eq_none_iff.mpr fun url read suited => ?_
  obtain ⟨rest, split⟩ := Url.splitScheme?_of_ofChars? read
  exact notWeb url.scheme rest split (endpointProblem?_eq_none_iff.mp suited).1

theorem baseOf?_append_iff (text : List Char) (more : Nat) :
    baseOf? (Url.ofChars? (text ++ slashes more)) = baseOf? (Url.ofChars? text) ↔
      ∀ url, Url.ofChars? text = some url → endpointProblem? url = none →
        url.query = none ∧ url.fragment = none ∧ Url.blanksAtEnd text = [] := by
  -- Without a scheme of the web neither text is an endpoint, however many slashes follow.
  by_cases web : ∃ scheme rest, Url.splitScheme? (Url.clean text) = some (scheme, rest) ∧
      IsWeb scheme
  · obtain ⟨scheme, rest, split, web⟩ := web
    obtain ⟨bare, query?, fragment?, cut⟩ := Url.exists_cut rest
    have marks {url : Url} (read : Url.ofChars? text = some url) :
        (url.query = none ↔ query? = none) ∧ (url.fragment = none ↔ fragment? = none) := by
      rw [cut.ofChars? web split] at read
      obtain ⟨authority, -, rfl⟩ := Option.map_eq_some_iff.mp read
      exact ⟨Option.map_eq_none_iff, Option.map_eq_none_iff⟩
    rw [baseOf?_append_iff_of_web web split cut, baseOf?_eq_none_iff]
    constructor
    · rintro (⟨noQuery, noFragment, noBlank⟩ | refused) url read suited
      · exact ⟨(marks read).1.mpr noQuery, (marks read).2.mpr noFragment, noBlank⟩
      · exact absurd suited (refused url read)
    · intro unmarked
      by_contra counts
      rw [not_or] at counts
      obtain ⟨isMarked, made⟩ := counts
      refine made fun url read suited => isMarked ?_
      obtain ⟨noQuery, noFragment, noBlank⟩ := unmarked url read suited
      exact ⟨(marks read).1.mp noQuery, (marks read).2.mp noFragment, noBlank⟩
  · have short : baseOf? (Url.ofChars? text) = none :=
      baseOf?_of_not_web fun scheme rest split isWeb => web ⟨scheme, rest, split, isWeb⟩
    have long : baseOf? (Url.ofChars? (text ++ slashes more)) = none := by
      refine baseOf?_of_not_web fun scheme rest split isWeb => web ?_
      rw [Url.splitScheme?_clean_append] at split
      obtain ⟨⟨first, behind⟩, shortSplit, same⟩ := Option.map_eq_some_iff.mp split
      cases same
      exact ⟨_, _, shortSplit, isWeb⟩
    rw [long, short]
    exact iff_of_true rfl fun url read suited =>
      absurd suited (baseOf?_eq_none_iff.mp short url read)

/-! ### The slashes that a client drops -/

theorem exists_slashes (endpoint : Text) :
    ∃ count, endpoint = withoutTrailingSlashes endpoint ++
      List.replicate count (Text.unit '/') := by
  have parts := List.takeWhile_append_dropWhile (p := (· == Text.unit '/')) (l := endpoint.reverse)
  have run : endpoint.reverse.takeWhile (· == Text.unit '/') =
      List.replicate (endpoint.reverse.takeWhile (· == Text.unit '/')).length (Text.unit '/') :=
    List.eq_replicate_iff.mpr ⟨rfl, fun u member => by simpa using List.mem_takeWhile_imp member⟩
  refine ⟨(endpoint.reverse.takeWhile (· == Text.unit '/')).length, ?_⟩
  rw [withoutTrailingSlashes, Text.trimEnd, ← List.reverse_replicate, ← run, ← List.reverse_append,
    parts, List.reverse_reverse]

theorem toCharsLossy_append_slashes (text : Text) (more : Nat) :
    (text ++ List.replicate (more + 1) (Text.unit '/')).toCharsLossy =
      text.toCharsLossy ++ slashes more := by
  have spelled : List.replicate (more + 1) (Text.unit '/') = Text.ofChars (slashes more) := by
    rw [Text.ofChars_of_basic, slashes, List.map_replicate]
    intro character member
    rw [Url.eq_slash_of_mem member]
    decide
  have cut : Text.scalars (text ++ Text.ofChars (slashes more)) =
      Text.scalars text ++ Text.scalars (Text.ofChars (slashes more)) :=
    Text.scalars_append_cons text (by decide) _
  rw [spelled, Text.toCharsLossy, cut, List.map_append]
  exact congrArg _ (Text.toCharsLossy_ofChars _)

theorem baseOf?_withoutTrailingSlashes (endpoint : Text) :
    baseOf? (Url.ofText? (withoutTrailingSlashes endpoint)) = baseOf? (Url.ofText? endpoint) ↔
      ¬SlashesCount endpoint := by
  obtain ⟨count, spelled⟩ := exists_slashes endpoint
  cases count with
  | zero =>
      rw [List.replicate_zero, List.append_nil] at spelled
      exact iff_of_true (by rw [← spelled]) fun counts => counts.1 spelled.symm
  | succ more =>
      have shorter : withoutTrailingSlashes endpoint ≠ endpoint := by
        intro same
        have lengths := congrArg List.length spelled
        rw [List.length_append, List.length_replicate, same] at lengths
        omega
      have read : Url.ofText? endpoint =
          Url.ofChars? ((withoutTrailingSlashes endpoint).toCharsLossy ++ slashes more) := by
        rw [← toCharsLossy_append_slashes, ← spelled]
        rfl
      rw [read, eq_comm, Url.ofText?, baseOf?_append_iff, SlashesCount, not_and, not_exists]
      simp only [not_and, not_or, Option.not_isSome_iff_eq_none, not_not]
      exact ⟨fun unmarked _ => unmarked, fun unmarked => unmarked shorter⟩

theorem uri_of_baseOf?_eq_none {endpoint : Text} (refused : baseOf? (Url.ofText? endpoint) = none)
    (container blob : Value) (search : List (Text × Value)) :
    ∃ failure : Failure, failure.kind = .request .constructUrl ∧
      uri (.string endpoint) container blob search = .failed failure := by
  have reported (problem : Problem) :
      ∃ failure : Failure, failure.kind = .request .constructUrl ∧
        (problem.report (.string endpoint) : Outcome Text) = .failed failure := ⟨_, rfl, rfl⟩
  have parsed : endpointOf? (.string endpoint) = Url.ofText? endpoint := rfl
  rw [uri, parsed]
  split
  · exact reported _
  · rename_i url read
    cases problem : endpointProblem? url with
    | some found => exact reported found
    | none => exact absurd problem (baseOf?_eq_none_iff.mp refused url read)

end Resource

namespace Client

/-- A client of accepted settings has the addresses below the endpoint that it was given, unless the
slashes at the end of that endpoint count.  An endpoint with a query or a fragment, which has no
addresses below it, is then refused through the client too. -/
theorem addresses_below_given_endpoint {settings : Value} {config : Config}
    (accepted : Config.read settings = .ok config) {endpoint : Text}
    (given : config.blobEndpoint = some (some endpoint)) :
    let own := Value.string (Client.ofConfig config).blobEndpoint
    ((∀ container blob search address,
        Resource.uri own container blob search = .ok address ↔
          Resource.uri (.string endpoint) container blob search = .ok address) ↔
      ¬Resource.SlashesCount endpoint) ∧
    ∃ url, Url.ofText? endpoint = some url ∧
      (¬(url.search = [] ∧ url.hash = []) →
        ((∀ container blob search, ∃ failure : Failure, failure.kind = .request .constructUrl ∧
            Resource.uri own container blob search = .failed failure) ↔
          ¬Resource.SlashesCount endpoint)) := by
  intro own
  have dropped : (Client.ofConfig config).blobEndpoint =
      Resource.withoutTrailingSlashes endpoint := by
    rw [Client.ofConfig, Client.endpointOf, given]
  obtain ⟨entries, -, -, sound⟩ := Config.read_eq_ok_iff.mp accepted
  obtain ⟨url, read⟩ := Option.isSome_iff_exists.mp (sound.blobEndpoint endpoint given)
  have same := Resource.baseOf?_withoutTrailingSlashes endpoint
  rw [← dropped] at same
  refine ⟨Resource.same_addresses_iff.trans same, url, read, fun marked => ?_⟩
  have refused : Resource.baseOf? (Url.ofText? endpoint) = none := by
    refine Resource.baseOf?_eq_none_iff.mpr fun other reads suited => ?_
    cases read.symm.trans reads
    exact marked (Resource.endpointProblem?_eq_none_iff.mp suited).2
  rw [← same, refused]
  constructor
  · intro fails
    refine Option.eq_none_iff_forall_ne_some.mpr fun start begins => ?_
    obtain ⟨failure, -, failed⟩ := fails (.string "c") .undefined []
    rw [Resource.baseOf?_eq_some_iff_plain.mp begins] at failed
    cases failed
  · exact Resource.uri_of_baseOf?_eq_none

/-- A configuration with an endpoint. -/
def endpointConfig (endpoint : Text) : Config where
  accountName := "account1"
  blobEndpoint := some (some endpoint)
  apiVersion := Config.defaultApiVersion
  requestTimeout := .never
  headers := none
  logging := ⟨.info, false⟩

theorem read_endpointConfig {endpoint : Text} (reads : (Url.ofText? endpoint).isSome) :
    Config.read (endpointConfig endpoint).toValue = .ok (endpointConfig endpoint) := by
  have named : Config.isAccountName "account1" = true := by decide
  have version : Config.defaultApiVersion ≠ [] := by decide
  refine Config.Sound.read_own ⟨named, ?_, version, trivial, nofun⟩
  rintro _ ⟨⟩
  exact reads

/-- Slashes behind a path of dots and a user do not count, and neither do those in a query. -/
theorem addresses_below_given_endpoint_samples :
    (∀ container blob search address,
      Resource.uri (.string "https://user@account1.example:443/a b/..") container blob search =
          .ok address ↔
        Resource.uri (.string "https://user@account1.example:443/a b/..//") container blob search =
          .ok address) ∧
    ∀ container blob search, ∃ failure : Failure, failure.kind = .request .constructUrl ∧
      Resource.uri (.string "https://account1.example/?a") container blob search =
        .failed failure := by
  have dotted := read_endpointConfig (show (Url.ofText?
    "https://user@account1.example:443/a b/..//").isSome from by decide +kernel)
  have queried := read_endpointConfig (show (Url.ofText?
    "https://account1.example/?a//").isSome from by decide +kernel)
  obtain ⟨same, -⟩ := addresses_below_given_endpoint dotted rfl
  obtain ⟨-, url, read, refused⟩ := addresses_below_given_endpoint queried rfl
  have withoutSlashes : Resource.withoutTrailingSlashes
      "https://user@account1.example:443/a b/..//" = "https://user@account1.example:443/a b/.." ∧
        Resource.withoutTrailingSlashes "https://account1.example/?a//" =
          "https://account1.example/?a" := by
    decide
  have marks : (∀ url ∈ Url.ofText? "https://user@account1.example:443/a b/..",
        url.query = none ∧ url.fragment = none) ∧
      (∀ url ∈ Url.ofText? "https://account1.example/?a", url.search ≠ []) ∧
      ∀ url ∈ Url.ofText? "https://account1.example/?a//", url.search ≠ [] := by
    decide +kernel
  constructor
  · rw [← withoutSlashes.1]
    refine same.mpr ?_
    rintro ⟨-, url, read, -, counted⟩
    rw [withoutSlashes.1] at read counted
    have unmarked := marks.1 url read
    have noBlank : Url.blanksAtEnd
        ("https://user@account1.example:443/a b/.." : Text).toCharsLossy = [] := by decide
    simp [unmarked, noBlank] at counted
  · rw [← withoutSlashes.2]
    refine (refused fun bare => marks.2.2 url read bare.1).mpr ?_
    rintro ⟨-, url, read, suited, -⟩
    rw [withoutSlashes.2] at read
    exact marks.2.1 url read (Resource.endpointProblem?_eq_none_iff.mp suited).2.1

/-- The slash is the whole fragment of this endpoint, which is accepted: below the endpoint there is
no address, and the client has one. -/
theorem addresses_below_empty_fragment :
    Config.read (endpointConfig "https://account1.example/#/").toValue =
        .ok (endpointConfig "https://account1.example/#/") ∧
      Resource.uri (.string (ofConfig (endpointConfig "https://account1.example/#/")).blobEndpoint)
          (.string "c") .undefined [] = .ok "https://account1.example/c" ∧
      Resource.uri (.string "https://account1.example/#/") (.string "c") .undefined [] =
        .failed (Failure.constructUrl
          "error constructing URI, endpoint contains query or fragment"
          (.string "https://account1.example/#/") none) := by
  refine ⟨read_endpointConfig (by decide +kernel), ?_, ?_⟩
  · rw [← Outcome.toOption_eq_some_iff]
    decide +kernel
  · have marked : ∃ url ∈ Url.ofText? "https://account1.example/#/",
        url.protocol = "https:".toList ∧ url.hash = "#/".toList := by
      decide +kernel
    obtain ⟨url, parsed, protocol, hash⟩ := marked
    have problem : Resource.endpointProblem? url = some .endpointHasQuery :=
      Resource.endpointProblem?_of_query (.inl protocol) (by simp [hash])
    have undefined : Value.undefined = Resource.blobValue none := rfl
    rw [undefined, Resource.uri_texts, parsed]
    simp only [problem]
    rfl

end Client

end BlobStorage
