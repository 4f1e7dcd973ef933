import BlobStorage.Proofs.ResourceConditions
import BlobStorage.Proofs.ResourceReading

/-!
# What addresses begin with

All that the address of a resource has from its endpoint is what it begins with.  So two endpoints
can be told apart by the addresses below them if and only if these begin differently.
-/

namespace BlobStorage

namespace Url

theorem protocol_iff_isWeb (url : Url) :
    (url.protocol = "https:".toList ∨ url.protocol = "http:".toList) ↔ IsWeb url.scheme := by
  have ends (name : List Char) : url.protocol = name ++ [':'] ↔ url.scheme = name :=
    List.append_left_inj [':']
  exact ((ends "https".toList).or (ends "http".toList)).trans or_comm

theorem search_eq_nil_iff {url : Url} : url.search = [] ↔ url.query.getD [] = [] := by
  rw [search]
  rcases url.query with - | - | ⟨first, query⟩ <;> simp

theorem hash_eq_nil_iff {url : Url} : url.hash = [] ↔ url.fragment.getD [] = [] := by
  rw [hash]
  rcases url.fragment with - | - | ⟨first, fragment⟩ <;> simp

end Url

namespace Resource

open Url (IsWeb)

theorem endpointProblem?_eq_none_iff {url : Url} :
    endpointProblem? url = none ↔ IsWeb url.scheme ∧ url.search = [] ∧ url.hash = [] := by
  have protocol := url.protocol_iff_isWeb
  by_cases supported : url.protocol = "https:".toList ∨ url.protocol = "http:".toList
  · by_cases bare : url.search = [] ∧ url.hash = []
    · simp [endpointProblem?_of_bare supported bare, protocol.mp supported, bare]
    · simp [endpointProblem?_of_query supported bare, bare]
  · simp [endpointProblem?_of_protocol supported, mt protocol.mpr supported]

/-- What the addresses below an endpoint begin with, if there are any. -/
def baseOf? (url? : Option Url) : Option Text :=
  (url?.filter fun url => (endpointProblem? url).isNone).map base

theorem baseOf?_eq_some_iff {url? : Option Url} {start : Text} :
    baseOf? url? = some start ↔
      ∃ url, url? = some url ∧ endpointProblem? url = none ∧ base url = start := by
  simp [baseOf?, Option.filter_eq_some_iff, and_assoc]

theorem baseOf?_eq_none_iff {url? : Option Url} :
    baseOf? url? = none ↔ ∀ url, url? = some url → endpointProblem? url ≠ none := by
  cases url? <;> simp [baseOf?, Option.filter_eq_none_iff]

theorem uri_eq_ok_iff_of_base {endpoint : Text} {container blob : Value}
    {search : List (Text × Value)} {address : Text} :
    uri (.string endpoint) container blob search = .ok address ↔
      ∃ start segments names pairs, baseOf? (Url.ofText? endpoint) = some start ∧
        container.isTruthy ∧ isEmptyText blob = false ∧
        nameSegments container blob = .ok segments ∧ segments.any isDotSegment = false ∧
        encodeNames container blob = .ok names ∧ searchPairs search = .ok pairs ∧
        address = start ++ "/" ++ names ++ querySuffix pairs := by
  have parsed : endpointOf? (.string endpoint) = Url.ofText? endpoint := rfl
  unfold uri
  rw [parsed]
  constructor
  -- The checks are passed one by one, in their order.
  · intro made
    split at made
    · cases made
    rename_i url read
    split at made
    · cases made
    rename_i suited
    split at made
    · cases made
    rename_i named
    split at made
    · obtain ⟨url, -, reported⟩ := Outcome.bind_eq_ok_iff.mp made
      cases reported
    rename_i someBlob
    obtain ⟨segments, cut, made⟩ := Outcome.bind_eq_ok_iff.mp made
    split at made
    · cases made
    rename_i noDots
    split at made
    · cases made
    rename_i names encoded
    obtain ⟨pairs, written, rfl⟩ := Outcome.map_eq_ok_iff.mp made
    exact ⟨base url, segments, names, pairs, baseOf?_eq_some_iff.mpr ⟨url, read, suited, rfl⟩,
      by simpa using named, by simpa using someBlob, cut, by simpa using noDots, encoded, written,
      rfl⟩
  · rintro ⟨start, segments, names, pairs, begins, named, someBlob, cut, noDots, encoded, written,
      rfl⟩
    obtain ⟨url, read, suited, rfl⟩ := baseOf?_eq_some_iff.mp begins
    simp [read, suited, named, someBlob, cut, noDots, encoded, written, Outcome.bind, Outcome.map]

theorem base_prefix_of_uri {endpoint start address : Text} {container blob : Value}
    {search : List (Text × Value)} (begins : baseOf? (Url.ofText? endpoint) = some start)
    (made : uri (.string endpoint) container blob search = .ok address) :
    (start ++ "/" : Text) <+: address := by
  obtain ⟨other, -, names, pairs, begun, -, -, -, -, -, -, rfl⟩ := uri_eq_ok_iff_of_base.mp made
  cases begins.symm.trans begun
  exact ⟨names ++ querySuffix pairs, (List.append_assoc _ _ _).symm⟩

/-- One plain container is enough to show what the addresses below an endpoint begin with. -/
theorem baseOf?_eq_some_iff_plain {endpoint start : Text} :
    baseOf? (Url.ofText? endpoint) = some start ↔
      uri (.string endpoint) (.string "c") .undefined [] = .ok (start ++ "/" ++ "c") := by
  have encoded : encodeNames (.string "c") .undefined = .ok "c" := rfl
  have noPairs : searchPairs [] = .ok [] := rfl
  have noQuery : querySuffix [] = [] := rfl
  rw [uri_eq_ok_iff_of_base]
  constructor
  · intro begins
    exact ⟨start, ["c"], "c", [], begins, rfl, rfl, rfl, rfl, encoded, noPairs, by
      rw [noQuery, List.append_nil]⟩
  · rintro ⟨begun, segments, names, pairs, begins, -, -, -, -, written, none, address⟩
    cases encoded.symm.trans written
    cases noPairs.symm.trans none
    rw [noQuery, List.append_nil] at address
    rw [begins, List.append_cancel_right (List.append_cancel_right address)]

/-- Two endpoints have the same addresses below them if they begin them alike, and only then. -/
theorem same_addresses_iff {endpoint other : Text} :
    (∀ container blob search address,
      uri (.string endpoint) container blob search = .ok address ↔
        uri (.string other) container blob search = .ok address) ↔
      baseOf? (Url.ofText? endpoint) = baseOf? (Url.ofText? other) := by
  constructor
  · intro same
    refine Option.ext fun start => ?_
    rw [baseOf?_eq_some_iff_plain, baseOf?_eq_some_iff_plain]
    exact same _ _ _ _
  · intro same container blob search address
    rw [uri_eq_ok_iff_of_base, uri_eq_ok_iff_of_base, same]

end Resource

end BlobStorage
