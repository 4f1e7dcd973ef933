import BlobStorage.Proofs.ResourceAddress
import BlobStorage.Proofs.WellFormedText

/-!
# The conditions on the address of a resource

An endpoint and the names below it are looked at in a fixed order (`Condition.inOrder`), and the
first condition that does not hold is reported (`Condition.report`).  If all of them hold there is
an address: nothing that comes after the conditions fails, whichever parameters the query has.
-/

namespace BlobStorage

namespace Outcome

variable {α β : Type}

theorem exists_bind_ok {outcome : Outcome α} {next : α → Outcome β}
    (first : ∃ value, outcome = .ok value) (rest : ∀ value, ∃ result, next value = .ok result) :
    ∃ result, outcome.bind next = .ok result := by
  obtain ⟨value, rfl⟩ := first
  exact rest value

theorem exists_mapM_ok {compute : α → Outcome β} {items : List α}
    (each : ∀ item ∈ items, ∃ value, compute item = .ok value) :
    ∃ values, items.mapM compute = .ok values := by
  have loop : ∀ items, (∀ item ∈ items, ∃ value, compute item = .ok value) →
      ∀ done, ∃ values, List.mapM.loop compute items done = .ok values := by
    intro items
    induction items with
    | nil => exact fun _ done => ⟨done.reverse, rfl⟩
    | cons item items induction =>
        intro each done
        rw [List.forall_mem_cons] at each
        obtain ⟨value, computed⟩ := each.1
        obtain ⟨values, rest⟩ := induction each.2 (value :: done)
        exact ⟨values, by rw [List.mapM.loop, computed]; exact rest⟩
  exact loop items each []

end Outcome

namespace Resource

/-- What is asked of an endpoint and of the names below it. -/
inductive Condition where
  | endpointParses
  | protocolSupported
  | endpointBare
  | containerNamed
  | blobNamed
  | segmentsKept
  | namesEncodable
  deriving DecidableEq

namespace Condition

/-- The order in which the conditions are looked at. -/
def inOrder : List Condition :=
  [endpointParses, protocolSupported, endpointBare, containerNamed, blobNamed, segmentsKept,
    namesEncodable]

/-- The conditions that are looked at before another one. -/
def earlier (condition : Condition) : List Condition := inOrder.takeWhile (· != condition)

def Holds (endpoint container : Text) (blob? : Option Text) : Condition → Prop
  | endpointParses => ∃ url, Url.ofText? endpoint = some url
  | protocolSupported => ∀ url, Url.ofText? endpoint = some url →
      url.protocol = "https:".toList ∨ url.protocol = "http:".toList
  | endpointBare => ∀ url, Url.ofText? endpoint = some url → url.search = [] ∧ url.hash = []
  | containerNamed => container ≠ []
  | blobNamed => blob? ≠ some []
  | segmentsKept => ∀ segment ∈ pathSegments container blob?, segment ≠ "." ∧ segment ≠ ".."
  | namesEncodable => container.isWellFormed ∧ ∀ blob ∈ blob?, blob.isWellFormed

/-- The protocol of an endpoint that is an address. -/
def protocolOf (endpoint : Text) : Text :=
  Text.ofChars (((Url.ofText? endpoint).map Url.protocol).getD [])

/-- The problem that an endpoint and names have if a condition is the first that does not hold. -/
def problem (endpoint : Text) : Condition → Problem
  | endpointParses => .invalidEndpoint
  | protocolSupported => .unsupportedProtocol (protocolOf endpoint)
  | endpointBare => .endpointHasQuery
  | containerNamed => .emptyContainer
  | blobNamed => .emptyBlob
  | segmentsKept => .dotSegment
  | namesEncodable => .unencodable (Failure.ofPlatform .uriError)

/-- The text that is shown with the problem: the endpoint, and for an empty blob its container too.
-/
def shown (endpoint container : Text) : Condition → Text
  | blobNamed => endpoint ++ "/" ++ container
  | _ => endpoint

/-- What is reported if a condition is the first that does not hold. -/
def report (endpoint container : Text) (condition : Condition) : Failure :=
  Failure.constructUrl (condition.problem endpoint).message
    (.string (condition.shown endpoint container)) (condition.problem endpoint).cause

/-- The error of the reader of addresses, or of the encoder, that shows that a condition does not
hold.  The other conditions are checked without either. -/
def ownError : Condition → Option Value
  | endpointParses => some .typeError
  | namesEncodable => some (.failure (Failure.ofPlatform .uriError))
  | _ => none

theorem cause_report (endpoint container : Text) (condition : Condition) :
    (condition.report endpoint container).cause = condition.ownError := by
  cases condition <;> rfl

end Condition

/-- A parameter of a query as callers are to give it. -/
def IsParameter : Value → Prop
  | .undefined | .string _ | .number _ | .boolean _ => True
  | _ => False

theorem IsParameter.describe? {value : Value} (parameter : IsParameter value) :
    ∃ text, value.describe? = some text := by
  cases value with
  | undefined => exact ⟨_, rfl⟩
  | string text => exact ⟨_, rfl⟩
  | number n => exact ⟨_, rfl⟩
  | boolean b => cases b <;> exact ⟨_, rfl⟩
  | _ => cases parameter

theorem searchPairs_total {search : List (Text × Value)}
    (parameters : ∀ entry ∈ search, IsParameter entry.2) :
    ∃ pairs, searchPairs search = .ok pairs := by
  refine Outcome.exists_bind_ok (Outcome.exists_mapM_ok ?_) fun _ => ⟨_, rfl⟩
  intro entry member
  obtain ⟨text, described⟩ := (parameters entry (List.mem_filter.mp member).1).describe?
  exact ⟨(entry.1, text), by rw [described]⟩

theorem endpointProblem?_of_protocol {url : Url}
    (unsupported : ¬ (url.protocol = "https:".toList ∨ url.protocol = "http:".toList)) :
    endpointProblem? url = some (.unsupportedProtocol (Text.ofChars url.protocol)) :=
  if_pos (not_or.mp unsupported)

theorem endpointProblem?_of_query {url : Url}
    (supported : url.protocol = "https:".toList ∨ url.protocol = "http:".toList)
    (query : ¬ (url.search = [] ∧ url.hash = [])) :
    endpointProblem? url = some .endpointHasQuery := by
  unfold endpointProblem?
  rw [if_neg fun both => both.1 (supported.resolve_right both.2), if_pos (not_and_or.mp query)]

theorem endpointProblem?_of_bare {url : Url}
    (supported : url.protocol = "https:".toList ∨ url.protocol = "http:".toList)
    (bare : url.search = [] ∧ url.hash = []) : endpointProblem? url = none := by
  unfold endpointProblem?
  rw [if_neg fun both => both.1 (supported.resolve_right both.2), if_neg (by simp [bare])]

theorem any_isDotSegment_eq_false_iff {segments : List Text} :
    segments.any isDotSegment = false ↔ ∀ segment ∈ segments, segment ≠ "." ∧ segment ≠ ".." := by
  simp [isDotSegment]

/-- The names can be encoded if no surrogate stands alone in them, wherever slashes cut the blob. -/
theorem isSome_encoded_iff {container : Text} {blob? : Option Text} :
    ((pathSegments container blob?).mapM Percent.encodeComponent?).isSome ↔
      container.isWellFormed ∧ ∀ blob ∈ blob?, blob.isWellFormed := by
  have slash : Text.isHighSurrogate (Text.unit '/') = false ∧
      Text.isLowSurrogate (Text.unit '/') = false := by decide
  rw [Text.isSome_mapM_iff]
  simp only [Percent.isSome_encodeComponent?_iff, pathSegments, List.forall_mem_cons]
  cases blob? with
  | none => simp
  | some blob =>
      simp only [Option.map_some, Option.getD_some, blobSegments,
        Text.forall_split_isWellFormed_iff slash.1 slash.2, Option.mem_some, forall_eq']

section Checks

variable {endpoint container : Text} {blob? : Option Text} {search : List (Text × Value)}

theorem uri_of_conditions
    (conditions : ∀ condition ∈ Condition.inOrder, condition.Holds endpoint container blob?)
    (parameters : ∀ entry ∈ search, IsParameter entry.2) :
    ∃ address,
      uri (.string endpoint) (.string container) (blobValue blob?) search = .ok address := by
  simp only [Condition.inOrder, List.forall_mem_cons, List.not_mem_nil, false_implies,
    implies_true, and_true, Condition.Holds] at conditions
  obtain ⟨⟨url, parsed⟩, supported, bare, named, someBlob, kept, encodable⟩ := conditions
  obtain ⟨pieces, encoded⟩ := Option.isSome_iff_exists.mp (isSome_encoded_iff.mpr encodable)
  obtain ⟨pairs, written⟩ := searchPairs_total parameters
  have suited := endpointProblem?_of_bare (supported url parsed) (bare url parsed)
  exact ⟨_, uri_eq_ok_iff.mpr ⟨url, pieces, pairs, parsed, suited,
    ⟨named, someBlob, any_isDotSegment_eq_false_iff.mpr kept⟩, encoded, written, rfl⟩⟩

theorem exists_suited_endpoint (parses : Condition.endpointParses.Holds endpoint container blob?)
    (supported : Condition.protocolSupported.Holds endpoint container blob?)
    (bare : Condition.endpointBare.Holds endpoint container blob?) :
    ∃ url, Url.ofText? endpoint = some url ∧ endpointProblem? url = none := by
  obtain ⟨url, parsed⟩ := parses
  exact ⟨url, parsed, endpointProblem?_of_bare (supported url parsed) (bare url parsed)⟩

theorem holds_of_parsed {url : Url} (parsed : Url.ofText? endpoint = some url)
    (supported : url.protocol = "https:".toList ∨ url.protocol = "http:".toList)
    (bare : url.search = [] ∧ url.hash = []) :
    Condition.endpointParses.Holds endpoint container blob? ∧
      Condition.protocolSupported.Holds endpoint container blob? ∧
      Condition.endpointBare.Holds endpoint container blob? := by
  have same : ∀ other, Url.ofText? endpoint = some other → url = other :=
    fun other reads => Option.some.inj (parsed.symm.trans reads)
  exact ⟨⟨url, parsed⟩, fun other reads => same other reads ▸ supported,
    fun other reads => same other reads ▸ bare⟩

/-- The first condition that does not hold is reported. -/
theorem uri_of_first_failing {condition : Condition}
    (passed : ∀ other ∈ condition.earlier, other.Holds endpoint container blob?)
    (fails : ¬ condition.Holds endpoint container blob?) (search : List (Text × Value)) :
    uri (.string endpoint) (.string container) (blobValue blob?) search =
      .failed (condition.report endpoint container) := by
  -- What the conditions on the endpoint come to for those that are looked at after them.
  have suited (parses : .endpointParses ∈ condition.earlier)
      (supported : .protocolSupported ∈ condition.earlier)
      (bare : .endpointBare ∈ condition.earlier) :=
    exists_suited_endpoint (passed _ parses) (passed _ supported) (passed _ bare)
  rw [uri_texts]
  cases condition with
  | endpointParses =>
      have unparsed : Url.ofText? endpoint = none :=
        Option.eq_none_iff_forall_ne_some.mpr fun url parsed => fails ⟨url, parsed⟩
      rw [unparsed]
      rfl
  | protocolSupported =>
      obtain ⟨url, parsed⟩ := passed .endpointParses (by decide)
      have unsupported := @endpointProblem?_of_protocol url fun supported =>
        fails fun other same => Option.some.inj (parsed.symm.trans same) ▸ supported
      have protocol : Condition.protocolOf endpoint = Text.ofChars url.protocol := by
        rw [Condition.protocolOf, parsed]
        rfl
      simp only [parsed, unsupported]
      rw [← protocol]
      rfl
  | endpointBare =>
      obtain ⟨url, parsed⟩ := passed .endpointParses (by decide)
      have supported := passed .protocolSupported (by decide) url parsed
      have query := endpointProblem?_of_query supported fun bare =>
        fails fun other same => Option.some.inj (parsed.symm.trans same) ▸ bare
      simp only [parsed, query]
      rfl
  | containerNamed =>
      obtain ⟨url, parsed, unproblematic⟩ := suited (by decide) (by decide) (by decide)
      have empty : container = [] := not_not.mp fails
      simp only [parsed, unproblematic, if_pos empty]
      rfl
  | blobNamed =>
      obtain ⟨url, parsed, unproblematic⟩ := suited (by decide) (by decide) (by decide)
      have named : container ≠ [] := passed .containerNamed (by decide)
      have empty : blob? = some [] := not_not.mp fails
      simp only [parsed, unproblematic, if_neg named, if_pos empty]
      rfl
  | segmentsKept =>
      obtain ⟨url, parsed, unproblematic⟩ := suited (by decide) (by decide) (by decide)
      have named : container ≠ [] := passed .containerNamed (by decide)
      have someBlob : blob? ≠ some [] := passed .blobNamed (by decide)
      have dots : (pathSegments container blob?).any isDotSegment = true := by
        rw [← Bool.not_eq_false, any_isDotSegment_eq_false_iff]
        exact fails
      simp only [parsed, unproblematic, if_neg named, if_neg someBlob, if_pos dots]
      rfl
  | namesEncodable =>
      obtain ⟨url, parsed, unproblematic⟩ := suited (by decide) (by decide) (by decide)
      have named : container ≠ [] := passed .containerNamed (by decide)
      have someBlob : blob? ≠ some [] := passed .blobNamed (by decide)
      have noDots := any_isDotSegment_eq_false_iff.mpr (passed .segmentsKept (by decide))
      have unencoded : (pathSegments container blob?).mapM Percent.encodeComponent? = none := by
        rw [← Option.not_isSome_iff_eq_none, isSome_encoded_iff]
        exact fails
      simp only [parsed, unproblematic, if_neg named, if_neg someBlob, noDots, unencoded,
        Bool.false_eq_true, if_false]
      rfl

theorem exists_first_failing {α : Type} [DecidableEq α] {items : List α} {P : α → Prop}
    (some : ¬ ∀ item ∈ items, P item) :
    ∃ item, (∀ other ∈ items.takeWhile (· != item), P other) ∧ ¬ P item := by
  induction items with
  | nil => exact absurd (fun item member => nomatch member) some
  | cons first items induction =>
      by_cases passes : P first
      · rw [List.forall_mem_cons, not_and] at some
        obtain ⟨item, passed, fails⟩ := induction (some passes)
        have other : first ≠ item := fun same => fails (same ▸ passes)
        have longer : (first :: items).takeWhile (· != item) =
            first :: items.takeWhile (· != item) :=
          List.takeWhile_cons_of_pos (bne_iff_ne.mpr other)
        refine ⟨item, ?_, fails⟩
        rw [longer, List.forall_mem_cons]
        exact ⟨passes, passed⟩
      · exact ⟨first, by simp, passes⟩

/-- There is an address if and only if all conditions hold.  Else the first that does not is
reported, and the report has a cause only if the reader of addresses or the encoder threw one.
Nothing is ever raised. -/
theorem uri_checked_in_order (endpoint container : Text) (blob? : Option Text)
    {search : List (Text × Value)} (parameters : ∀ entry ∈ search, IsParameter entry.2) :
    let outcome := uri (.string endpoint) (.string container) (blobValue blob?) search
    ((∃ address, outcome = .ok address) ↔
      ∀ condition ∈ Condition.inOrder, condition.Holds endpoint container blob?) ∧
    (∀ condition : Condition,
      (∀ other ∈ condition.earlier, other.Holds endpoint container blob?) →
      ¬ condition.Holds endpoint container blob? →
        outcome = .failed (condition.report endpoint container) ∧
        (condition.report endpoint container).cause = condition.ownError) ∧
    ∀ reason, outcome ≠ .raised reason := by
  intro outcome
  have reported (condition : Condition)
      (passed : ∀ other ∈ condition.earlier, other.Holds endpoint container blob?)
      (fails : ¬ condition.Holds endpoint container blob?) :
      outcome = .failed (condition.report endpoint container) :=
    uri_of_first_failing passed fails search
  refine ⟨⟨?_, fun conditions => uri_of_conditions conditions parameters⟩, ?_, ?_⟩
  · rintro ⟨address, made⟩
    by_contra failing
    obtain ⟨condition, passed, fails⟩ := exists_first_failing failing
    cases made.symm.trans (reported condition passed fails)
  · exact fun condition passed fails =>
      ⟨reported condition passed fails, condition.cause_report endpoint container⟩
  · intro reason raised
    by_cases conditions : ∀ condition ∈ Condition.inOrder, condition.Holds endpoint container blob?
    · obtain ⟨address, made⟩ := uri_of_conditions conditions parameters
      cases raised.symm.trans made
    · obtain ⟨condition, passed, fails⟩ := exists_first_failing conditions
      cases raised.symm.trans (reported condition passed fails)

/-- A name with a segment of one dot and a surrogate that stands alone. -/
def twiceSpoiledName : Text := Text.ofString "a/./b" ++ [0xD800]

def mixedSearch : List (Text × Value) :=
  [("timeout", .number (Number.ofInt 5)), ("deep", .boolean true), ("prefix", .string "a&b")]

/-- The segment is reported, not the surrogate. -/
theorem uri_checked_in_order_twice_spoiled :
    (∀ entry ∈ mixedSearch, IsParameter entry.2) ∧
      uri (.string "http://h:80/p//") (.string "c") (blobValue (some twiceSpoiledName))
          mixedSearch =
        .failed (Failure.constructUrl "error constructing URI, name has a . or .. segment"
          (.string "http://h:80/p//") none) := by
  have parameters : ∀ entry ∈ mixedSearch, IsParameter entry.2 := by
    simp [mixedSearch, IsParameter]
  have bare : ∃ url ∈ Url.ofText? "http://h:80/p//",
      url.protocol = "http:".toList ∧ url.search = [] ∧ url.hash = [] := by
    decide +kernel
  obtain ⟨url, parsed, protocol, search, hash⟩ := bare
  obtain ⟨parses, supported, bare⟩ :=
    @holds_of_parsed "http://h:80/p//" "c" (some twiceSpoiledName) url parsed (.inr protocol)
      ⟨search, hash⟩
  have listed : Condition.segmentsKept.earlier =
    [.endpointParses, .protocolSupported, .endpointBare, .containerNamed, .blobNamed] := rfl
  have passed : ∀ other ∈ Condition.segmentsKept.earlier,
      other.Holds "http://h:80/p//" "c" (some twiceSpoiledName) := by
    simp only [listed, List.forall_mem_cons, List.not_mem_nil, false_implies, implies_true,
      and_true]
    exact ⟨parses, supported, bare, List.cons_ne_nil _ _,
      fun empty => absurd (Option.some.inj empty) (by decide)⟩
  have fails : ¬ Condition.segmentsKept.Holds "http://h:80/p//" "c" (some twiceSpoiledName) :=
    fun kept => (kept "." (by decide +kernel)).1 rfl
  obtain ⟨-, reported, -⟩ :=
    uri_checked_in_order "http://h:80/p//" "c" (some twiceSpoiledName) parameters
  exact ⟨parameters, (reported .segmentsKept passed fails).1⟩

end Checks

end Resource

end BlobStorage
