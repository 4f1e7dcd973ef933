import BlobStorage.Proofs.TextPieces
import BlobStorage.Proofs.TextUnits
import BlobStorage.Resource.Uri

/-!
# When the address of a resource is made

On names that are texts, `Resource.uri` never raises: it gives an address or a failure of the class
for addresses.  The address that it gives is taken apart here once, into the endpoint, the encoded
segments and the query, so that later modules need not open the function again.
-/

namespace BlobStorage

namespace Outcome

def toOption {α : Type} : Outcome α → Option α
  | ok value => some value
  | failed _ | raised _ => none

theorem toOption_eq_some_iff {α : Type} {outcome : Outcome α} {value : α} :
    outcome.toOption = some value ↔ outcome = .ok value := by
  cases outcome <;> simp [toOption]

end Outcome

namespace Resource

def blobValue : Option Text → Value
  | some blob => .string blob
  | none => .undefined

/-- The segments that a container and an optional blob name stand for. -/
def pathSegments (container : Text) (blob? : Option Text) : List Text :=
  container :: (blob?.map blobSegments).getD []

/-- Why a resource below a parsed endpoint has no address, apart from its encoding. -/
def NamesAllowed (container : Text) (blob? : Option Text) : Prop :=
  container ≠ [] ∧ blob? ≠ some [] ∧
    (pathSegments container blob?).any isDotSegment = false

theorem nameSegments_texts (container : Text) (blob? : Option Text) :
    nameSegments (.string container) (blobValue blob?) =
      .ok (pathSegments container blob?) := by
  cases blob? <;> simp [nameSegments, blobValue, pathSegments]

theorem encodeName_string (name : Text) :
    encodeName (.string name) =
      match Percent.encodeComponent? name with
      | some encoded => .ok encoded
      | none => .error (Failure.ofPlatform .uriError) := rfl

private theorem mapM_encodeName (names : List Text) :
    (names.mapM fun name => encodeName (.string name)) =
      match names.mapM Percent.encodeComponent? with
      | some pieces => .ok pieces
      | none => .error (Failure.ofPlatform .uriError) := by
  induction names with
  | nil => rfl
  | cons name names induction =>
      rw [List.mapM_cons, List.mapM_cons, induction, encodeName_string]
      cases Percent.encodeComponent? name with
      | none => rfl
      | some encoded => cases names.mapM Percent.encodeComponent? <;> rfl

/-- Encoding goes segment by segment, and one surrogate that stands alone spoils it. -/
theorem encodeNames_texts (container : Text) (blob? : Option Text) :
    encodeNames (.string container) (blobValue blob?) =
      match (pathSegments container blob?).mapM Percent.encodeComponent? with
      | some pieces => .ok (Text.join "/" pieces)
      | none => .error (Failure.ofPlatform .uriError) := by
  cases blob? with
  | none =>
      simp only [encodeNames, blobValue, pathSegments, encodeName_string, Option.map_none,
        Option.getD_none, List.mapM_cons, List.mapM_nil]
      cases Percent.encodeComponent? container <;> rfl
  | some blob =>
      simp only [encodeNames, blobValue, pathSegments, Option.map_some, Option.getD_some]
      rw [mapM_encodeName, List.mapM_cons, encodeName_string]
      cases Percent.encodeComponent? container with
      | none => rfl
      | some first =>
          cases encoded : (blobSegments blob).mapM Percent.encodeComponent? with
          | none => rfl
          | some pieces =>
              cases pieces with
              | nil =>
                  have none : blobSegments blob = [] :=
                    List.forall₂_nil_right_iff.mp (Text.mapM_eq_some_iff.mp encoded)
                  exact absurd none (Text.split_ne_nil _ _)
              | cons piece pieces => rfl

theorem isEmptyText_blobValue (blob? : Option Text) :
    isEmptyText (blobValue blob?) = true ↔ blob? = some [] := by
  rcases blob? with - | - | ⟨first, rest⟩ <;> simp [blobValue, isEmptyText]

/-- The function on texts, with each of its conditions in its place. -/
theorem uri_texts (endpoint container : Text) (blob? : Option Text)
    (search : List (Text × Value)) :
    uri (.string endpoint) (.string container) (blobValue blob?) search =
      match Url.ofText? endpoint with
      | none => Problem.invalidEndpoint.report (.string endpoint)
      | some url =>
          match endpointProblem? url with
          | some problem => problem.report (.string endpoint)
          | none =>
              if container = [] then Problem.emptyContainer.report (.string endpoint)
              else if blob? = some [] then
                Problem.emptyBlob.report (.string (endpoint ++ "/" ++ container))
              else if (pathSegments container blob?).any isDotSegment then
                Problem.dotSegment.report (.string endpoint)
              else
                match (pathSegments container blob?).mapM Percent.encodeComponent? with
                | none =>
                    (Problem.unencodable (Failure.ofPlatform .uriError)).report (.string endpoint)
                | some pieces =>
                    (searchPairs search).map fun pairs =>
                      base url ++ "/" ++ Text.join "/" pieces ++ querySuffix pairs := by
  have parsed : endpointOf? (.string endpoint) = Url.ofText? endpoint := rfl
  have empty : (!(Value.string container).isTruthy) = true ↔ container = [] := by
    simp [Value.isTruthy]
  unfold uri
  rw [parsed, nameSegments_texts, encodeNames_texts]
  cases Url.ofText? endpoint with
  | none => rfl
  | some url =>
      dsimp only
      cases endpointProblem? url with
      | some problem => rfl
      | none =>
          simp only [empty, isEmptyText_blobValue, emptyBlobUrl, Value.toText?, Outcome.bind]
          cases (pathSegments container blob?).mapM Percent.encodeComponent? <;> rfl

theorem uri_eq_ok_iff {endpoint container : Text} {blob? : Option Text}
    {search : List (Text × Value)} {address : Text} :
    uri (.string endpoint) (.string container) (blobValue blob?) search = .ok address ↔
      ∃ url pieces pairs, Url.ofText? endpoint = some url ∧ endpointProblem? url = none ∧
        NamesAllowed container blob? ∧
        (pathSegments container blob?).mapM Percent.encodeComponent? = some pieces ∧
        searchPairs search = .ok pairs ∧
        address = base url ++ "/" ++ Text.join "/" pieces ++ querySuffix pairs := by
  rw [uri_texts]
  constructor
  · intro made
    split at made
    · cases made
    rename_i url parsed
    split at made
    · cases made
    rename_i suited
    split at made
    · cases made
    rename_i named
    split at made
    · cases made
    rename_i someBlob
    split at made
    · cases made
    rename_i noDots
    split at made
    · cases made
    rename_i pieces encoded
    obtain ⟨pairs, written, rfl⟩ := Outcome.map_eq_ok_iff.mp made
    exact ⟨url, pieces, pairs, parsed, suited, ⟨named, someBlob, by simpa using noDots⟩, encoded,
      written, rfl⟩
  · rintro ⟨url, pieces, pairs, parsed, suited, ⟨named, someBlob, noDots⟩, encoded, written, rfl⟩
    simp [parsed, suited, named, someBlob, noDots, encoded, written, Outcome.map]

theorem uri_total (endpoint container : Text) (blob? : Option Text)
    {search : List (Text × Value)} {pairs : List (Text × Text)}
    (written : searchPairs search = .ok pairs) :
    (∃ address, uri (.string endpoint) (.string container) (blobValue blob?) search =
        .ok address) ∨
      ∃ failure : Failure, failure.kind = .request .constructUrl ∧
        uri (.string endpoint) (.string container) (blobValue blob?) search =
          .failed failure := by
  have reported (problem : Problem) (text : Value) :
      ∃ failure : Failure, failure.kind = .request .constructUrl ∧
        (problem.report text : Outcome Text) = .failed failure := ⟨_, rfl, rfl⟩
  rw [uri_texts, written]
  split
  · exact .inr (reported _ _)
  split
  · exact .inr (reported _ _)
  split
  · exact .inr (reported _ _)
  split
  · exact .inr (reported _ _)
  split
  · exact .inr (reported _ _)
  split
  · exact .inr (reported _ _)
  · exact .inl ⟨_, rfl⟩

end Resource

end BlobStorage
