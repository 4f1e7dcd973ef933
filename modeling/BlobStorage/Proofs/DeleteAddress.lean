import BlobStorage.Proofs.DeleteRequest
import BlobStorage.Proofs.PercentReading
import BlobStorage.Proofs.SecondsText

/-!
# What the address of a delete says

The address of a delete is read back here: its path gives the container and the blob, and its query
gives the timeout.  So two deletes on one endpoint have the same address only if they name the same
container, the same blob and the same timeout.
-/

namespace BlobStorage

namespace Form

theorem encodeHalf_of_plain {characters : List Char}
    (plain : ∀ character ∈ characters, isPlain character) :
    encodeHalf characters = characters := by
  induction characters with
  | nil => rfl
  | cons character characters induction =>
      rw [encodeHalf, List.flatMap_cons, if_pos (plain character List.mem_cons_self)]
      exact congrArg _ (induction fun other member => plain other (List.mem_cons_of_mem _ member))

theorem isPlain_of_mem_toDigits {number : Nat} {digit : Char}
    (member : digit ∈ Nat.toDigits 10 number) : isPlain digit := by
  have isDigit := Nat.isDigit_of_mem_toDigits (by decide) (by decide) member
  simp only [Char.isDigit, Bool.and_eq_true, decide_eq_true_eq] at isDigit
  have inRange : '0' ≤ digit ∧ digit ≤ '9' := isDigit
  simp [isPlain, Percent.isAlphanumeric, inRange]

end Form

namespace Resource

theorem blobSegments_injective {left right : Text} (same : blobSegments left = blobSegments right) :
    left = right := by
  have joined := congrArg (Text.join [Text.unit '/']) same
  unfold blobSegments at joined
  rwa [Text.join_split, Text.join_split] at joined

end Resource

namespace DeleteBlob

def timeoutQuery : Option Nat → Text
  | some seconds => "?timeout=" ++ Text.ofNat seconds
  | none => []

theorem timeoutQuery_injective {left right : Option Nat}
    (same : timeoutQuery left = timeoutQuery right) : left = right := by
  cases left with
  | none =>
      cases right with
      | none => rfl
      | some seconds => cases same
  | some seconds =>
      cases right with
      | none => cases same
      | some others => exact congrArg some (Text.ofNat_injective (List.append_cancel_left same))

theorem querySuffix_seconds (seconds : Nat) :
    Resource.querySuffix [("timeout", Text.ofNat seconds)] =
      timeoutQuery (some seconds) := by
  have digits : Form.encodeHalf (Text.toCharsLossy (Text.ofNat seconds)) =
      Nat.toDigits 10 seconds := by
    rw [Text.toCharsLossy_ofNat]
    apply Form.encodeHalf_of_plain
    intro digit member
    exact Form.isPlain_of_mem_toDigits member
  have name : Text.ofChars (Form.encodeHalf (Text.toCharsLossy "timeout")) = "timeout" := by
    decide +kernel
  simp only [Resource.querySuffix, Form.encode, List.map_cons, List.map_nil, Text.join, name,
    digits, Text.ofChars_toDigits, timeoutQuery]
  rfl

namespace Builder

variable {κ : Type} {builder : Builder κ}

/-- The builder holds these names, and its timeout was accepted if one was set. -/
structure Named (builder : Builder κ) (container blob : Text) : Prop where
  containerName : builder.containerName = some (.string container)
  blobName : builder.blobName = some (.string blob)
  timeout : ∀ value, builder.timeout = some value → isSeconds value

/-- The integer that the timeout of a builder is. -/
def seconds? (builder : Builder κ) : Option Int :=
  builder.timeout.bind fun value =>
    match value with
    | .number number => number.toInt?
    | _ => none

theorem seconds?_of_isSeconds {value : Value} (set : builder.timeout = some value)
    (accepted : isSeconds value) :
    ∃ seconds : Nat, builder.seconds? = some (seconds : Int) ∧
      Resource.searchPairs [("timeout", value)] =
        .ok [("timeout", Text.ofNat seconds)] := by
  cases value with
  | number number =>
      simp only [isSeconds, Bool.and_eq_true, Bool.not_eq_true'] at accepted
      obtain ⟨seconds, whole, text⟩ :=
        Number.exists_nat_of_isSeconds accepted.1 accepted.2
      refine ⟨seconds, by simp [seconds?, set, whole], ?_⟩
      rw [← text]
      rfl
  | _ => cases accepted

theorem toRequest_uri {container blob endpoint : Text} {request : Request}
    (named : builder.Named container blob)
    (requested : builder.toRequest (.string endpoint) = .ok request) :
    ∃ url pieces seconds?, Url.ofText? endpoint = some url ∧
      (container :: Resource.blobSegments blob).mapM Percent.encodeComponent? = some pieces ∧
      builder.seconds? = Option.map Int.ofNat seconds? ∧
      builder.timeout.isSome = seconds?.isSome ∧
      request.uri =
        Resource.base url ++ "/" ++ (Text.join "/" pieces ++ timeoutQuery seconds?) := by
  obtain ⟨-, -, addressed, -⟩ := toRequest_eq_ok_iff.mp requested
  have held : uri (.string endpoint) builder.heldParameters =
      Resource.uri (.string endpoint) (.string container) (Resource.blobValue (some blob))
        [("timeout", builder.timeout.getD .undefined)] := by
    simp [uri, heldParameters, named.containerName, named.blobName, Resource.blobValue]
  rw [held, Resource.uri_eq_ok_iff] at addressed
  obtain ⟨url, pieces, pairs, parsed, -, -, encoded, written, address⟩ := addressed
  refine ⟨url, pieces, ?_⟩
  cases set : builder.timeout with
  | none =>
      rw [set] at written
      cases written
      refine ⟨none, parsed, encoded, by simp [seconds?, set], rfl, ?_⟩
      rw [address, List.append_assoc]
      rfl
  | some value =>
      obtain ⟨seconds, whole, pairsEq⟩ := seconds?_of_isSeconds set (named.timeout value set)
      rw [set, Option.getD_some, pairsEq] at written
      cases written
      refine ⟨some seconds, parsed, encoded, whole, rfl, ?_⟩
      rw [address, querySuffix_seconds, List.append_assoc]

section ReadBack

variable {names pieces : List Text}

theorem unit_not_mem_pieces (encoded : names.mapM Percent.encodeComponent? = some pieces)
    {mark : Char} (basic : mark.toNat < 0xD800) (noMark : mark ≠ '%')
    (notPlain : Percent.isComponentPlain mark = false) :
    ∀ piece ∈ pieces, Text.unit mark ∉ piece := by
  have eachWritten := Text.mapM_eq_some_iff.mp encoded
  clear encoded
  induction eachWritten with
  | nil => simp
  | cons written rest induction =>
      rw [List.forall_mem_cons]
      exact ⟨Percent.unit_not_mem_encodeComponent? written basic noMark notPlain, induction⟩

theorem mapM_decodeComponent? (encoded : names.mapM Percent.encodeComponent? = some pieces) :
    pieces.mapM Percent.decodeComponent? = some names := by
  rw [Text.mapM_eq_some_iff] at encoded ⊢
  exact encoded.flip.imp fun name piece written =>
    Percent.decodeComponent?_encodeComponent? written

theorem split_join_pieces (named : names ≠ [])
    (encoded : names.mapM Percent.encodeComponent? = some pieces) :
    Text.split (Text.unit '/') (Text.join "/" pieces) = pieces := by
  apply Text.split_join
  · rintro rfl
    exact named (List.forall₂_nil_right_iff.mp (Text.mapM_eq_some_iff.mp encoded))
  · exact unit_not_mem_pieces encoded (by decide) (by decide) (by decide)

/-- The only question mark is the one before the timeout. -/
theorem questionMark_not_mem_join (encoded : names.mapM Percent.encodeComponent? = some pieces) :
    Text.unit '?' ∉ Text.join "/" pieces := by
  intro member
  rcases Text.mem_join member with inSlash | ⟨piece, isPiece, inside⟩
  · exact absurd inSlash (by decide)
  · exact unit_not_mem_pieces encoded (by decide) (by decide) (by decide) piece isPiece inside

theorem withoutQuery_join_append
    (encoded : names.mapM Percent.encodeComponent? = some pieces) (seconds? : Option Nat) :
    Resource.withoutQuery (Text.join "/" pieces ++ timeoutQuery seconds?) =
      Text.join "/" pieces := by
  have noMark := questionMark_not_mem_join encoded
  have stops : (timeoutQuery seconds?).takeWhile (· != Text.unit '?') = [] := by
    cases seconds? <;> rfl
  unfold Resource.withoutQuery
  rw [List.takeWhile_append_of_pos, stops, List.append_nil]
  intro u member
  rw [bne_iff_ne]
  rintro rfl
  exact noMark member

/-- What stands behind the endpoint tells the names and the timeout. -/
theorem parts_eq_of_rest_eq {others otherPieces : List Text} {seconds? otherSeconds? : Option Nat}
    (named : names ≠ []) (otherNamed : others ≠ [])
    (encoded : names.mapM Percent.encodeComponent? = some pieces)
    (otherEncoded : others.mapM Percent.encodeComponent? = some otherPieces)
    (same : Text.join "/" pieces ++ timeoutQuery seconds? =
      Text.join "/" otherPieces ++ timeoutQuery otherSeconds?) :
    names = others ∧ seconds? = otherSeconds? := by
  have samePaths := congrArg Resource.withoutQuery same
  rw [withoutQuery_join_append encoded, withoutQuery_join_append otherEncoded] at samePaths
  constructor
  · have samePieces := congrArg (Text.split (Text.unit '/')) samePaths
    rw [split_join_pieces named encoded, split_join_pieces otherNamed otherEncoded] at samePieces
    apply Option.some.inj
    rw [← mapM_decodeComponent? encoded, samePieces, mapM_decodeComponent? otherEncoded]
  · rw [samePaths] at same
    exact timeoutQuery_injective (List.append_cancel_left same)

end ReadBack

/-- The address of a delete gives back the names and the timeout that it was made of, piece by
piece, so that deletes on one endpoint share an address only if they agree in all three. -/
theorem toRequest_uri_read_back {container blob endpoint : Text} {request : Request}
    (named : builder.Named container blob)
    (requested : builder.toRequest (.string endpoint) = .ok request) :
    (∃ url rest, Url.ofText? endpoint = some url ∧
        request.uri = Resource.base url ++ "/" ++ rest ∧
        (Text.split (Text.unit '/') (Resource.withoutQuery rest)).mapM Percent.decodeComponent? =
          some (container :: Text.split (Text.unit '/') blob) ∧
        (Text.unit '?' ∈ rest ↔ builder.timeout.isSome) ∧
        (builder.timeout.isSome → ∃ seconds : Nat, builder.seconds? = some (seconds : Int) ∧
          rest = Resource.withoutQuery rest ++ "?" ++ ("timeout=" ++ Text.ofNat seconds))) ∧
      ∀ {κ' : Type} {other : Builder κ'} {otherContainer otherBlob : Text}
        {otherRequest : Request}, other.Named otherContainer otherBlob →
        other.toRequest (.string endpoint) = .ok otherRequest →
        (request.uri = otherRequest.uri ↔
          container = otherContainer ∧ blob = otherBlob ∧ builder.seconds? = other.seconds?) := by
  obtain ⟨url, pieces, seconds?, parsed, encoded, whole, timed, address⟩ :=
    toRequest_uri named requested
  constructor
  · refine ⟨url, _, parsed, address, ?_, ?_, ?_⟩
    · rw [withoutQuery_join_append encoded, split_join_pieces (List.cons_ne_nil _ _) encoded]
      exact mapM_decodeComponent? encoded
    · rw [List.mem_append, timed]
      have noMark := questionMark_not_mem_join encoded
      cases seconds? with
      | none => simpa [timeoutQuery] using noMark
      | some seconds => exact ⟨fun _ => rfl, fun _ => .inr List.mem_cons_self⟩
    · intro set
      rw [timed] at set
      obtain ⟨seconds, rfl⟩ := Option.isSome_iff_exists.mp set
      refine ⟨seconds, whole, ?_⟩
      rw [withoutQuery_join_append encoded, List.append_assoc]
      rfl
  · intro κ' other otherContainer otherBlob otherRequest otherNamed otherRequested
    obtain ⟨otherUrl, otherPieces, otherSeconds?, otherParsed, otherEncoded, otherWhole, -,
      otherAddress⟩ := toRequest_uri otherNamed otherRequested
    obtain rfl := Option.some.inj (parsed.symm.trans otherParsed)
    constructor
    · intro same
      -- Equal addresses are cut at the same slashes, and each piece is decoded.
      rw [address, otherAddress] at same
      obtain ⟨sameNames, sameTimeouts⟩ := parts_eq_of_rest_eq (List.cons_ne_nil _ _)
        (List.cons_ne_nil _ _) encoded otherEncoded (List.append_cancel_left same)
      obtain ⟨sameContainer, sameSegments⟩ := List.cons.inj sameNames
      exact ⟨sameContainer, Resource.blobSegments_injective sameSegments,
        by rw [whole, otherWhole, sameTimeouts]⟩
    · rintro ⟨rfl, rfl, sameSeconds⟩
      obtain rfl := Option.some.inj (encoded.symm.trans otherEncoded)
      have same : seconds? = otherSeconds? := by
        apply Option.map_injective (fun _ _ => Int.ofNat.inj)
        rw [← whole, ← otherWhole, sameSeconds]
      rw [address, otherAddress, same]

/-- Names and a timeout that try to blur the borders between the pieces. -/
def quotedBuilder : Builder Unit where
  client := ()
  containerName := some (.string "a/b")
  blobName := some (.string "c%2F?timeout=5/é/")
  deleteSnapshotsMethod := some .withBlob
  timeout := some (.number (Number.ofInt 30))

/-- The same text cut at another slash. -/
def recutBuilder : Builder Unit where
  client := ()
  containerName := some (.string "a")
  blobName := some (.string "b/c%2F?timeout=5/é/")
  deleteSnapshotsMethod := some .withBlob
  timeout := some (.number (Number.ofInt 30))

def quotedEndpoint : Text := "http://127.0.0.1:10000/account1//"

def quotedAddress : Text :=
  "http://127.0.0.1:10000/account1/a%2Fb/c%252F%3Ftimeout%3D5/%C3%A9/?timeout=30"

theorem toRequest_uri_read_back_quoted :
    ∃ request otherRequest,
      quotedBuilder.toRequest (.string quotedEndpoint) = .ok request ∧
      recutBuilder.toRequest (.string quotedEndpoint) = .ok otherRequest ∧
      request.uri = quotedAddress ∧ request.uri ≠ otherRequest.uri := by
  have named : quotedBuilder.Named "a/b" "c%2F?timeout=5/é/" :=
    ⟨rfl, rfl, by rintro value ⟨⟩; decide +kernel⟩
  have otherNamed : recutBuilder.Named "a" "b/c%2F?timeout=5/é/" :=
    ⟨rfl, rfl, by rintro value ⟨⟩; decide +kernel⟩
  have made : (quotedBuilder.toRequest (.string quotedEndpoint)).toOption.map Request.uri =
      some quotedAddress := by
    decide +kernel
  have otherMade : (recutBuilder.toRequest (.string quotedEndpoint)).toOption.isSome := by
    decide +kernel
  obtain ⟨request, requested, address⟩ := Option.map_eq_some_iff.mp made
  obtain ⟨otherRequest, otherRequested⟩ := Option.isSome_iff_exists.mp otherMade
  rw [Outcome.toOption_eq_some_iff] at requested otherRequested
  refine ⟨request, otherRequest, requested, otherRequested, address, ?_⟩
  intro same
  have agree := ((toRequest_uri_read_back named requested).2 otherNamed otherRequested).mp same
  exact absurd agree.1 (by decide)

end Builder

end DeleteBlob

end BlobStorage
