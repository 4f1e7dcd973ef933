import BlobStorage.Proofs.CauseChain
import BlobStorage.Proofs.MissingParameter
import BlobStorage.Proofs.ReportedFailures
import BlobStorage.Proofs.ResourceConditions

/-!
# Telling the failures of a delete apart

A failure counts as one of a class if it belongs to it, bears its name, or has a message that starts
with that name; the causes of a failure are asked too.  Messages of this library start with a small
letter and names of classes with a capital one, so no text of a caller or of a service that is part
of a message makes a failure count as one of another class (`delete_failure_counts_once`).
-/

namespace BlobStorage

/-- No name of a class of this library starts a text. -/
def Text.NamesNoClass (text : Text) : Prop :=
  ∀ which : RequestClass, which.name.isPrefixOf text = false

/-- A message that starts with a small letter starts with no name of a class. -/
theorem Text.namesNoClass_of_head? {text : Text} (small : text.head? = some (Text.unit 'e')) :
    text.NamesNoClass := by
  intro which
  cases text with
  | nil => cases small
  | cons first rest =>
      obtain rfl := Option.some.inj small
      cases which <;> rfl

theorem RequestClass.name_injective {first second : RequestClass}
    (same : first.name = second.name) : first = second := by
  revert same
  cases first <;> cases second <;> decide

theorem PlatformClass.name_ne (platform : PlatformClass) (which : RequestClass) :
    platform.name ≠ which.name := by
  cases platform <;> cases which <;> decide

/-- The classes of the failures that a delete reports. -/
def RequestClass.ofDelete : List RequestClass :=
  [.missingParameter, .constructUrl, .transport, .unexpectedStatus, .responseParse]

namespace Value

/-- A value and its causes with the messages of the platform's own, as the platform words them for
each class. -/
def worded (wording : ErrorClass → Text) : Value → Value
  | failure ⟨kind, name, message, some cause, detail⟩ =>
      failure ⟨kind, name, some (message.getD (.string (wording kind))),
        some (cause.worded wording), detail⟩
  | failure ⟨kind, name, message, none, detail⟩ =>
      failure ⟨kind, name, some (message.getD (.string (wording kind))), none, detail⟩
  | value => value

end Value

namespace Failure

def worded (wording : ErrorClass → Text) (failure : Failure) : Failure :=
  { failure with
    message := some (failure.message.getD (.string (wording failure.kind)))
    cause := failure.cause.map (Value.worded wording) }

variable {wording : ErrorClass → Text} {failure : Failure} {own target : RequestClass}

theorem value_worded :
    (Value.failure failure).worded wording = .failure (failure.worded wording) := by
  obtain ⟨kind, name, message, cause, detail⟩ := failure
  cases cause <;> rfl

theorem counts_of_kind (kind : failure.kind = .request own) : failure.counts (.request own) := by
  simp [counts, ErrorClass.isA, kind]

/-- The guard of its own class finds a failure itself, whatever its causes are. -/
theorem found_of_kind (kind : failure.kind = .request own) :
    (Value.failure failure).isErrorOf (.request own) = true ∧
      (Value.failure failure).unwrap? (.request own) = some failure ∧
      (Value.failure failure).unwrapDepth? (.request own) = some 0 := by
  have counted := counts_of_kind kind
  simp [Value.isErrorOf, Value.unwrap?, Value.unwrapDepth?, causes_eq, List.findIdx?_cons, counted]

theorem isErrorOf_eq_false {target : ErrorClass} (uncounted : failure.counts target = false)
    (below : ∀ cause ∈ failure.cause, cause.isErrorOf target = false) :
    (Value.failure failure).isErrorOf target = false := by
  rw [Value.isErrorOf, Value.unwrap?, causes_eq, List.find?_cons_of_neg (by simp [uncounted])]
  cases cause : failure.cause with
  | none => rfl
  | some value => exact below value cause

/-- A failure of a class of this library, with the name of the class and a message that starts with
no such name. -/
structure Plain (own : RequestClass) (failure : Failure) : Prop where
  kind : failure.kind = .request own
  name : failure.name = .string own.name
  message : ∃ text, failure.message = some (.string text) ∧ text.NamesNoClass

namespace Plain

theorem worded (plain : failure.Plain own) : (failure.worded wording).Plain own where
  kind := plain.kind
  name := plain.name
  message := by
    obtain ⟨text, message, names⟩ := plain.message
    exact ⟨text, by simp [Failure.worded, message], names⟩

theorem counts_eq_false (plain : failure.Plain own) (other : target ≠ own) :
    failure.counts (.request target) = false := by
  obtain ⟨text, message, names⟩ := plain.message
  have unnamed : own.name ≠ target.name := fun same => other (RequestClass.name_injective same).symm
  have unrelated : own ≠ target := Ne.symm other
  simp [counts, ErrorClass.isA, isNamed, messageStartsWith, plain.kind, plain.name, message,
    ErrorClass.name, unnamed, unrelated, names target]

end Plain

theorem counts_ofPlatform (which : PlatformClass) (plain : (wording (.platform which)).NamesNoClass)
    (named : (ErrorClass.platform which).instanceName = which.name) :
    ((ofPlatform which).worded wording).counts (.request target) = false := by
  have unnamed := which.name_ne target
  simp [counts, ErrorClass.isA, isNamed, messageStartsWith, Failure.worded, ofPlatform,
    Failure.plain, named, ErrorClass.name, unnamed, plain target]

end Failure

namespace DeleteBlob

namespace Reported

variable {wording : ErrorClass → Text} {own : RequestClass} {failure : Failure}

theorem kind_eq (reported : Reported own failure) : failure.kind = .request own := by
  cases reported <;> rfl

theorem mem_ofDelete (reported : Reported own failure) : own ∈ RequestClass.ofDelete := by
  cases reported <;> decide

/-- The messages of a delete, texts of callers and of the service included, start with no name of a
class. -/
theorem plain (reported : Reported own failure) (other : own ≠ .transport) : failure.Plain own := by
  cases reported with
  | missing field => exact ⟨rfl, rfl, _, rfl, Text.namesNoClass_of_head? rfl⟩
  | @address problem url worded =>
      refine ⟨rfl, rfl, _, rfl, Text.namesNoClass_of_head? ?_⟩
      cases problem <;> rfl
  | exchange => exact absurd rfl other
  | status => exact ⟨rfl, rfl, _, rfl, Text.namesNoClass_of_head? rfl⟩
  | response => exact ⟨rfl, rfl, _, rfl, Text.namesNoClass_of_head? rfl⟩

theorem plain_invalid {issues : Value} {invalid : Failure}
    (listed : Failure.validation? Validation.invalidData issues none = some invalid) :
    invalid.Plain .validation ∧ invalid.cause = none := by
  obtain ⟨text, written, rfl⟩ := Option.map_eq_some_iff.mp listed
  obtain ⟨rest, -, rfl⟩ := Option.map_eq_some_iff.mp written
  exact ⟨⟨rfl, rfl, _, rfl, Text.namesNoClass_of_head? rfl⟩, rfl⟩

/-- The cause of a failure that is none of the transport counts as no failure of a delete. -/
theorem cause_uncounted (reported : Reported own failure) (other : own ≠ .transport)
    (typeError : (wording (.platform .typeError)).NamesNoClass)
    (uriError : (wording (.platform .uriError)).NamesNoClass) {target : RequestClass}
    (among : target ∈ RequestClass.ofDelete) :
    ∀ cause ∈ (failure.worded wording).cause, cause.isErrorOf (.request target) = false := by
  have platform : ∀ which : PlatformClass, (wording (.platform which)).NamesNoClass →
      (ErrorClass.platform which).instanceName = which.name →
      ((Value.failure (Failure.ofPlatform which)).worded wording).isErrorOf (.request target) =
        false := by
    intro which plain named
    rw [Failure.value_worded]
    exact Failure.isErrorOf_eq_false (Failure.counts_ofPlatform which plain named) (by rintro _ ⟨⟩)
  cases reported with
  | missing field => rintro _ ⟨⟩
  | @address problem url worded =>
      intro cause own
      obtain ⟨unworded, present, rfl⟩ := Option.map_eq_some_iff.mp own
      rcases worded unworded present with rfl | rfl
      · exact platform .typeError typeError rfl
      · exact platform .uriError uriError rfl
  | exchange => exact absurd rfl other
  | status => rintro _ ⟨⟩
  | response listed =>
      obtain ⟨plain, alone⟩ := plain_invalid listed
      rintro _ ⟨⟩
      rw [Failure.value_worded]
      refine Failure.isErrorOf_eq_false (plain.worded.counts_eq_false ?_) ?_
      · rintro rfl
        exact absurd among (by decide)
      · simp [Failure.worded, alone]

end Reported

/-- A failure that the delete of a client ends with is found by the guard of its own class, which
gives this failure itself; and if it is none of the transport, no other guard finds anything in it,
whatever the texts of its message and of its cause are.  The platform's own messages are assumed to
start with no name of a class. -/
theorem delete_failure_counts_once {κ : Type} {wording : ErrorClass → Text}
    (typeError : (wording (.platform .typeError)).NamesNoClass)
    (uriError : (wording (.platform .uriError)).NamesNoClass) (before : History) (client : Client)
    (builder : Builder κ) (caller : Option SignalId) (later : List (Event κ)) {failure : Failure}
    (ended : (before.run (.delete client builder caller :: later)).traffic.stage?
      before.traffic.calls.length = some (.deleted (.failed failure))) :
    ∃ own ∈ RequestClass.ofDelete, failure.kind = .request own ∧
      (Value.failure (failure.worded wording)).isErrorOf (.request own) = true ∧
      (Value.failure (failure.worded wording)).unwrap? (.request own) =
        some (failure.worded wording) ∧
      (Value.failure (failure.worded wording)).unwrapDepth? (.request own) = some 0 ∧
      (own ≠ .transport → ∀ other ∈ RequestClass.ofDelete, other ≠ own →
        (Value.failure (failure.worded wording)).isErrorOf (.request other) = false) := by
  obtain ⟨own, reported⟩ := reportable_of_deleted before client builder caller later ended
  have kind : (failure.worded wording).kind = .request own := reported.kind_eq
  obtain ⟨found, unwrapped, depth⟩ := Failure.found_of_kind kind
  refine ⟨own, reported.mem_ofDelete, reported.kind_eq, found, unwrapped, depth, ?_⟩
  intro untransported other among different
  refine Failure.isErrorOf_eq_false ?_ ?_
  · exact (reported.plain untransported).worded.counts_eq_false different
  · exact reported.cause_uncounted untransported typeError uriError among

/-- A name that starts like a class, with a surrogate that stands alone. -/
def misleadingName : Text := Text.ofString "TransportError: " ++ [0xD800]

def misleadingBuilder : Builder Unit where
  client := ()
  containerName := some (.string "MissingParameterError")
  blobName := some (.string misleadingName)
  deleteSnapshotsMethod := some .withBlob

/-- Messages that a platform has for an address that it cannot read, and for a name that it cannot
encode. -/
def sampleWording : ErrorClass → Text
  | .platform .typeError => "Invalid URL"
  | _ => "URI malformed"

def sampleAddress : Text := "https://account1.blob.core.windows.net"

def misleadingFailure : Failure :=
  Resource.Condition.namesEncodable.report sampleAddress "MissingParameterError"

theorem prepare_of_unbuilt {κ : Type} {builder : Builder κ} {endpoint : Text} {failure : Failure}
    (resolved : builder.unresolved? = none)
    (unbuilt : uri (.string endpoint) builder.heldParameters = .failed failure) :
    prepare builder endpoint = .failed failure := by
  unfold prepare request
  rw [Builder.resolve_of_resolved resolved]
  simp only [bind, Outcome.bind, unbuilt]

theorem prepare_misleadingBuilder :
    prepare misleadingBuilder sampleAddress = .failed misleadingFailure := by
  have bare : ∃ url ∈ Url.ofText? sampleAddress,
      url.protocol = "https:".toList ∧ url.search = [] ∧ url.hash = [] := by
    decide +kernel
  obtain ⟨url, parsed, protocol, search, hash⟩ := bare
  obtain ⟨parses, supported, bare⟩ := @Resource.holds_of_parsed sampleAddress
    "MissingParameterError" (some misleadingName) url parsed (.inl protocol) ⟨search, hash⟩
  have kept : ∀ segment ∈ Resource.pathSegments "MissingParameterError" (some misleadingName),
      segment ≠ "." ∧ segment ≠ ".." := by
    decide +kernel
  have listed : Resource.Condition.namesEncodable.earlier = [.endpointParses, .protocolSupported,
    .endpointBare, .containerNamed, .blobNamed, .segmentsKept] := rfl
  have passed : ∀ other ∈ Resource.Condition.namesEncodable.earlier,
      other.Holds sampleAddress "MissingParameterError" (some misleadingName) := by
    simp only [listed, List.forall_mem_cons, List.not_mem_nil, false_implies, implies_true,
      and_true]
    exact ⟨parses, supported, bare, List.cons_ne_nil _ _,
      fun empty => absurd (Option.some.inj empty) (by decide), kept⟩
  have fails : ¬ Resource.Condition.namesEncodable.Holds sampleAddress "MissingParameterError"
      (some misleadingName) :=
    fun encodable => absurd (encodable.2 _ rfl) (by decide +kernel)
  have unbuilt : uri (.string sampleAddress) misleadingBuilder.heldParameters =
      .failed misleadingFailure :=
    Resource.uri_of_first_failing passed fails [("timeout", .undefined)]
  exact prepare_of_unbuilt rfl unbuilt

/-- The name is not taken for the class of the failure, nor is the platform's error below it. -/
theorem delete_failure_counts_once_misleading :
    ((History.start .zero).run
        [.delete (Client.ofConfig sampleConfig) misleadingBuilder none]).traffic.stage? 0 =
      some (.deleted (.failed misleadingFailure)) ∧
    (Value.failure (misleadingFailure.worded sampleWording)).unwrap? (.request .constructUrl) =
      some (misleadingFailure.worded sampleWording) ∧
    (Value.failure (misleadingFailure.worded sampleWording)).isErrorOf (.request .transport) =
      false := by
  have address : (Client.ofConfig sampleConfig).blobEndpoint = sampleAddress := by decide +kernel
  have ended : ((History.start .zero).run
      [.delete (Client.ofConfig sampleConfig) misleadingBuilder none]).traffic.stage? 0 =
        some (.deleted (.failed misleadingFailure)) := by
    simp only [History.run, List.foldl_cons, List.foldl_nil, History.step, Traffic.after,
      Traffic.delete, address, prepare_misleadingBuilder]
    exact stage?_add (Traffic.start .zero) (Traffic.start .zero).world _
  obtain ⟨own, -, kind, -, found, -, others⟩ :=
    @delete_failure_counts_once Unit sampleWording (fun which => by cases which <;> rfl)
      (fun which => by cases which <;> rfl) (History.start .zero) (Client.ofConfig sampleConfig)
      misleadingBuilder none [] _ ended
  obtain rfl : RequestClass.constructUrl = own := ErrorClass.request.inj kind
  exact ⟨ended, found, others (by decide) .transport (by decide) (by decide)⟩

end DeleteBlob

end BlobStorage
