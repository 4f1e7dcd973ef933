import BlobStorage.Proofs.BuilderAnswers
import BlobStorage.Proofs.SentRequest

/-!
# The identifiers that a delete sends

A lease and an identifier of the request are texts of the caller's choice, each with a header field
of its own.  The builder keeps them as they are.  On the way they lose the tabs and spaces at their
ends, as every value of a header field does, and nothing else.
-/

namespace BlobStorage

namespace Headers

theorem isEdgeBlank_iff_of_valid {value : Text} (valid : isValidValue value) {u : UInt16}
    (member : u ∈ value) : isEdgeBlank u = true ↔ u = 9 ∨ u = 32 := by
  have kept := List.all_eq_true.mp valid u member
  simp only [Bool.and_eq_true, bne_iff_ne] at kept
  simp [isEdgeBlank, kept.1.1.2, kept.1.2]

/-- A text without the tabs and spaces at its ends. -/
structure Unpadded (text sent : Text) : Prop where
  padded : ∃ before after, text = before ++ sent ++ after ∧ ∀ u ∈ before ++ after, u = 9 ∨ u = 32
  starts : ∀ u ∈ sent.head?, u ≠ 9 ∧ u ≠ 32
  ends : ∀ u ∈ sent.getLast?, u ≠ 9 ∧ u ≠ 32

theorem unpadded_normalizeValue {value : Text} (valid : isValidValue value) :
    Unpadded value (normalizeValue value) := by
  have visible : ∀ u, isEdgeBlank u = false → u ≠ 9 ∧ u ≠ 32 := by
    intro u seen
    simp only [isEdgeBlank, Bool.or_eq_false_iff, beq_eq_false_iff_ne] at seen
    exact ⟨seen.1.1.1, seen.2⟩
  constructor
  · obtain ⟨before, after, whole, blank⟩ := Text.exists_append_trim isEdgeBlank value
    refine ⟨before, after, whole, ?_⟩
    intro u member
    have within : u ∈ value := by
      rw [whole]
      simp only [List.mem_append] at member ⊢
      exact member.elim (fun first => .inl (.inl first)) .inr
    exact (isEdgeBlank_iff_of_valid valid within).mp (blank u member)
  · intro u first
    exact visible u (Text.head?_trim isEdgeBlank value u first)
  · intro u last
    exact visible u (Text.getLast?_trim isEdgeBlank value u last)

theorem normalizeValue_eq_self_iff {value : Text} (valid : isValidValue value) :
    normalizeValue value = value ↔
      (∀ u ∈ value.head?, u ≠ 9 ∧ u ≠ 32) ∧ ∀ u ∈ value.getLast?, u ≠ 9 ∧ u ≠ 32 := by
  have visible : ∀ u ∈ value, u ≠ 9 ∧ u ≠ 32 → isEdgeBlank u = false := by
    intro u member seen
    rw [Bool.eq_false_iff, ne_eq, isEdgeBlank_iff_of_valid valid member, not_or]
    exact seen
  constructor
  · intro same
    have unpadded := unpadded_normalizeValue valid
    rw [same] at unpadded
    exact ⟨unpadded.starts, unpadded.ends⟩
  · rintro ⟨starts, ends⟩
    apply Text.trim_eq_self
    · intro u first
      exact visible u (List.mem_of_mem_head? first) (starts u first)
    · intro u last
      exact visible u (List.mem_of_mem_getLast? last) (ends u last)

end Headers

namespace DeleteBlob

theorem toRequest_of_prepare {κ : Type} {builder : Builder κ} {endpoint : Text}
    {parameters : Parameters} {request : Request}
    (prepared : prepare builder endpoint = .ok (parameters, request)) :
    builder.toRequest (.string endpoint) = .ok request := by
  obtain ⟨held, resolved, further⟩ := Outcome.bind_eq_ok_iff.mp prepared
  obtain ⟨own, requested, paired⟩ := Outcome.bind_eq_ok_iff.mp further
  cases paired
  exact Outcome.bind_eq_ok_iff.mpr ⟨parameters, resolved, requested⟩

end DeleteBlob

theorem Traffic.exists_request_of_delete_sent {κ : Type} {traffic : Traffic} {client : Client}
    {builder : DeleteBlob.Builder κ} {caller : Option SignalId} {wire : WireRequest}
    (sent : (traffic.delete client builder caller).2.2 = some wire) :
    ∃ request, builder.toRequest (.string client.blobEndpoint) = .ok request := by
  unfold delete at sent
  cases prepared : DeleteBlob.prepare builder client.blobEndpoint with
  | failed failure =>
      rw [prepared] at sent
      cases sent
  | raised reason =>
      rw [prepared] at sent
      cases sent
  | ok made => exact ⟨made.2, DeleteBlob.toRequest_of_prepare prepared⟩

namespace DeleteBlob

/-- The parameters whose texts are of the caller's choice and are sent as header fields. -/
inductive Identifier where
  | lease
  | clientRequest

namespace Identifier

def field : Identifier → Field
  | lease => .leaseId
  | clientRequest => .clientRequestId

def header : Identifier → Text
  | lease => leaseHeader
  | clientRequest => clientRequestHeader

def valueIn (parameters : Parameters) : Identifier → Value
  | lease => parameters.leaseId
  | clientRequest => parameters.clientRequestId

variable {κ : Type} {builder next : Builder κ} {identifier : Identifier} {text : Text}

theorem isValidValue_of_set (accepted : builder.set identifier.field (.string text) = .ok next) :
    Headers.isValidValue text := by
  have declared : identifier.field.Declares (.string text) := by
    cases identifier <;> exact ⟨text, rfl⟩
  have known := Builder.accepts_of_set declared accepted
  cases identifier with
  | lease =>
      obtain ⟨own, same, valid⟩ := known
      exact Value.string.inj same ▸ valid
  | clientRequest =>
      obtain ⟨own, same, valid⟩ := known
      exact Value.string.inj same ▸ valid

theorem get_of_held (held : builder.value? identifier.field = some (.string text)) :
    builder.get identifier.field = .ok (.string text) := by
  cases identifier with
  | lease =>
      have leaseHeld : builder.value? .leaseId = some (.string text) := held
      simp [Builder.get, field, leaseHeld]
  | clientRequest =>
      have identifierHeld : builder.value? .clientRequestId = some (.string text) := held
      simp [Builder.get, field, identifierHeld]

theorem valueIn_of_held (held : builder.value? identifier.field = some (.string text)) :
    identifier.valueIn builder.heldParameters = .string text := by
  cases identifier with
  | lease =>
      have leaseHeld : builder.leaseId = some (.string text) := held
      simp [valueIn, Builder.heldParameters, leaseHeld]
  | clientRequest =>
      have identifierHeld : builder.clientRequestId = some (.string text) := held
      simp [valueIn, Builder.heldParameters, identifierHeld]

/-- The header field of an identifier is its text without the blanks at the ends, whichever fields
it is added to. -/
theorem get?_addHeaders {parameters : Parameters} {headers next : Headers}
    (held : identifier.valueIn parameters = .string text)
    (added : addHeaders parameters headers = .ok next) :
    next.get? identifier.header = some (Headers.normalizeValue text) := by
  obtain ⟨first, second, -, leaseSet, identifierSet⟩ := addHeaders_eq_ok_iff.mp added
  cases identifier with
  | lease =>
      have leased : parameters.leaseId = .string text := held
      rw [leased] at leaseSet
      have kept : next.get? leaseHeader = second.get? leaseHeader :=
        get?_setOptionalField_other identifierSet (by decide)
      exact kept.trans (get?_setField leaseSet)
  | clientRequest =>
      have identified : parameters.clientRequestId = .string text := held
      rw [identified] at identifierSet
      exact get?_setField identifierSet

end Identifier

theorem Builder.value?_setEach_of_last {κ : Type} {builder next : Builder κ} {field : Field}
    {value : Value} {later : List (Field × Value)} (accepted : builder.set field value = .ok next)
    (last : ∀ call ∈ next.taken later, call.1 ≠ field) :
    (next.setEach later).value? field = some value := by
  rw [value?_setAll (setAll_taken next later), lastValue?_eq_none_iff.mpr last,
    value?_set accepted, if_pos rfl, Option.none_or]

/-- An identifier that was accepted is kept as it is.  It is sent without the tabs and spaces at its
ends, whatever else the builder is told, and so as it is if and only if it has none there. -/
theorem identifier_is_sent_without_blanks {κ : Type} {builder next : Builder κ}
    {identifier : Identifier} {text : Text} {later : List (Field × Value)}
    (accepted : builder.set identifier.field (.string text) = .ok next)
    (last : ∀ call ∈ next.taken later, call.1 ≠ identifier.field) :
    (next.setEach later).get identifier.field = .ok (.string text) ∧
      (∀ endpoint request, (next.setEach later).toRequest endpoint = .ok request →
        request.headers.get? identifier.header = some (Headers.normalizeValue text)) ∧
      (∀ (traffic : Traffic) (client : Client) (caller : Option SignalId) (wire : WireRequest),
        (traffic.delete client (next.setEach later) caller).2.2 = some wire →
          wire.headers.get? identifier.header = some (Headers.normalizeValue text)) ∧
      Headers.Unpadded text (Headers.normalizeValue text) ∧
      (Headers.normalizeValue text = text ↔
        (∀ u ∈ text.head?, u ≠ 9 ∧ u ≠ 32) ∧ ∀ u ∈ text.getLast?, u ≠ 9 ∧ u ≠ 32) := by
  have valid := Identifier.isValidValue_of_set accepted
  have held := Builder.value?_setEach_of_last accepted last
  have described : ∀ endpoint request, (next.setEach later).toRequest endpoint = .ok request →
      request.headers.get? identifier.header = some (Headers.normalizeValue text) := by
    intro endpoint request requested
    obtain ⟨-, -, -, added⟩ := Builder.toRequest_eq_ok_iff.mp requested
    exact Identifier.get?_addHeaders (Identifier.valueIn_of_held held) added
  refine ⟨Identifier.get_of_held held, described, ?_, Headers.unpadded_normalizeValue valid,
    Headers.normalizeValue_eq_self_iff valid⟩
  intro traffic client caller wire sent
  obtain ⟨request, requested⟩ := Traffic.exists_request_of_delete_sent sent
  obtain ⟨-, -, -, below, -, overlay⟩ := Traffic.delete_sent requested sent
  rw [overlay, described _ _ requested, Option.some_or]

/-- A builder whose lease has a blank at either end. -/
def paddedBuilder : Builder Unit := { plainBuilder with leaseId := some (.string " lease 1\t") }

/-- Later calls, the first of which is refused. -/
def laterCalls : List (Field × Value) := [(.leaseId, .string "\n"), (.timeout, .number .zero)]

theorem padded_lease_is_sent_without_blanks :
    plainBuilder.set .leaseId (.string " lease 1\t") = .ok paddedBuilder ∧
      ∃ request wire,
        (paddedBuilder.setEach laterCalls).toRequest
          (.string (Client.ofConfig paddedConfig).blobEndpoint) = .ok request ∧
        ((Traffic.start .zero).delete (Client.ofConfig paddedConfig)
          (paddedBuilder.setEach laterCalls) none).2.2 = some wire ∧
        request.headers.get? leaseHeader = some "lease 1" ∧
        wire.headers.get? leaseHeader = some "lease 1" := by
  have accepted : plainBuilder.set Identifier.lease.field (.string " lease 1\t") =
      .ok paddedBuilder := by
    rfl
  have last : ∀ call ∈ paddedBuilder.taken laterCalls, call.1 ≠ Identifier.lease.field := by
    have counted : (paddedBuilder.taken laterCalls).map (·.1) = [.timeout] := by
      decide +kernel
    intro call member
    have among : call.1 ∈ [Field.timeout] := counted ▸ List.mem_map_of_mem member
    rw [List.mem_singleton.mp among]
    decide
  have described : ((paddedBuilder.setEach laterCalls).toRequest
      (.string (Client.ofConfig paddedConfig).blobEndpoint)).toOption.isSome := by
    decide +kernel
  have goes : ((Traffic.start .zero).delete (Client.ofConfig paddedConfig)
      (paddedBuilder.setEach laterCalls) none).2.2.isSome := by
    decide +kernel
  obtain ⟨request, requested⟩ := Option.isSome_iff_exists.mp described
  obtain ⟨wire, sent⟩ := Option.isSome_iff_exists.mp goes
  rw [Outcome.toOption_eq_some_iff] at requested
  obtain ⟨-, inRequest, onWire, -, -⟩ := identifier_is_sent_without_blanks accepted last
  have stripped : Headers.normalizeValue " lease 1\t" = "lease 1" := by
    decide
  rw [stripped] at inRequest onWire
  exact ⟨accepted, request, wire, requested, sent, inRequest _ _ requested, onWire _ _ _ _ sent⟩

/-- An identifier with a blank at either end is kept as it is, and sent as another text. -/
theorem padded_identifier_is_not_sent_as_it_is :
    ∃ next request,
      plainBuilder.set .clientRequestId (.string " trace-1 ") = .ok next ∧
      next.get .clientRequestId = .ok (.string " trace-1 ") ∧
      next.toRequest (.string (Client.ofConfig paddedConfig).blobEndpoint) = .ok request ∧
      request.headers.get? clientRequestHeader ≠ some " trace-1 " := by
  have accepted : plainBuilder.set .clientRequestId (.string " trace-1 ") =
      .ok { plainBuilder with clientRequestId := some (.string " trace-1 ") } := by
    rfl
  have made : ((Builder.toRequest
      { plainBuilder with clientRequestId := some (.string " trace-1 ") }
      (.string (Client.ofConfig paddedConfig).blobEndpoint)).toOption.map fun request =>
        request.headers.get? clientRequestHeader) = some (some (Text.ofString "trace-1")) := by
    decide +kernel
  obtain ⟨request, requested, sent⟩ := Option.map_eq_some_iff.mp made
  rw [Outcome.toOption_eq_some_iff] at requested
  refine ⟨_, request, accepted, rfl, requested, ?_⟩
  rw [sent]
  decide

end DeleteBlob

end BlobStorage
