import BlobStorage.Lease
import BlobStorage.Proofs.FieldValues
import BlobStorage.Proofs.ReaderMeaning
import BlobStorage.Proofs.TextPieces

/-!
# Tokens of leases

A token is read as it stands, and of anything else a failure says that it is none.  The units of a
token are hexadecimal digits and hyphens, so it can be sent and loses nothing on the way: whichever
builder takes it, the field of the lease is the token until another lease is set.
-/

namespace BlobStorage

namespace Lease

/-- Five groups of hexadecimal digits, with a hyphen between each two neighbours. -/
structure Grouped (text : Text) (groups : List Text) : Prop where
  joined : text = Text.join "-" groups
  lengths : groups.map List.length = [8, 4, 4, 4, 12]
  digits : ∀ group ∈ groups, ∀ u ∈ group, Text.isHexDigit u

/-- A hexadecimal digit is no hyphen, and can stand anywhere in the value of a field. -/
theorem unit_of_isHexDigit {u : UInt16} (digit : Text.isHexDigit u) :
    u ≠ Text.unit '-' ∧ Headers.isValidValue [u] ∧ Headers.isEdgeBlank u = false := by
  have every : ∀ n < 128, Text.isHexDigit (UInt16.ofNat n) →
      UInt16.ofNat n ≠ Text.unit '-' ∧ Headers.isValidValue [UInt16.ofNat n] ∧
        Headers.isEdgeBlank (UInt16.ofNat n) = false := by
    decide +kernel
  have small : u.toNat < 128 := by
    simp [Text.isHexDigit, Text.isDigit, Text.unit, UInt16.le_iff_toNat_le] at digit
    omega
  have own := every u.toNat small
  rw [UInt16.ofNat_toNat] at own
  exact own digit

theorem isToken_iff {text : Text} : isToken text ↔ ∃ groups, Grouped text groups := by
  simp only [isToken, Bool.and_eq_true, beq_iff_eq, List.all_eq_true]
  constructor
  · rintro ⟨lengths, digits⟩
    exact ⟨_, (Text.join_split (Text.unit '-') text).symm, lengths, digits⟩
  · rintro ⟨groups, rfl, lengths, digits⟩
    have free : ∀ group ∈ groups, Text.unit '-' ∉ group := by
      intro group member inside
      exact (unit_of_isHexDigit (digits group member _ inside)).1 rfl
    have nonempty : groups ≠ [] := by
      rintro rfl
      cases lengths
    have cut : Text.split (Text.unit '-') (Text.join "-" groups) = groups :=
      Text.split_join nonempty free
    rw [cut]
    exact ⟨lengths, digits⟩

variable {text : Text} {groups : List Text}

theorem Grouped.unit_of_mem (grouped : Grouped text groups) {u : UInt16} (member : u ∈ text) :
    Headers.isValidValue [u] ∧ Headers.isEdgeBlank u = false := by
  rw [grouped.joined] at member
  rcases Text.mem_join member with between | ⟨group, among, inside⟩
  · obtain rfl : u = Text.unit '-' := List.mem_singleton.mp between
    decide
  · exact (unit_of_isHexDigit (grouped.digits group among u inside)).2

theorem Grouped.isValidValue (grouped : Grouped text groups) : Headers.isValidValue text :=
  Headers.isValidValue_iff.mpr fun _ member => (grouped.unit_of_mem member).1

theorem Grouped.normalizeValue_eq (grouped : Grouped text groups) :
    Headers.normalizeValue text = text :=
  Text.trim_eq_self (fun _ first => (grouped.unit_of_mem (List.mem_of_mem_head? first)).2)
    fun _ last => (grouped.unit_of_mem (List.mem_of_mem_getLast? last)).2

theorem reads_reader :
    reader.Reads fun value token => value = .string token ∧ ∃ groups, Grouped token groups :=
  (Reader.reads_checkedText fun _ => rfl).congr fun _ _ => and_congr_right fun _ => isToken_iff

end Lease

namespace DeleteBlob

variable {κ : Type} {builder : Builder κ} {lease : Text}

/-- A builder gives a text as its lease, and this text is the field of the lease in whatever comes
of the builder: among any header fields, in its request, and in what a delete sends or hands
over. -/
structure Builder.Carries (builder : Builder κ) (lease : Text) : Prop where
  held : builder.get .leaseId = .ok (.string lease)
  added : ∀ headers, ∃ next,
    setOptionalField leaseHeader builder.heldParameters.leaseId headers = .ok next ∧
      next.get? leaseHeader = some lease
  mutated : ∀ headers next, mutator builder.heldParameters headers = .returned next →
    next.get? leaseHeader = some lease
  requested : ∀ endpoint request, builder.toRequest endpoint = .ok request →
    request.headers.get? leaseHeader = some lease
  sent : ∀ (traffic : Traffic) (client : Client) (caller : Option SignalId) (wire : WireRequest),
    (traffic.delete client builder caller).2.2 = some wire →
      wire.headers.get? leaseHeader = some lease
  delegated : ∀ (traffic : Traffic) (endpoint : Text) (caller : Option SignalId)
    (request : Request), (traffic.delegate endpoint builder caller).2.2 = some request →
      request.headers.get? leaseHeader = some lease

end DeleteBlob

theorem Traffic.toRequest_of_delegate {κ : Type} {traffic : Traffic} {endpoint : Text}
    {builder : DeleteBlob.Builder κ} {caller : Option SignalId} {request : DeleteBlob.Request}
    (handed : (traffic.delegate endpoint builder caller).2.2 = some request) :
    builder.toRequest (.string endpoint) = .ok request := by
  unfold delegate at handed
  cases prepared : DeleteBlob.prepare builder endpoint with
  | failed failure =>
      rw [prepared] at handed
      cases handed
  | raised reason =>
      rw [prepared] at handed
      cases handed
  | ok made =>
      rw [prepared] at handed
      cases handed
      exact DeleteBlob.toRequest_of_prepare prepared

namespace DeleteBlob

variable {κ : Type} {builder : Builder κ} {lease : Text}

theorem Builder.carries_of_held (held : builder.value? .leaseId = some (.string lease))
    (valid : Headers.isValidValue lease) (whole : Headers.normalizeValue lease = lease) :
    builder.Carries lease := by
  have known : Identifier.lease.valueIn builder.heldParameters = .string lease :=
    Identifier.valueIn_of_held held
  have got : builder.get Identifier.lease.field = .ok (.string lease) :=
    Identifier.get_of_held held
  have fielded : ∀ headers next, addHeaders builder.heldParameters headers = .ok next →
      next.get? leaseHeader = some lease := by
    intro headers next added
    rw [← whole]
    exact Identifier.get?_addHeaders known added
  have described : ∀ endpoint request, builder.toRequest endpoint = .ok request →
      request.headers.get? leaseHeader = some lease := by
    intro endpoint request requested
    obtain ⟨-, -, -, added⟩ := Builder.toRequest_eq_ok_iff.mp requested
    exact fielded _ _ added
  exact {
    held := got
    added := by
      intro headers
      obtain ⟨next, set⟩ := setField_total isName_leaseHeader valid headers
      change builder.heldParameters.leaseId = _ at known
      rw [known]
      exact ⟨next, set, (get?_setField set).trans (congrArg some whole)⟩
    mutated := fun headers next mutated =>
      fielded headers next (mutator_eq_returned_iff.mp mutated)
    requested := described
    sent := by
      intro traffic client caller wire sent
      obtain ⟨request, requested⟩ := Traffic.exists_request_of_delete_sent sent
      obtain ⟨-, -, -, below, -, overlay⟩ := Traffic.delete_sent requested sent
      rw [overlay, described _ _ requested, Option.some_or]
    delegated := fun _ endpoint _ request handed =>
      described (.string endpoint) request (Traffic.toRequest_of_delegate handed) }

theorem Builder.set_leaseId_of_isValidValue (builder : Builder κ)
    (valid : Headers.isValidValue lease) :
    builder.set .leaseId (.string lease) =
      .ok { builder with leaseId := some (.string lease) } := by
  simp [Builder.set, Builder.withLeaseId, Builder.checkSendable, Value.toText?, valid, Outcome.map]

end DeleteBlob

namespace Lease

open DeleteBlob

/-- A value is read as a token or reported.  It is a token if and only if it is a text in five
groups of hexadecimal digits with hyphens between them, and is read as this very text.  Every
builder takes it, and carries it unchanged as long as no other lease is set. -/
theorem read_token (value : Value) :
    ((∃ token, read value = .ok token) ∨
      ∃ failure : Failure, failure.kind = .request .validation ∧ read value = .failed failure) ∧
    ((∃ token, read value = .ok token) ↔
      ∃ text groups, value = .string text ∧ Grouped text groups) ∧
    ∀ token, read value = .ok token → value = .string token ∧
      ∀ (κ : Type) (builder : Builder κ), ∃ next, builder.set .leaseId value = .ok next ∧
        ∀ later : List (Field × Value), (∀ call ∈ next.taken later, call.1 ≠ .leaseId) →
          (next.setEach later).Carries token := by
  have accepted : ∀ token, read value = .ok token ↔
      value = .string token ∧ ∃ groups, Grouped token groups :=
    fun token => reads_reader.read_eq_ok_iff
  have textual : reader.Textual := Reader.textual_checkedText fun path => by simp [Issue.Textual]
  refine ⟨textual.read_total value, ?_, ?_⟩
  · simp only [accepted, exists_and_left]
  · intro token isRead
    obtain ⟨rfl, groups, grouped⟩ := (accepted token).mp isRead
    refine ⟨rfl, ?_⟩
    intro κ builder
    have set := builder.set_leaseId_of_isValidValue grouped.isValidValue
    refine ⟨_, set, ?_⟩
    intro later last
    exact Builder.carries_of_held (Builder.value?_setEach_of_last set last) grouped.isValidValue
      grouped.normalizeValue_eq

def sampleToken : Text := "0f8fad5b-D9CB-469f-a165-70867728950e"

def leasedBuilder : Builder Unit := { plainBuilder with leaseId := some (.string sampleToken) }

/-- A later lease that is refused does not take the place of the token. -/
theorem read_token_sample :
    read (.string sampleToken) = .ok sampleToken ∧
      plainBuilder.set .leaseId (.string sampleToken) = .ok leasedBuilder ∧
      ∃ wire, ((Traffic.start .zero).delete (Client.ofConfig paddedConfig)
          (leasedBuilder.setEach laterCalls) none).2.2 = some wire ∧
        wire.headers.get? leaseHeader = some sampleToken := by
  have isRead : read (.string sampleToken) = .ok sampleToken := by
    rfl
  have last : ∀ call ∈ leasedBuilder.taken laterCalls, call.1 ≠ .leaseId := by
    have absent : Field.leaseId ∉ (leasedBuilder.taken laterCalls).map (·.1) := by
      decide +kernel
    intro call member same
    exact absent (same ▸ List.mem_map_of_mem member)
  have goes : ((Traffic.start .zero).delete (Client.ofConfig paddedConfig)
      (leasedBuilder.setEach laterCalls) none).2.2.isSome := by
    decide +kernel
  obtain ⟨-, every⟩ := (read_token (.string sampleToken)).2.2 sampleToken isRead
  obtain ⟨next, set, carries⟩ := every Unit plainBuilder
  obtain rfl : leasedBuilder = next := Outcome.ok.inj set
  obtain ⟨wire, sent⟩ := Option.isSome_iff_exists.mp goes
  exact ⟨isRead, set, wire, sent, (carries laterCalls last).sent _ _ _ _ sent⟩

end Lease

end BlobStorage
