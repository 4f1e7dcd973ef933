import BlobStorage.Proofs.SentIdentifiers
import Mathlib.Data.List.TakeWhile

/-!
# Values that header fields take

A value goes into a message byte by byte, without the blanks around it, and is refused if a unit
does not fit into a byte, or if NUL or a line end is left inside.  `Headers.Sends` states this rule
over bytes.  It comes to the check of `Headers.isValidValue` on the stripped text; so what passes
that check as it is, as the identifiers of a delete do, is never refused later.
-/

namespace BlobStorage

namespace Text

variable {α β : Type}

/-- A list without all items at its two ends that satisfy `p`. -/
structure Trimmed (p : α → Bool) (list core : List α) : Prop where
  whole : ∃ before after, list = before ++ core ++ after ∧ ∀ item ∈ before ++ after, p item = true
  starts : ∀ item ∈ core.head?, p item = false
  ends : ∀ item ∈ core.getLast?, p item = false

/-- Trimming can be followed from the items to their images and back. -/
theorem trimmed_map_iff {p : β → Bool} {f : α → β} {list : List α} {core : List β} :
    Trimmed p (list.map f) core ↔
      ∃ inner, core = inner.map f ∧ Trimmed (fun item => p (f item)) list inner := by
  constructor
  · rintro ⟨⟨before, after, whole, blank⟩, starts, ends⟩
    obtain ⟨own, behind, rfl, owned, rfl⟩ := List.map_eq_append_iff.mp whole
    obtain ⟨ahead, inner, rfl, rfl, rfl⟩ := List.map_eq_append_iff.mp owned
    rw [← List.map_append, List.forall_mem_map] at blank
    exact ⟨inner, rfl, ⟨ahead, behind, rfl, blank⟩, by simpa using starts, by simpa using ends⟩
  · rintro ⟨inner, rfl, ⟨ahead, behind, rfl, blank⟩, starts, ends⟩
    refine ⟨⟨ahead.map f, behind.map f, ?_, ?_⟩, by simpa using starts, by simpa using ends⟩
    · rw [List.map_append, List.map_append]
    · rw [← List.map_append, List.forall_mem_map]
      exact blank

variable {p : UInt16 → Bool} {text core : Text}

theorem trimmed_trim (p : UInt16 → Bool) (text : Text) : Trimmed p text (trim p text) :=
  ⟨exists_append_trim p text, head?_trim p text, getLast?_trim p text⟩

theorem Trimmed.eq_trim (trimmed : Trimmed p text core) : core = trim p text := by
  obtain ⟨before, after, rfl, blank⟩ := trimmed.whole
  rw [List.forall_mem_append] at blank
  have own : trim p core = core := trim_eq_self trimmed.starts trimmed.ends
  rw [trim, List.append_assoc, List.dropWhile_append_of_pos blank.1]
  cases core with
  | nil =>
      rw [List.nil_append, List.dropWhile_eq_nil_iff.mpr blank.2]
      rfl
  | cons first rest =>
      have kept : p first = false := trimmed.starts first rfl
      rw [trim, List.dropWhile_cons_of_neg (by simp [kept])] at own
      rw [List.cons_append, List.dropWhile_cons_of_neg (by simp [kept]), ← List.cons_append,
        trimEnd, List.reverse_append, List.dropWhile_append_of_pos (by simpa using blank.2)]
      exact own.symm

end Text

namespace Headers

/-- The bytes of a text; there are none if a unit does not fit into a byte. -/
def bytes? (text : Text) : Option (List UInt8) :=
  text.mapM fun u => if u < 0x100 then some u.toUInt8 else none

/-- The bytes that do not belong to a value at its ends: tab, line feed, carriage return, space. -/
def isBlankByte (byte : UInt8) : Bool := byte == 9 || byte == 10 || byte == 13 || byte == 32

/-- What goes into a message for a value: its bytes without the blanks around them, among which
there is no NUL and no line end. -/
structure Sends (value : Text) (sent : List UInt8) : Prop where
  stripped : ∃ bytes, bytes? value = some bytes ∧ Text.Trimmed isBlankByte bytes sent
  unbroken : ∀ byte ∈ sent, byte ≠ 0 ∧ byte ≠ 10 ∧ byte ≠ 13

theorem byte_eq_some_iff {u : UInt16} {byte : UInt8} :
    (if u < 0x100 then some u.toUInt8 else none) = some byte ↔ u = byte.toUInt16 := by
  constructor
  · intro fits
    split at fits
    · rename_i small
      obtain rfl := Option.some.inj fits
      apply UInt16.toNat_inj.mp
      rw [UInt16.lt_iff_toNat_lt] at small
      simp only [UInt8.toNat_toUInt16, UInt16.toNat_toUInt8]
      exact (Nat.mod_eq_of_lt small).symm
    · cases fits
  · rintro rfl
    have small : byte.toUInt16 < 0x100 := by
      rw [UInt16.lt_iff_toNat_lt, UInt8.toNat_toUInt16]
      exact byte.toNat_lt
    rw [if_pos small, UInt8.toUInt8_toUInt16]

theorem bytes?_eq_some_iff {text : Text} {bytes : List UInt8} :
    bytes? text = some bytes ↔ text = bytes.map UInt8.toUInt16 := by
  rw [bytes?, Text.mapM_eq_some_iff, ← List.forall₂_eq_eq_eq, List.forall₂_map_right_iff]
  simp only [byte_eq_some_iff]

theorem unit_of_byte (byte : UInt8) :
    isEdgeBlank byte.toUInt16 = isBlankByte byte ∧
      (isValidValue [byte.toUInt16] ↔ byte ≠ 0 ∧ byte ≠ 10 ∧ byte ≠ 13) := by
  have every : ∀ n < 256,
      isEdgeBlank (UInt8.ofNat n).toUInt16 = isBlankByte (UInt8.ofNat n) ∧
        (isValidValue [(UInt8.ofNat n).toUInt16] ↔
          UInt8.ofNat n ≠ 0 ∧ UInt8.ofNat n ≠ 10 ∧ UInt8.ofNat n ≠ 13) := by
    decide +kernel
  have own := every byte.toNat byte.toNat_lt
  rwa [UInt8.ofNat_toNat] at own

theorem isValidValue_iff {value : Text} :
    isValidValue value ↔ ∀ u ∈ value, isValidValue [u] := by
  simp [isValidValue]

theorem isValidValue_of_bytes {bytes : List UInt8} :
    isValidValue (bytes.map UInt8.toUInt16) ↔
      ∀ byte ∈ bytes, byte ≠ 0 ∧ byte ≠ 10 ∧ byte ≠ 13 := by
  rw [isValidValue_iff, List.forall_mem_map]
  exact forall₂_congr fun byte _ => (unit_of_byte byte).2

theorem exists_bytes {text : Text} (small : ∀ u ∈ text, u < 0x100) :
    ∃ bytes : List UInt8, text = bytes.map UInt8.toUInt16 := by
  refine ⟨text.map UInt16.toUInt8, ?_⟩
  rw [List.map_map]
  refine (List.map_id text).symm.trans (List.map_congr_left ?_)
  intro u member
  exact byte_eq_some_iff.mp (if_pos (small u member))

theorem lt_of_isValidValue {value : Text} (valid : isValidValue value) :
    ∀ u ∈ value, u < 0x100 := by
  intro u member
  have kept := List.all_eq_true.mp valid u member
  simp only [Bool.and_eq_true, decide_eq_true_eq] at kept
  exact kept.2

theorem lt_of_isEdgeBlank {u : UInt16} (blank : isEdgeBlank u = true) : u < 0x100 := by
  simp only [isEdgeBlank, Bool.or_eq_true, beq_iff_eq] at blank
  rcases blank with ((rfl | rfl) | rfl) | rfl <;> decide

theorem exists_bytes_of_isValidValue {value : Text} (valid : isValidValue (normalizeValue value)) :
    ∃ bytes : List UInt8, value = bytes.map UInt8.toUInt16 := by
  obtain ⟨before, after, whole, blank⟩ := Text.exists_append_trim isEdgeBlank value
  rw [List.forall_mem_append] at blank
  apply exists_bytes
  rw [whole, List.forall_mem_append, List.forall_mem_append]
  exact ⟨⟨fun u member => lt_of_isEdgeBlank (blank.1 u member), lt_of_isValidValue valid⟩,
    fun u member => lt_of_isEdgeBlank (blank.2 u member)⟩

theorem trimmed_bytes_iff {bytes : List UInt8} {core : Text} :
    Text.Trimmed isEdgeBlank (bytes.map UInt8.toUInt16) core ↔
      ∃ sent, core = sent.map UInt8.toUInt16 ∧ Text.Trimmed isBlankByte bytes sent := by
  simp only [Text.trimmed_map_iff, unit_of_byte]

theorem Sends.normalizeValue_eq {value : Text} {sent : List UInt8} (sends : Sends value sent) :
    normalizeValue value = sent.map UInt8.toUInt16 := by
  obtain ⟨bytes, read, trimmed⟩ := sends.stripped
  rw [bytes?_eq_some_iff.mp read]
  exact (trimmed_bytes_iff.mpr ⟨sent, rfl, trimmed⟩).eq_trim.symm

/-- A value can be sent if and only if it passes the check without the blanks around it. -/
theorem exists_sends_iff {value : Text} :
    (∃ sent, Sends value sent) ↔ isValidValue (normalizeValue value) := by
  constructor
  · rintro ⟨sent, sends⟩
    rw [sends.normalizeValue_eq, isValidValue_of_bytes]
    exact sends.unbroken
  · intro valid
    obtain ⟨bytes, rfl⟩ := exists_bytes_of_isValidValue valid
    obtain ⟨sent, core, trimmed⟩ := trimmed_bytes_iff.mp (Text.trimmed_trim isEdgeBlank _)
    refine ⟨sent, ⟨bytes, bytes?_eq_some_iff.mpr rfl, trimmed⟩, ?_⟩
    rw [← isValidValue_of_bytes, ← core]
    exact valid

theorem set?_eq_none_iff {headers : Headers} {name value : Text} (named : isName name) :
    headers.set? name value = none ↔ isValidValue (normalizeValue value) = false := by
  simp [set?, named]

end Headers

namespace DeleteBlob

/-- A builder takes this value for this parameter. -/
def Field.Takes (field : Field) (value : Value) : Prop :=
  ∃ (κ : Type) (builder next : Builder κ), builder.set field value = .ok next

theorem Identifier.exists_sendable {identifier : Identifier} {value : Value}
    (takes : identifier.field.Takes value) :
    ∃ text, value.toText? = some text ∧ Headers.isValidValue text := by
  obtain ⟨κ, builder, next, accepted⟩ := takes
  cases identifier with
  | lease => exact (Builder.set_checked_eq_ok accepted).1
  | clientRequest => exact (Builder.set_checked_eq_ok accepted).1

theorem Identifier.isName_header (identifier : Identifier) : Headers.isName identifier.header := by
  cases identifier with
  | lease => exact isName_leaseHeader
  | clientRequest => exact isName_clientRequestHeader

theorem Identifier.setOptionalField_of_takes {identifier : Identifier} {value : Value}
    (known : value = .undefined ∨ identifier.field.Takes value) (headers : Headers) :
    ∃ next, setOptionalField identifier.header value headers = .ok next := by
  unfold setOptionalField
  split
  · exact ⟨headers, rfl⟩
  · rename_i defined
    obtain ⟨text, converted, valid⟩ := exists_sendable (known.resolve_left defined)
    obtain ⟨next, set⟩ := Headers.set?_total identifier.isName_header valid headers
    exact ⟨next, setField_eq_ok_iff.mpr ⟨text, converted, set⟩⟩

/-- Parameters with a method and with identifiers that a builder takes, if any. -/
structure Parameters.Taken (parameters : Parameters) : Prop where
  method : ∃ method : SnapshotsMethod, parameters.deleteSnapshotsMethod = .string method.text
  identifiers : ∀ identifier : Identifier, identifier.valueIn parameters = .undefined ∨
    identifier.field.Takes (identifier.valueIn parameters)

theorem Parameters.Taken.addHeaders_total {parameters : Parameters} (taken : parameters.Taken)
    (headers : Headers) : ∃ next, addHeaders parameters headers = .ok next := by
  obtain ⟨method, chosen⟩ := taken.method
  obtain ⟨first, methodSet⟩ :=
    setField_total isName_snapshotsHeader method.isValidValue_text headers
  obtain ⟨second, leaseSet⟩ :=
    Identifier.setOptionalField_of_takes (taken.identifiers .lease) first
  obtain ⟨third, identifierSet⟩ :=
    Identifier.setOptionalField_of_takes (taken.identifiers .clientRequest) second
  exact ⟨third, addHeaders_eq_ok_iff.mpr
    ⟨first, second, chosen ▸ methodSet, leaseSet, identifierSet⟩⟩

namespace Builder

variable {κ : Type}

theorem takes_of_mem_taken {builder : Builder κ} {calls : List (Field × Value)}
    {call : Field × Value} (member : call ∈ builder.taken calls) : call.1.Takes call.2 := by
  induction calls generalizing builder with
  | nil => cases member
  | cons first calls induction =>
      unfold taken at member
      split at member
      · rename_i next accepted
        rcases List.mem_cons.mp member with rfl | later
        · exact ⟨κ, builder, next, accepted⟩
        · exact induction later
      · exact induction member

theorem takes_of_value? {owner : κ} {calls : List (Field × Value)} {field : Field} {value : Value}
    (held : ((create owner).setEach calls).value? field = some value) : field.Takes value := by
  rw [value?_setEach] at held
  exact takes_of_mem_taken (lastValue?_mem held)

/-- A builder holds nothing else than what builders take. -/
theorem taken_heldParameters (owner : κ) (calls : List (Field × Value)) :
    ((create owner).setEach calls).heldParameters.Taken := by
  refine ⟨⟨_, rfl⟩, ?_⟩
  intro identifier
  have known : ∀ held : Option Value,
      ((create owner).setEach calls).value? identifier.field = held →
      held.getD .undefined = .undefined ∨ identifier.field.Takes (held.getD .undefined) := by
    rintro (- | value) held
    · exact .inl rfl
    · exact .inr (takes_of_value? held)
  cases identifier with
  | lease => exact known _ rfl
  | clientRequest => exact known _ rfl

end Builder

/-- A field is refused if and only if its value is not valid without the blanks around it, that is
if there are no bytes that could be sent for it.  So a valid value is never refused, and none of the
fields of a delete is, whichever identifiers its builder took and whichever fields they are added
to. -/
theorem valid_values_are_never_refused :
    (∀ name value : Text, Headers.isName name →
      ∃ core, Text.Trimmed Headers.isEdgeBlank value core ∧
        (∀ other, Text.Trimmed Headers.isEdgeBlank value other → other = core) ∧
        ∀ headers : Headers,
          (headers.set? name value = none ↔ Headers.isValidValue core = false) ∧
          (headers.set? name value = none ↔ ¬∃ sent, Headers.Sends value sent) ∧
          ∀ sent, Headers.Sends value sent →
            ∃ next, headers.set? name value = some next ∧
              next.get? name = some (sent.map UInt8.toUInt16)) ∧
    (∀ (name value : Text) (headers : Headers), Headers.isName name → Headers.isValidValue value →
      ∃ next, headers.set? name value = some next) ∧
    (∀ (parameters : Parameters) (headers : Headers), parameters.Taken →
      ∃ next, mutator parameters headers = .returned next) ∧
    ∀ (κ : Type) (owner : κ) (calls : List (Field × Value)) (headers : Headers),
      ∃ next, mutator ((Builder.create owner).setEach calls).heldParameters headers =
        .returned next := by
  have mutates : ∀ (parameters : Parameters) (headers : Headers), parameters.Taken →
      ∃ next, mutator parameters headers = .returned next := by
    intro parameters headers taken
    obtain ⟨next, added⟩ := taken.addHeaders_total headers
    exact ⟨next, mutator_eq_returned_iff.mpr added⟩
  refine ⟨?_, fun _ _ headers named valid => Headers.set?_total named valid headers, mutates,
    fun κ owner calls headers => mutates _ headers (Builder.taken_heldParameters owner calls)⟩
  intro name value named
  refine ⟨Headers.normalizeValue value, Text.trimmed_trim _ _, fun _ => Text.Trimmed.eq_trim, ?_⟩
  intro headers
  have refused : headers.set? name value = none ↔
      Headers.isValidValue (Headers.normalizeValue value) = false :=
    Headers.set?_eq_none_iff named
  refine ⟨refused, ?_, ?_⟩
  · rw [refused, Headers.exists_sends_iff, Bool.not_eq_true]
  · intro sent sends
    have valid := Headers.exists_sends_iff.mp ⟨sent, sends⟩
    refine ⟨_, Headers.set?_eq_some_iff.mpr ⟨named, valid, rfl⟩, ?_⟩
    rw [Headers.get?_set? (Headers.set?_eq_some_iff.mpr ⟨named, valid, rfl⟩), if_pos rfl,
      sends.normalizeValue_eq]

theorem valid_values_are_never_refused_padded :
    Headers.isName leaseHeader ∧
      Headers.empty.set? leaseHeader "\r\nlease 1\n" ≠ none ∧
      Headers.empty.set? leaseHeader "lease\n1" = none ∧
      Headers.isValidValue " lease 1\t" ∧
      (∃ next, Headers.empty.set? leaseHeader " lease 1\t" = some next) ∧
      (paddedBuilder.heldParameters.Taken ∧
        ∃ next, mutator paddedBuilder.heldParameters .empty = .returned next) := by
  obtain ⟨refused, accepted, added, -⟩ := valid_values_are_never_refused
  have taken : paddedBuilder.heldParameters.Taken := by
    refine ⟨⟨_, rfl⟩, ?_⟩
    rintro (- | -)
    · exact .inr ⟨Unit, plainBuilder, paddedBuilder, rfl⟩
    · exact .inl rfl
  have judged : ∀ value : Text, Headers.empty.set? leaseHeader value = none ↔
      Headers.isValidValue (Headers.normalizeValue value) = false := by
    intro value
    obtain ⟨core, -, only, decides⟩ := refused leaseHeader value isName_leaseHeader
    rw [(decides .empty).1, ← only _ (Text.trimmed_trim _ _)]
    rfl
  refine ⟨isName_leaseHeader, ?_, ?_, by decide, ?_, taken, added _ _ taken⟩
  · rw [ne_eq, judged]
    decide
  · rw [judged]
    decide
  · exact accepted _ _ _ isName_leaseHeader (by decide)

end DeleteBlob

end BlobStorage
