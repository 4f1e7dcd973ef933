import BlobStorage.Proofs.DateReading
import BlobStorage.Proofs.ResponseFields
import BlobStorage.Proofs.SentRequest

/-!
# The date of a request comes back

Every request carries the instant of its clock as the text of a date.  A service that answers with
that text as the date of its response is understood: the response reports the same instant, to the
whole second before it.
-/

namespace BlobStorage

namespace DeleteBlob.Response

/-- The text of the flag that says whether a blob is gone for good. -/
def flagText (flag : Bool) : Text := if flag then "true" else "false"

/-- Header fields with an identifier of the request, a readable date and a flag that is a truth
value are a response, which reports all of them. -/
theorem ofHeaders_dated {headers : Headers} {id text : Text} {instant : Int} {flag : Option Bool}
    (identified : headers.get? "x-ms-request-id" = some id) (named : id ≠ [])
    (dated : headers.get? "date" = some text) (read : Calendar.readDate? text = some instant)
    (permanent : headers.get? "x-ms-delete-type-permanent" = flag.map flagText) :
    ofHeaders headers = .ok
      { requestId := id
        clientRequestId := headers.get? "x-ms-client-request-id"
        version := headers.get? "x-ms-version"
        date := some instant
        deleteTypePermanent := flag } := by
  have fitting : offending headers = [] := by
    rw [offending, List.filter_eq_nil_iff]
    rintro (_ | _ | _) -
    · simp [RuledField.fits, RuledField.header, identified, named]
    · simp [RuledField.fits, RuledField.header, dated, read]
    · rcases flag with - | - | - <;>
        simp [RuledField.fits, RuledField.header, permanent, flagText]
  have spelled : (flag.map flagText).map (· == Text.ofString "true") = flag := by
    rcases flag with - | - | - <;> rfl
  rw [ofHeaders_of_fitting fitting, reported, identified, dated, permanent, spelled,
    Option.bind_some, read, Option.getD_some]

end DeleteBlob.Response

namespace Client

/-- No field of a client has the name of the date of its requests, in any case. -/
def LeavesDate (client : Client) : Prop :=
  ∀ entries, client.headers.entries? = some entries →
    ∀ entry ∈ entries, ∀ name, entry.1.toText? = some name → Text.lower name ≠ dateHeader

theorem get?_dateHeader_baseHeaders? {client : Client} {instant : Option Int} {base : Headers}
    (leaves : client.LeavesDate) (assembled : client.baseHeaders? instant = some base) :
    base.get? dateHeader = some (Calendar.writeHttpDate? instant) := by
  unfold baseHeaders? HeaderOptions.merge? at assembled
  obtain ⟨entries, found, assembled⟩ := Option.bind_eq_some_iff.mp assembled
  obtain ⟨below, foundBelow, assembled⟩ := Option.bind_eq_some_iff.mp assembled
  obtain ⟨between, mergedBelow, merged⟩ := Option.bind_eq_some_iff.mp assembled
  have lower : Text.lower dateHeader = dateHeader := by decide
  have kept : base.get? dateHeader = between.get? dateHeader := by
    apply HeaderOptions.get?_mergeEntries_other merged
    rw [lower]
    exact leaves entries found
  obtain rfl := Option.some.inj foundBelow
  rw [List.map_cons, List.foldlM_cons] at mergedBelow
  obtain ⟨versioned, -, mergedDate⟩ := Option.bind_eq_some_iff.mp mergedBelow
  have dated : ([(dateHeader, some (Calendar.writeHttpDate? instant))].map
      HeaderOptions.fieldEntry).foldlM HeaderOptions.mergeEntry versioned = some between :=
    mergedDate
  rw [kept, HeaderOptions.get?_mergeFields dated, HeaderOptions.lastField?_cons, if_pos rfl]
  simp [HeaderOptions.lastField?, Calendar.normalizeValue_writeHttpDate?]

end Client

namespace DeleteBlob.Response

theorem get?_dateHeader_mutator {parameters : Parameters} (headers next : Headers)
    (changed : mutator parameters headers = .returned next) :
    next.get? Client.dateHeader = headers.get? Client.dateHeader := by
  obtain ⟨first, second, method, lease, identifier⟩ :=
    addHeaders_eq_ok_iff.mp (mutator_eq_returned_iff.mp changed)
  rw [get?_setOptionalField_other identifier (by decide),
    get?_setOptionalField_other lease (by decide), get?_setField_other method (by decide)]

/-- The date that a request carries comes back as the instant of its clock, to the whole second
before it.  Neither the settings of the client nor the operation touch the date; the answer names
the request, repeats the date, and says nothing of a blob that is gone for good but a truth
value. -/
theorem sent_date_is_reported {traffic : Traffic} {client : Client} {purpose : Purpose}
    {uri verb : Text} {mutator : Client.Mutator} {body : Value} {caller : Option SignalId}
    {wire : WireRequest} {instant : Int} {answer : Headers} {id : Text} {flag : Option Bool}
    (clock : traffic.world.instant? = some instant) (lower : 0 ≤ instant)
    (upper : instant ≤ Calendar.lastInstant) (leaves : client.LeavesDate)
    (keeps : ∀ headers next, mutator headers = .returned next →
      next.get? Client.dateHeader = headers.get? Client.dateHeader)
    (sent : (traffic.exchange client purpose uri verb mutator body caller).2.2 = some wire)
    (identified : answer.get? "x-ms-request-id" = some id) (named : id ≠ [])
    (dated : answer.get? "date" = wire.headers.get? Client.dateHeader)
    (permanent : answer.get? "x-ms-delete-type-permanent" = flag.map flagText) :
    ofHeaders answer = .ok
      { requestId := id
        clientRequestId := answer.get? "x-ms-client-request-id"
        version := answer.get? "x-ms-version"
        date := some (instant - instant % 1000)
        deleteTypePermanent := flag } := by
  obtain ⟨-, -, -, assembled⟩ := Traffic.exchange_sent sent
  obtain ⟨base, based, changed⟩ := Client.assemble_eq_returned_iff.mp assembled
  have text : wire.headers.get? Client.dateHeader = some (Calendar.writeHttpDate instant) := by
    have counts : instant.natAbs ≤ Calendar.range.natAbs := by
      unfold Calendar.lastInstant at upper
      unfold Calendar.range
      omega
    rw [keeps base wire.headers changed, Client.get?_dateHeader_baseHeaders? leaves based, clock]
    rw [Calendar.writeHttpDate?, Option.bind_some, Calendar.inRange?, if_pos counts]
  exact ofHeaders_dated identified named (dated.trans text)
    (Calendar.readDate?_writeHttpDate lower upper) permanent

/-- A client whose settings have a field that is sent beside the date. -/
def sampleClient : Client :=
  Client.ofConfig
    { accountName := "account1"
      blobEndpoint := none
      apiVersion := Config.defaultApiVersion
      requestTimeout := .never
      headers := some (some [("x-extra", some "1")])
      logging := { level := .info, pretty := false } }

def sampleParameters : Parameters where
  containerName := .string "photos"
  blobName := .string "2024/a.jpg"
  deleteSnapshotsMethod := .string "include"
  timeout := .undefined
  leaseId := .undefined
  clientRequestId := .undefined

/-- The clock of a run in the last millisecond of a leap day at the end of a century. -/
def sampleTraffic : Traffic := .start (Number.ofInt 951868799999)

def sampleExchange : Traffic × List LogEntry × Option WireRequest :=
  sampleTraffic.exchange sampleClient .exchange
    "https://account1.blob.core.windows.net/photos/2024/a.jpg" "DELETE" (mutator sampleParameters)
    .null none

/-- The last millisecond of a leap day at the end of a century. -/
theorem leap_day_is_reported :
    ofHeaders ⟨[("x-ms-request-id", "r1"), ("date", "Tue, 29 Feb 2000 23:59:59 GMT")]⟩ = .ok
      { requestId := "r1"
        clientRequestId := none
        version := none
        date := some 951868799000
        deleteTypePermanent := none } := by
  have leaves : sampleClient.LeavesDate := by
    intro entries found entry member name named
    obtain rfl := Option.some.inj found
    rw [List.mem_singleton.mp member] at named
    obtain rfl := Option.some.inj named
    decide
  have dates : (sampleExchange.2.2.map fun wire => wire.headers.get? Client.dateHeader) =
      some (some (Text.ofString "Tue, 29 Feb 2000 23:59:59 GMT")) := by
    decide +kernel
  obtain ⟨wire, sent, dated⟩ := Option.map_eq_some_iff.mp dates
  have clock : sampleTraffic.world.instant? = some 951868799999 := by decide +kernel
  have answered : Headers.get? ⟨[("x-ms-request-id", "r1"),
      ("date", "Tue, 29 Feb 2000 23:59:59 GMT")]⟩ "date" = wire.headers.get? Client.dateHeader := by
    rw [dated]
    decide +kernel
  exact sent_date_is_reported clock (by decide) (by decide) leaves get?_dateHeader_mutator sent
    (by decide +kernel) (by decide) answered (by decide +kernel : _ = none)

end DeleteBlob.Response

end BlobStorage
