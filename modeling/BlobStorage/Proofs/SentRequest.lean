import BlobStorage.Proofs.CivilDay
import BlobStorage.Proofs.DeleteRequest
import BlobStorage.Proofs.MergedHeaders
import BlobStorage.Traffic

/-!
# What a delete sends

The request that a delete hands to the transport is the one that its builder describes, with the
header fields of the client below its own.  Each header field is looked up here by its name: the
operation decides first, then the settings of the client, then the two fields that every request
carries.
-/

namespace BlobStorage

namespace Calendar

theorem head?_writeHttpDate (instant : Int) :
    (writeHttpDate instant).head?.map Headers.isEdgeBlank = some false := by
  have names : ∀ day < 7,
      (weekdayNames.getD day []).head?.map Headers.isEdgeBlank = some false := by
    decide
  obtain ⟨first, starts, visible⟩ :=
    Option.map_eq_some_iff.mp (names _ (weekday_lt (instant / dayLength)))
  simp only [writeHttpDate, List.head?_append, starts, Option.some_or, Option.map_some, visible]

theorem getLast?_writeHttpDate (instant : Int) :
    (writeHttpDate instant).getLast? = some (Text.unit 'T') := by
  have ending : (Text.ofString " GMT").getLast? = some (Text.unit 'T') := by decide
  rw [writeHttpDate, List.getLast?_append, ending]
  rfl

theorem normalizeValue_writeHttpDate? (instant : Option Int) :
    Headers.normalizeValue (writeHttpDate? instant) = writeHttpDate? instant := by
  unfold writeHttpDate?
  split
  · rename_i instant _
    apply Text.trim_eq_self
    · obtain ⟨first, starts, visible⟩ := Option.map_eq_some_iff.mp (head?_writeHttpDate instant)
      rw [starts]
      rintro u ⟨⟩
      exact visible
    · rw [getLast?_writeHttpDate]
      rintro u ⟨⟩
      decide
  · decide

end Calendar

namespace Headers

/-- The fields `next` are `own` on top of `below`. -/
def Overlay (own below next : Headers) : Prop :=
  ∀ name, next.get? name = (own.get? name).or (below.get? name)

theorem overlay_empty (below : Headers) : Overlay .empty below below := by
  intro name
  rfl

theorem Overlay.set? {own below next ownAfter nextAfter : Headers} {name value : Text}
    (overlay : Overlay own below next) (set : own.set? name value = some ownAfter)
    (setBelow : next.set? name value = some nextAfter) : Overlay ownAfter below nextAfter := by
  intro other
  rw [get?_set? set, get?_set? setBelow, overlay other]
  by_cases same : Text.lower other = Text.lower name <;> simp [same]

end Headers

namespace DeleteBlob

theorem setField_eq_ok_iff {name : Text} {value : Value} {headers next : Headers} :
    setField name value headers = .ok next ↔
      ∃ text, value.toText? = some text ∧ headers.set? name text = some next := by
  unfold setField
  cases value.toText? with
  | none => simp
  | some text => cases set : headers.set? name text <;> simp [set]

theorem get?_setField {name text : Text} {headers next : Headers}
    (set : setField name (.string text) headers = .ok next) :
    next.get? name = some (Headers.normalizeValue text) := by
  obtain ⟨own, converted, set⟩ := setField_eq_ok_iff.mp set
  obtain rfl := Option.some.inj converted
  rw [Headers.get?_set? set, if_pos rfl]

theorem get?_setField_other {name other : Text} {value : Value} {headers next : Headers}
    (set : setField name value headers = .ok next) (apart : Text.lower other ≠ Text.lower name) :
    next.get? other = headers.get? other := by
  obtain ⟨text, -, set⟩ := setField_eq_ok_iff.mp set
  rw [Headers.get?_set? set, if_neg apart]

theorem get?_setOptionalField_other {name other : Text} {value : Value} {headers next : Headers}
    (set : setOptionalField name value headers = .ok next)
    (apart : Text.lower other ≠ Text.lower name) : next.get? other = headers.get? other := by
  unfold setOptionalField at set
  cases value with
  | undefined =>
      cases set
      rfl
  | _ => exact get?_setField_other set apart

theorem overlay_setField {name : Text} {value : Value} {own below next ownAfter nextAfter : Headers}
    (overlay : Headers.Overlay own below next) (set : setField name value own = .ok ownAfter)
    (setBelow : setField name value next = .ok nextAfter) :
    Headers.Overlay ownAfter below nextAfter := by
  obtain ⟨text, converted, set⟩ := setField_eq_ok_iff.mp set
  obtain ⟨sameText, convertedBelow, setBelow⟩ := setField_eq_ok_iff.mp setBelow
  obtain rfl := Option.some.inj (converted.symm.trans convertedBelow)
  exact overlay.set? set setBelow

theorem overlay_setOptionalField {name : Text} {value : Value}
    {own below next ownAfter nextAfter : Headers} (overlay : Headers.Overlay own below next)
    (set : setOptionalField name value own = .ok ownAfter)
    (setBelow : setOptionalField name value next = .ok nextAfter) :
    Headers.Overlay ownAfter below nextAfter := by
  unfold setOptionalField at set setBelow
  cases value with
  | undefined =>
      cases set
      cases setBelow
      exact overlay
  | _ => exact overlay_setField overlay set setBelow

theorem addHeaders_eq_ok_iff {parameters : Parameters} {headers next : Headers} :
    addHeaders parameters headers = .ok next ↔
      ∃ first second,
        setField snapshotsHeader parameters.deleteSnapshotsMethod headers = .ok first ∧
        setOptionalField leaseHeader parameters.leaseId first = .ok second ∧
        setOptionalField clientRequestHeader parameters.clientRequestId second = .ok next := by
  unfold addHeaders
  simp only [bind, Outcome.bind_eq_ok_iff, exists_and_left]

/-- The fields of a delete stand on top of those that they were added to. -/
theorem overlay_addHeaders {parameters : Parameters} {below own next : Headers}
    (added : addHeaders parameters .empty = .ok own)
    (addedBelow : addHeaders parameters below = .ok next) : Headers.Overlay own below next := by
  obtain ⟨ownFirst, ownSecond, ownMethod, ownLease, ownIdentifier⟩ :=
    addHeaders_eq_ok_iff.mp added
  obtain ⟨first, second, method, lease, identifier⟩ := addHeaders_eq_ok_iff.mp addedBelow
  have overlayFirst := overlay_setField (Headers.overlay_empty below) ownMethod method
  have overlaySecond := overlay_setOptionalField overlayFirst ownLease lease
  exact overlay_setOptionalField overlaySecond ownIdentifier identifier

end DeleteBlob

namespace Config

/-- The header fields of settings, in their order. -/
def fields (config : Config) : List (Text × Option Text) := (config.headers.join).getD []

end Config

namespace Client

/-- The two fields that every request carries. -/
def builtInFields (config : Config) (instant : Option Int) : List (Text × Option Text) :=
  [(versionHeader, some config.apiVersion),
    (dateHeader, some (Calendar.writeHttpDate? instant))]

theorem entries?_headersValue (config : Config) :
    (HeaderOptions.value (headersValue config.headers)).entries? =
      some (config.fields.map HeaderOptions.fieldEntry) := by
  unfold Config.fields headersValue
  rcases config.headers with - | - | fields
  · rfl
  · rfl
  · simp only [HeaderOptions.entries?, List.map_map, Option.some.injEq]
    apply List.map_congr_left
    rintro ⟨name, text?⟩ _
    cases text? <;> rfl

/-- The fields of a client with checked settings are merged one after another, its own last. -/
theorem baseHeaders?_ofConfig (config : Config) (instant : Option Int) :
    (ofConfig config).baseHeaders? instant =
      ((builtInFields config instant ++ config.fields).map HeaderOptions.fieldEntry).foldlM
        HeaderOptions.mergeEntry .empty := by
  unfold baseHeaders? HeaderOptions.merge?
  rw [show (ofConfig config).headers = .value (headersValue config.headers) from rfl,
    entries?_headersValue, List.map_append, List.foldlM_append]
  rfl

end Client

theorem Completion.guarded_eq_ok_some_iff {α : Type} {completion : Completion α} {value : α} :
    completion.guarded = .ok (some value) ↔ completion = .returned value := by
  cases completion with
  | returned other => simp [guarded]
  | threw reason => by_cases truthy : reason.isTruthy <;> simp [guarded, truthy]

theorem Client.assemble_eq_returned_iff {client : Client} {instant : Option Int}
    {mutator : Client.Mutator} {assembled : Headers} :
    client.assemble instant mutator = .returned assembled ↔
      ∃ headers, client.baseHeaders? instant = some headers ∧
        mutator headers = .returned assembled := by
  unfold assemble
  cases client.baseHeaders? instant <;> simp

theorem Exchange.start_sent {client : Client} {world next : World} {uri verb : Text}
    {mutator : Client.Mutator} {body : Value} {caller : Option SignalId}
    {entries : List LogEntry} {exchange : Exchange} {wire : WireRequest}
    (started : Exchange.start client world uri verb mutator body caller =
      (next, entries, .sent exchange wire)) :
    wire.uri = uri ∧ wire.verb = verb ∧ wire.body = body ∧
      client.assemble world.instant? mutator = .returned wire.headers := by
  unfold Exchange.start at started
  cases guarded : (client.assemble world.instant? mutator).guarded with
  | error reason =>
      rw [guarded] at started
      cases started
  | ok headers? =>
      rw [guarded] at started
      dsimp only at started
      split at started
      · cases started
      · cases headers? with
        | none => cases started
        | some headers =>
            cases started
            exact ⟨rfl, rfl, rfl, Completion.guarded_eq_ok_some_iff.mp guarded⟩

theorem DeleteBlob.mutator_eq_returned_iff {parameters : DeleteBlob.Parameters}
    {headers next : Headers} :
    DeleteBlob.mutator parameters headers = .returned next ↔
      DeleteBlob.addHeaders parameters headers = .ok next := by
  unfold DeleteBlob.mutator
  cases DeleteBlob.addHeaders parameters headers <;> simp

theorem DeleteBlob.prepare_of_toRequest {κ : Type} {builder : DeleteBlob.Builder κ}
    {endpoint : Text} {request : DeleteBlob.Request}
    (requested : builder.toRequest (.string endpoint) = .ok request) :
    DeleteBlob.prepare builder endpoint = .ok (builder.heldParameters, request) := by
  have complete := (Builder.toRequest_eq_ok_iff.mp requested).1
  have resolved : builder.resolve = .ok builder.heldParameters := by
    simp [Builder.resolve, complete, Builder.heldParameters]
  rw [Builder.toRequest, resolved] at requested
  unfold prepare
  rw [resolved]
  simp only [bind, Outcome.bind] at requested ⊢
  rw [requested]
  rfl

theorem Traffic.exchange_sent {traffic : Traffic} {client : Client} {purpose : Purpose}
    {uri verb : Text} {mutator : Client.Mutator} {body : Value} {caller : Option SignalId}
    {wire : WireRequest}
    (sent : (traffic.exchange client purpose uri verb mutator body caller).2.2 = some wire) :
    wire.uri = uri ∧ wire.verb = verb ∧ wire.body = body ∧
      client.assemble traffic.world.instant? mutator = .returned wire.headers := by
  unfold Traffic.exchange at sent
  split at sent
  · cases sent
  · cases sent
  · rename_i started
    cases sent
    exact Exchange.start_sent started

/-- The request that a delete sends is that of its builder, and its fields are added to those of
the client. -/
theorem Traffic.delete_sent {κ : Type} {traffic : Traffic} {client : Client}
    {builder : DeleteBlob.Builder κ} {caller : Option SignalId} {request : DeleteBlob.Request}
    {wire : WireRequest}
    (requested : builder.toRequest (.string client.blobEndpoint) = .ok request)
    (sent : (traffic.delete client builder caller).2.2 = some wire) :
    wire.verb = request.verb ∧ wire.uri = request.uri ∧ wire.body = .null ∧
      ∃ below, client.baseHeaders? traffic.world.instant? = some below ∧
        Headers.Overlay request.headers below wire.headers := by
  unfold Traffic.delete at sent
  rw [DeleteBlob.prepare_of_toRequest requested] at sent
  obtain ⟨uri, verb, body, assembled⟩ := Traffic.exchange_sent sent
  obtain ⟨below, base, changed⟩ := Client.assemble_eq_returned_iff.mp assembled
  obtain ⟨-, -, -, added⟩ := DeleteBlob.Builder.toRequest_eq_ok_iff.mp requested
  exact ⟨verb, uri, body, below, base, DeleteBlob.overlay_addHeaders added
    (DeleteBlob.mutator_eq_returned_iff.mp changed)⟩

namespace DeleteBlob

/-- What a delete sends under a name: the field of its operation; or else what the last field of
the settings under that name says; or else one of the two fields that every request carries. -/
def sentField (config : Config) (instant : Option Int) (operation : Headers) (name : Text) :
    Option Text :=
  (operation.get? name).or <|
    match HeaderOptions.lastField? config.fields name with
    | some text? => text?.map Headers.normalizeValue
    | none =>
        if Text.lower name = Client.versionHeader then
          some (Headers.normalizeValue config.apiVersion)
        else if Text.lower name = Client.dateHeader then some (Calendar.writeHttpDate? instant)
        else none

theorem lastField?_builtInFields (config : Config) (instant : Option Int) (name : Text) :
    (match HeaderOptions.lastField? (Client.builtInFields config instant) name with
      | some text? => text?.map Headers.normalizeValue
      | none => none) =
      if Text.lower name = Client.versionHeader then
        some (Headers.normalizeValue config.apiVersion)
      else if Text.lower name = Client.dateHeader then some (Calendar.writeHttpDate? instant)
      else none := by
  have version : Text.lower Client.versionHeader = Client.versionHeader := by decide
  have date : Text.lower Client.dateHeader = Client.dateHeader := by decide
  have different : Client.versionHeader ≠ Client.dateHeader := by decide
  unfold Client.builtInFields
  rw [HeaderOptions.lastField?_cons, HeaderOptions.lastField?_cons, version, date]
  by_cases isVersion : Text.lower name = Client.versionHeader
  · rw [isVersion]
    simp [HeaderOptions.lastField?, different]
  · by_cases isDate : Text.lower name = Client.dateHeader
    · rw [isDate]
      simp [HeaderOptions.lastField?, different.symm, Calendar.normalizeValue_writeHttpDate?]
    · simp [HeaderOptions.lastField?, isVersion, isDate]

/-- A delete sends the verb and the address that its builder describes, no body, and under each
name the field that `sentField` says; so no settings change or take away a field of the
operation. -/
theorem delete_sends_described {κ : Type} {traffic : Traffic} {config : Config}
    {builder : Builder κ} {caller : Option SignalId} {request : Request} {wire : WireRequest}
    (requested :
      builder.toRequest (.string (Client.ofConfig config).blobEndpoint) = .ok request)
    (sent : (traffic.delete (Client.ofConfig config) builder caller).2.2 = some wire) :
    wire.verb = request.verb ∧ wire.uri = request.uri ∧ wire.body = .null ∧
      ∀ name, wire.headers.get? name =
        sentField config traffic.world.instant? request.headers name := by
  obtain ⟨verb, uri, body, below, base, overlay⟩ := Traffic.delete_sent requested sent
  refine ⟨verb, uri, body, ?_⟩
  intro name
  rw [Client.baseHeaders?_ofConfig] at base
  have belowField := HeaderOptions.get?_mergeFields base name
  rw [HeaderOptions.lastField?_append] at belowField
  rw [overlay name, sentField, belowField, ← lastField?_builtInFields]
  cases HeaderOptions.lastField? config.fields name with
  | some text? => rfl
  | none => rfl

/-- Settings whose header fields try to change what a delete says, in several spellings. -/
def meddlingConfig : Config where
  accountName := "account1"
  blobEndpoint := some (some "http://127.0.0.1:10000/account1/")
  apiVersion := " 2018-03-28\t"
  requestTimeout := .milliseconds (Number.ofInt 60000)
  headers := some (some [("X-Ms-Delete-Snapshots", some "include"), ("x-ms-lease-id", none),
    ("x-extra", some "1"), ("X-EXTRA", some " 2 "), ("X-Ms-Date", none)])
  logging := { level := .info, pretty := false }

def leasedBuilder : Builder Unit where
  client := ()
  containerName := some (.string "photos")
  blobName := some (.string "2024/a b.jpg")
  deleteSnapshotsMethod := some .snapshotsOnly
  leaseId := some (.string "lease 1")

theorem delete_sends_described_meddled :
    ∃ request wire,
      leasedBuilder.toRequest (.string (Client.ofConfig meddlingConfig).blobEndpoint) =
        .ok request ∧
      ((Traffic.start .zero).delete (Client.ofConfig meddlingConfig) leasedBuilder none).2.2 =
        some wire ∧
      wire.uri = request.uri ∧ wire.headers.get? "X-MS-Delete-Snapshots" = some "only" ∧
      wire.headers.get? "x-ms-lease-id" = some "lease 1" ∧
      wire.headers.get? "x-extra" = some "2" ∧ wire.headers.get? "x-ms-date" = none ∧
      wire.headers.get? "x-ms-version" = some "2018-03-28" := by
  have made : (leasedBuilder.toRequest
      (.string (Client.ofConfig meddlingConfig).blobEndpoint)).toOption.map Request.headers =
      some ⟨[("x-ms-delete-snapshots", "only"), ("x-ms-lease-id", "lease 1")]⟩ := by
    decide +kernel
  have goes : ((Traffic.start .zero).delete (Client.ofConfig meddlingConfig) leasedBuilder
      none).2.2.isSome := by
    decide +kernel
  obtain ⟨request, requested, operation⟩ := Option.map_eq_some_iff.mp made
  rw [Outcome.toOption_eq_some_iff] at requested
  obtain ⟨wire, sent⟩ := Option.isSome_iff_exists.mp goes
  obtain ⟨-, uri, -, field⟩ := delete_sends_described requested sent
  simp only [operation] at field
  refine ⟨request, wire, requested, sent, uri, ?_, ?_, ?_, ?_, ?_⟩
  all_goals
    rw [field]
    decide +kernel

/-- Settings whose version has a blank at its start. -/
def paddedConfig : Config where
  accountName := "devaccount"
  blobEndpoint := none
  apiVersion := " 2018-03-28"
  requestTimeout := .milliseconds (Number.ofInt 60000)
  headers := none
  logging := { level := .info, pretty := false }

def plainBuilder : Builder Unit where
  client := ()
  containerName := some (.string "c")
  blobName := some (.string "b")
  deleteSnapshotsMethod := some .withBlob

/-- The version is not sent as the settings have it: the blanks at its ends go. -/
theorem sent_version_without_blanks :
    ∃ request wire,
      plainBuilder.toRequest (.string (Client.ofConfig paddedConfig).blobEndpoint) =
        .ok request ∧
      ((Traffic.start .zero).delete (Client.ofConfig paddedConfig) plainBuilder none).2.2 =
        some wire ∧
      request.headers.get? Client.versionHeader = none ∧ paddedConfig.headers = none ∧
      wire.headers.get? Client.versionHeader ≠ some paddedConfig.apiVersion := by
  have made : (plainBuilder.toRequest
      (.string (Client.ofConfig paddedConfig).blobEndpoint)).toOption.map
      (fun request => request.headers.get? Client.versionHeader) = some none := by
    decide +kernel
  have goes : ((Traffic.start .zero).delete (Client.ofConfig paddedConfig) plainBuilder
      none).2.2.map (fun wire => wire.headers.get? Client.versionHeader) =
        some (some (Text.ofString "2018-03-28")) := by
    decide +kernel
  obtain ⟨request, requested, operation⟩ := Option.map_eq_some_iff.mp made
  rw [Outcome.toOption_eq_some_iff] at requested
  obtain ⟨wire, sent, version⟩ := Option.map_eq_some_iff.mp goes
  refine ⟨request, wire, requested, sent, operation, rfl, ?_⟩
  rw [version]
  decide

end DeleteBlob

end BlobStorage
