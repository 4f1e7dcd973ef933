import BlobStorage.Proofs.CallHistory
import BlobStorage.Proofs.DeleteRequest
import BlobStorage.Proofs.GuardedCalls
import BlobStorage.Proofs.ResponseReading

/-!
# What a delete ends with

A delete passes through seven stages: its mandatory parameters, its address, the header fields of
its client, the transport, the body of the response, its status, and its header fields.  `Settled`
says on the inputs alone what the first stage that fails leads to, and how many requests are sent.
The last theorem of this module shows that every run of a delete ends in this way, whatever else
happens meanwhile.
-/

namespace BlobStorage

/-- A response as a transport is declared to give it: its status is a number, and reading its body
gives a text or fails with an error. -/
structure Response.Declared (response : Response) : Prop where
  status : ∃ status, response.status = .number status
  body : (∃ text, response.body = .returned (.string text)) ∨
    ∃ failure, response.body = .threw (.failure failure)

/-- What a transport is declared to settle with: a response, or an error. -/
inductive Completion.Declared : Completion Reply → Prop where
  | responded {response : Response} : response.Declared →
      Completion.Declared (.returned (.response response))
  | failed (failure : Failure) : Completion.Declared (.threw (.failure failure))

namespace DeleteBlob

/-- The first mandatory parameter that a history never set. -/
def firstMissing? (calls : List (Field × Value)) : Option Field :=
  Field.mandatory.find? fun field => (Builder.lastValue? field calls).isNone

/-- The address of the delete that a history describes, below the endpoint of a client. -/
def addressOf (client : Client) (calls : List (Field × Value)) : Outcome Text :=
  let held (field : Field) : Value := (Builder.lastValue? field calls).getD .undefined
  Resource.uri (.string client.blobEndpoint) (held .containerName) (held .blobName)
    [("timeout", held .timeout)]

/-- The three stages before the transport are passed. -/
structure Passed (client : Client) (calls : List (Field × Value)) (instant : Option Int) :
    Prop where
  complete : firstMissing? calls = none
  addressed : ∃ address, addressOf client calls = .ok address
  assembled : (client.baseHeaders? instant).isSome

/-- What a delete is settled with, and after how many requests, when the transport settles with
`reply?`.  The first stage that fails decides. -/
inductive Settled (client : Client) (calls : List (Field × Value)) (instant : Option Int) :
    Option (Completion Reply) → Nat → Outcome Response → Prop where
  | missing {reply? : Option (Completion Reply)} {field : Field}
      (first : firstMissing? calls = some field) :
      Settled client calls instant reply? 0 (.failed (Failure.missingParameter field.name))
  | unaddressed {reply? : Option (Completion Reply)} {failure : Failure}
      (complete : firstMissing? calls = none)
      (unaddressed : addressOf client calls = .failed failure)
      (kind : failure.kind = .request .constructUrl) :
      Settled client calls instant reply? 0 (.failed failure)
  | refused {reply? : Option (Completion Reply)} {address : Text}
      (complete : firstMissing? calls = none) (addressed : addressOf client calls = .ok address)
      (refused : client.baseHeaders? instant = none) :
      Settled client calls instant reply? 0
        (.failed (Failure.transport (Exchange.refusedMessage verb) (some .typeError)))
  | unsent {reason cause : Value} (passed : Passed client calls instant)
      (known : cause = reason ∨ ∃ aborted, cause = Exchange.abortCause aborted) :
      Settled client calls instant (some (.threw reason)) 1
        (.failed (Failure.transport (Exchange.failedMessage verb) (some cause)))
  | unread {response : BlobStorage.Response} {reason : Value}
      (passed : Passed client calls instant) (unread : response.body = .threw reason) :
      Settled client calls instant (some (.returned (.response response))) 1
        (.failed (Failure.transport BlobStorage.Response.unreadableBody (some reason)))
  | unexpected {response : BlobStorage.Response} {body : Value} {status : Number}
      (passed : Passed client calls instant) (read : response.body = .returned body)
      (answered : response.status = .number status)
      (other : status.equal (.ofInt expectedStatus) = false) :
      Settled client calls instant (some (.returned (.response response))) 1
        (.failed (Failure.unexpectedStatus status.toText response.status body response.headers))
  | undecoded {response : BlobStorage.Response} {body : Value} {status : Number}
      {failure : Failure} (passed : Passed client calls instant)
      (read : response.body = .returned body) (answered : response.status = .number status)
      (expected : status.equal (.ofInt expectedStatus) = true)
      (undecoded : Response.ofHeaders response.headers = .failed failure)
      (kind : failure.kind = .request .responseParse) :
      Settled client calls instant (some (.returned (.response response))) 1 (.failed failure)
  | decoded {response : BlobStorage.Response} {body : Value} {status : Number}
      {result : Response} (passed : Passed client calls instant)
      (read : response.body = .returned body) (answered : response.status = .number status)
      (expected : status.equal (.ofInt expectedStatus) = true)
      (decoded : Response.ofHeaders response.headers = .ok result) :
      Settled client calls instant (some (.returned (.response response))) 1 (.ok result)

namespace Builder

variable {κ : Type} {owner : κ} {builder : Builder κ} {calls : List (Field × Value)}

theorem value?_created (built : (create owner).setAll calls = .ok builder) (field : Field) :
    builder.value? field = lastValue? field calls := by
  rw [value?_setAll built field]
  cases field <;> simp [create, value?]

theorem missingParameter?_created (built : (create owner).setAll calls = .ok builder) :
    builder.missingParameter? = firstMissing? calls := by
  simp only [missingParameter?, firstMissing?, value?_created built]

theorem uri_heldParameters (client : Client)
    (built : (create owner).setAll calls = .ok builder) :
    uri (.string client.blobEndpoint) builder.heldParameters = addressOf client calls := by
  have container : builder.containerName = lastValue? .containerName calls :=
    value?_created built .containerName
  have blob : builder.blobName = lastValue? .blobName calls := value?_created built .blobName
  have timeout : builder.timeout = lastValue? .timeout calls := value?_created built .timeout
  simp [uri, addressOf, heldParameters, container, blob, timeout]

end Builder

theorem timeoutSignal?_ofConfig (world : World) (config : Config) :
    ∃ armed, world.timeoutSignal? (Client.ofConfig config).requestTimeout = some armed := by
  unfold World.timeoutSignal? Client.ofConfig RequestTimeout.toValue
  cases config.requestTimeout with
  | never => exact ⟨(world, none), by simp [Value.isTruthy]⟩
  | milliseconds count =>
      by_cases truthy : (Value.number count).isTruthy
      · exact ⟨_, by simp only [truthy, Bool.not_true, Value.toNumber?]; rfl⟩
      · exact ⟨(world, none), by simp [truthy]⟩

theorem exchangeFailure_transport (message : Text) (cause : Option Value) :
    exchangeFailure (.failure (Failure.transport message cause)) =
      Failure.transport message cause := by
  simp [exchangeFailure, Failure.transport, Failure.ofRequest, Failure.withCause, Failure.plain,
    ErrorClass.isA]

theorem afterConclusion_transport (parameters : Parameters) (message : Text)
    (cause : Option Value) :
    Stage.afterConclusion (.delete parameters) (.failed (Failure.transport message cause)) =
      .deleted (.failed (Failure.transport message cause)) := by
  simp [Stage.afterConclusion, performedOf, Stage.afterPerformed, afterExchange,
    exchangeFailure_transport]

/-- How a delete starts on a client with checked settings: it ends at one of the stages before the
transport, or its request is sent and it waits. -/
inductive Started (client : Client) (calls : List (Field × Value)) (instant : Option Int) :
    Stage → Option WireRequest → Prop where
  | ended {outcome : Outcome Response}
      (settled : ∀ reply?, Settled client calls instant reply? 0 outcome) :
      Started client calls instant (.deleted outcome) none
  | waiting {parameters : Parameters} {exchange : Exchange} {request : WireRequest}
      (passed : Passed client calls instant) (own : exchange.verb = verb) :
      Started client calls instant (.exchanging (.delete parameters) exchange) (some request)

theorem stage?_add (traffic : Traffic) (world : World) (call : Call) :
    (Traffic.add { traffic with world } call).stage? traffic.calls.length = some call.stage := by
  simp [Traffic.add, Traffic.stage?]

section Start

variable {κ : Type} {owner : κ} {builder : Builder κ} {calls : List (Field × Value)}

theorem exchange_started (traffic : Traffic) (config : Config) {parameters : Parameters}
    {container blob address : Text} (typed : parameters.Typed container blob)
    (complete : firstMissing? calls = none)
    (addressed : addressOf (Client.ofConfig config) calls = .ok address) (body : Value)
    (caller : Option SignalId) :
    ∃ stage, (traffic.exchange (Client.ofConfig config) (.delete parameters) address verb
          (mutator parameters) body caller).1.stage? traffic.calls.length = some stage ∧
      Started (Client.ofConfig config) calls traffic.world.instant? stage
        (traffic.exchange (Client.ofConfig config) (.delete parameters) address verb
          (mutator parameters) body caller).2.2 := by
  unfold Traffic.exchange Exchange.start Client.assemble
  cases assembled : (Client.ofConfig config).baseHeaders? traffic.world.instant? with
  | none =>
      refine ⟨_, stage?_add traffic _ _, ?_⟩
      rw [afterConclusion_transport]
      exact .ended fun reply? => .refused complete addressed assembled
  | some headers =>
      obtain ⟨next, added⟩ := mutator_total typed headers
      obtain ⟨armed, armedEq⟩ := timeoutSignal?_ofConfig traffic.world config
      simp only [added, Completion.guarded, armedEq]
      refine ⟨_, stage?_add traffic _ _, ?_⟩
      exact .waiting ⟨complete, ⟨address, addressed⟩, by simp [assembled]⟩ rfl

/-- A delete on a client with checked settings starts in one of these ways. -/
theorem delete_started (traffic : Traffic) (config : Config)
    (declared : ∀ call ∈ calls, call.1.Declares call.2)
    (built : (Builder.create owner).setAll calls = .ok builder) (caller : Option SignalId) :
    ∃ stage, (traffic.delete (Client.ofConfig config) builder caller).1.stage?
          traffic.calls.length = some stage ∧
      Started (Client.ofConfig config) calls traffic.world.instant? stage
        (traffic.delete (Client.ofConfig config) builder caller).2.2 := by
  have typed : builder.Typed :=
    Builder.typed_setAll (Builder.typed_create owner) declared built
  have missing := Builder.missingParameter?_created built
  unfold Traffic.delete prepare
  cases first : firstMissing? calls with
  | some field =>
      rw [Builder.resolve_of_missing (missing.trans first)]
      refine ⟨_, stage?_add traffic traffic.world _, ?_⟩
      exact .ended fun reply? => .missing first
  | none =>
      obtain ⟨resolved, container, blob, parametersTyped⟩ :=
        Builder.resolve_of_complete typed (missing.trans first)
      have address := Builder.uri_heldParameters (Client.ofConfig config) built
      rw [resolved]
      rcases uri_total parametersTyped (Client.ofConfig config).blobEndpoint with
        ⟨made, addressed⟩ | ⟨failure, kind, failed⟩
      · obtain ⟨headers, -, requested⟩ := request_of_uri parametersTyped addressed
        simp only [bind, Outcome.bind, pure, requested]
        exact exchange_started traffic config parametersTyped first (address ▸ addressed) _ caller
      · simp only [bind, Outcome.bind, request_of_failure failed]
        refine ⟨_, stage?_add traffic traffic.world _, ?_⟩
        exact .ended fun reply? => .unaddressed first (address ▸ failed) kind

end Start

theorem conclude_threw (exchange : Exchange) (world : World) (failure : Failure) :
    ∃ cause, (cause = .failure failure ∨ ∃ aborted, cause = Exchange.abortCause aborted) ∧
      (exchange.conclude world (.threw (.failure failure))).2.2 =
        .failed (Failure.transport (Exchange.failedMessage exchange.verb) (some cause)) := by
  refine ⟨exchange.causeOf (exchange.release world) (.failure failure), ?_, rfl⟩
  unfold Exchange.causeOf
  split
  · exact .inr ⟨_, rfl⟩
  · exact .inl rfl

theorem checkStatus_unread {response : BlobStorage.Response} {failure : Failure}
    (unread : response.body = .threw (.failure failure)) (expected : Value) :
    response.checkStatus expected =
      .failed (Failure.transport BlobStorage.Response.unreadableBody
        (some (.failure failure))) := by
  unfold BlobStorage.Response.checkStatus
  rw [unread]
  rfl

theorem checkStatus_read {response : BlobStorage.Response} {body : Value} {status : Number}
    (read : response.body = .returned body) (answered : response.status = .number status) :
    response.checkStatus (.ofNat expectedStatus) =
      if status.equal (.ofInt expectedStatus) then .ok { headers := response.headers, body }
      else .failed (Failure.unexpectedStatus status.toText response.status body
        response.headers) := by
  have seen : ∀ reason, response.body = .threw reason → reason.isTruthy := by simp [read]
  rw [answered, ← BlobStorage.Response.told_of_returned read]
  exact BlobStorage.Response.checkStatus_of_seen answered seen

/-- The body, the status and the header fields of a response decide, in this order. -/
theorem settled_afterBody {client : Client} {calls : List (Field × Value)} {instant : Option Int}
    {response : BlobStorage.Response} (passed : Passed client calls instant)
    (declared : response.Declared) (parameters : Parameters) :
    Settled client calls instant (some (.returned (.response response))) 1
      (afterBody parameters (some (.response response))).2 := by
  have checks : checkReply (some (.response response)) =
      response.checkStatus (.ofNat expectedStatus) := rfl
  unfold afterBody
  rw [checks]
  rcases declared.body with ⟨text, read⟩ | ⟨failure, unread⟩
  · obtain ⟨status, answered⟩ := declared.status
    rw [checkStatus_read read answered]
    cases expected : status.equal (.ofInt expectedStatus) with
    | false => exact .unexpected passed read answered expected
    | true =>
        rcases Response.ofHeaders_total response.headers with
          ⟨result, decoded⟩ | ⟨failure, kind, undecoded⟩
        · simp only [if_true, decoded]
          exact .decoded passed read answered expected decoded
        · simp only [if_true, undecoded]
          exact .undecoded passed read answered expected undecoded kind
  · rw [checkStatus_unread unread]
    exact .unread passed unread

/-- Every delete on a client with checked settings whose builder was given values of the declared
kinds ends with a response or a failure, and never otherwise, whatever else happens in the run.  The
first stage that fails decides which, and the delete has sent one request if it came to the
transport and none before. -/
theorem delete_settled {κ : Type} {owner : κ} {before : History} {later : List (Event κ)}
    {config : Config} {calls : List (Field × Value)} {builder : Builder κ}
    {caller : Option SignalId} {stage : Stage}
    (reachable : History.Reachable κ before)
    (declared : ∀ call ∈ calls, call.1.Declares call.2)
    (built : (Builder.create owner).setAll calls = .ok builder)
    (replies : ∀ completion, .settle before.traffic.calls.length completion ∈ later →
      Completion.Declared completion)
    (found : (before.run (.delete (Client.ofConfig config) builder caller :: later)).traffic.stage?
      before.traffic.calls.length = some stage)
    (ended : stage.isEnded) :
    ∃ outcome, stage = .deleted outcome ∧
      Settled (Client.ofConfig config) calls before.traffic.world.instant?
        (History.answer? before.traffic.calls.length later)
        ((before.run (.delete (Client.ofConfig config) builder caller :: later)).requestsOf
          before.traffic.calls.length).length outcome := by
  obtain ⟨first, firstFound, start⟩ :=
    delete_started before.traffic config declared built caller
  let client := Client.ofConfig config
  let id := before.traffic.calls.length
  have nextFound : (before.step (.delete client builder caller)).traffic.stage? id = some first :=
    firstFound
  rw [History.requestsOf_run_delete reachable client builder caller later]
  rw [History.run_cons] at found
  generalize (before.traffic.delete client builder caller).2.2 = sent at start
  -- The delete ended at its start, or it came to the transport and waits for the answer.
  cases start with
  | ended settled =>
      have stays := History.stage?_run_of_isEnded nextFound rfl later
      obtain rfl := Option.some.inj (found.symm.trans stays)
      exact ⟨_, rfl, settled _⟩
  | waiting passed own =>
      rename_i parameters exchange request
      rcases History.stage?_run_of_exchanging nextFound later with
        ⟨-, waits⟩ | ⟨completion, world, middle, rest, answered, goesOn, concluded⟩
      · obtain rfl := Option.some.inj (found.symm.trans waits)
        cases ended
      · rw [answered]
        rw [goesOn] at found
        cases replies completion (History.mem_of_answer?_eq_some answered) with
        | failed failure =>
            obtain ⟨cause, known, failed⟩ := conclude_threw exchange world failure
            rw [failed, afterConclusion_transport] at concluded
            have stays := History.stage?_run_of_isEnded concluded rfl rest
            obtain rfl := Option.some.inj (found.symm.trans stays)
            exact ⟨_, rfl, own ▸ .unsent passed known⟩
        | responded declaredResponse =>
            rcases History.stage?_run_of_reading concluded rest with reads | read
            · obtain rfl := Option.some.inj (found.symm.trans reads)
              cases ended
            · obtain rfl := Option.some.inj (found.symm.trans read)
              exact ⟨_, rfl, settled_afterBody passed declaredResponse parameters⟩

/-- Calls in no particular order, one of them made twice. -/
def sampleCalls : List (Field × Value) :=
  [(.timeout, .number (Number.ofInt 30)), (.containerName, .string "draft"),
    (.blobName, .string "2024/a b.jpg"), (.deleteSnapshotsMethod, .string "only"),
    (.containerName, .string "photos"), (.leaseId, .string "lease 1")]

def sampleBuilder : Builder Unit where
  client := ()
  containerName := some (.string "photos")
  blobName := some (.string "2024/a b.jpg")
  deleteSnapshotsMethod := some .snapshotsOnly
  timeout := some (.number (Number.ofInt 30))
  leaseId := some (.string "lease 1")

def sampleConfig : Config where
  accountName := "account1"
  blobEndpoint := none
  apiVersion := Config.defaultApiVersion
  requestTimeout := .milliseconds (Number.ofInt 60000)
  headers := some (some [("x-extra", some "1"), ("X-Ms-Date", none)])
  logging := { level := .info, pretty := false }

def sampleResponse : BlobStorage.Response where
  status := .number (Number.ofInt 202)
  headers := ⟨[("x-ms-delete-type-permanent", "true"), ("x-ms-request-id", "r1")]⟩
  body := .returned (.string "")

/-- A run in which a signal aborts after the response has come and before its body is read. -/
def sampleRun : List (Event Unit) :=
  [.settle 0 (.returned (.response sampleResponse)), .abort 0 .null, .readBody 0]

def sampleResult : Response where
  requestId := "r1"
  clientRequestId := none
  version := none
  date := none
  deleteTypePermanent := some true

theorem ofHeaders_sampleResponse :
    Response.ofHeaders sampleResponse.headers = .ok sampleResult := by
  have sorted : sampleResponse.headers.names =
      ["x-ms-delete-type-permanent", "x-ms-request-id"] :=
    List.mergeSort_of_pairwise (by decide +kernel)
  unfold Response.ofHeaders Headers.view
  rw [sorted]
  rfl

/-- A run in which a caller has made a signal. -/
def sampleBefore : History := (History.start .zero).run ([.signal] : List (Event Unit))

def sampleAfter : History :=
  sampleBefore.run (.delete (Client.ofConfig sampleConfig) sampleBuilder (some 0) :: sampleRun)

theorem delete_settled_sample :
    (∀ call ∈ sampleCalls, call.1.Declares call.2) ∧
      (Builder.create ()).setAll sampleCalls = .ok sampleBuilder ∧
      sampleAfter.traffic.stage? sampleBefore.traffic.calls.length =
        some (.deleted (.ok sampleResult)) ∧
      Settled (Client.ofConfig sampleConfig) sampleCalls sampleBefore.traffic.world.instant?
        (some (.returned (.response sampleResponse))) 1 (.ok sampleResult) := by
  have declared : ∀ call ∈ sampleCalls, call.1.Declares call.2 := by
    simp only [sampleCalls, List.forall_mem_cons, List.not_mem_nil, false_implies, implies_true,
      and_true]
    exact ⟨⟨_, rfl⟩, ⟨_, rfl⟩, ⟨_, rfl⟩, ⟨.snapshotsOnly, rfl⟩, ⟨_, rfl⟩, ⟨_, rfl⟩⟩
  have built : (Builder.create ()).setAll sampleCalls = .ok sampleBuilder := rfl
  have replies : ∀ completion, .settle sampleBefore.traffic.calls.length completion ∈ sampleRun →
      Completion.Declared completion := by
    intro completion member
    simp only [sampleRun, List.mem_cons, Event.settle.injEq, reduceCtorEq, List.not_mem_nil,
      or_false] at member
    exact member.2 ▸ .responded ⟨⟨_, rfl⟩, .inl ⟨_, rfl⟩⟩
  have finished : (sampleAfter.traffic.stage? sampleBefore.traffic.calls.length).map Stage.isEnded =
      some true := by
    decide +kernel
  have first : sampleBefore.traffic.calls.length = 0 := by decide +kernel
  have answered : History.answer? sampleBefore.traffic.calls.length sampleRun =
      some (.returned (.response sampleResponse)) := by
    rw [first]
    rfl
  have count : (sampleAfter.requestsOf sampleBefore.traffic.calls.length).length = 1 := by
    decide +kernel
  have reachable : History.Reachable Unit sampleBefore := ⟨.zero, [.signal], rfl⟩
  obtain ⟨stage, found, ended⟩ := Option.map_eq_some_iff.mp finished
  obtain ⟨outcome, same, settled⟩ := delete_settled reachable declared built replies found ended
  rw [answered] at settled
  change Settled _ _ _ _ (sampleAfter.requestsOf sampleBefore.traffic.calls.length).length _
    at settled
  rw [count] at settled
  have result : outcome = .ok sampleResult := by
    cases settled with
    | unread _ unread => cases unread
    | unexpected _ _ answered other =>
        cases answered
        cases other
    | undecoded _ _ _ _ undecoded => cases undecoded.symm.trans ofHeaders_sampleResponse
    | decoded _ _ _ _ decoded => exact decoded.symm.trans ofHeaders_sampleResponse
  exact ⟨declared, built, result ▸ same ▸ found, result ▸ settled⟩

end DeleteBlob

end BlobStorage
