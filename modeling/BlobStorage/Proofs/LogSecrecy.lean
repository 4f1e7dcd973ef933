import BlobStorage.Proofs.CallHistory
import BlobStorage.Proofs.SecretLeases

/-!
# Logs keep secrets

Two runs that differ in nothing but secrets write the same log entries: secrets stand in the header
fields of the configuration, in any case, or are set as leases, and the clock and the answers of the
transport are the same in both.  A run is veiled by putting the mark in the place of the leases that
its calls hold; events that are alike write the same entries in runs that are veiled alike, and
leave them veiled alike.
-/

namespace BlobStorage

def Purpose.veiled : Purpose → Purpose
  | .exchange => .exchange
  | .delete parameters => .delete parameters.veiled

def Stage.veiled : Stage → Stage
  | .exchanging purpose exchange => .exchanging purpose.veiled exchange
  | .delegated parameters => .delegated parameters.veiled
  | .reading parameters reply => .reading parameters.veiled reply
  | .performed outcome => .performed outcome
  | .deleted outcome => .deleted outcome

def Call.veiled (call : Call) : Call := { call with stage := call.stage.veiled }

def WireRequest.veiled (request : WireRequest) : WireRequest :=
  { request with headers := request.headers.veiled }

def Beginning.veiled : Beginning → Beginning
  | .refused failure => .refused failure
  | .broken reason => .broken reason
  | .sent exchange request => .sent exchange request.veiled

namespace Stage

theorem afterPerformed_veiled (parameters : DeleteBlob.Parameters)
    (ending : DeleteBlob.Performed) :
    afterPerformed parameters.veiled ending = (afterPerformed parameters ending).veiled := by
  unfold afterPerformed
  split <;> rfl

theorem afterConclusion_veiled (purpose : Purpose) (conclusion : Conclusion) :
    afterConclusion purpose.veiled conclusion = (afterConclusion purpose conclusion).veiled := by
  cases purpose with
  | exchange => cases conclusion <;> rfl
  | delete parameters =>
      simp only [Purpose.veiled, afterConclusion]
      exact afterPerformed_veiled parameters _

theorem broken_veiled (purpose : Purpose) (reason : Value) :
    broken reason purpose.veiled = (broken reason purpose).veiled := by
  cases purpose <;> rfl

end Stage

theorem Completion.cases_of_map_eq {α β : Type} {left right : Completion α} {f : α → β}
    (same : left.map f = right.map f) :
    (∃ first second, left = .returned first ∧ right = .returned second ∧ f first = f second) ∨
      ∃ reason, left = .threw reason ∧ right = .threw reason := by
  cases left <;> cases right <;> simp_all [Completion.map]

namespace Exchange

/-- Requests whose fields are the same but for secrets start alike: the same happens to the world,
the same is logged, and the same is sent but for the secrets. -/
theorem start_alike {left right : Client} {world : World}
    {leftMutator rightMutator : Client.Mutator} (uri verb : Text) (body : Value)
    (caller : Option SignalId)
    (assembled : (left.assemble world.instant? leftMutator).map Headers.veiled =
      (right.assemble world.instant? rightMutator).map Headers.veiled)
    (timeout : left.requestTimeout = right.requestTimeout) :
    ∃ (next : World) (entries : List LogEntry) (first second : Beginning),
      start left world uri verb leftMutator body caller = (next, entries, first) ∧
      start right world uri verb rightMutator body caller = (next, entries, second) ∧
      first.veiled = second.veiled := by
  unfold start
  rw [timeout]
  rcases Completion.cases_of_map_eq assembled with
    ⟨first, second, returned, otherReturned, same⟩ | ⟨reason, threw, otherThrew⟩
  · rw [returned, otherReturned]
    dsimp only [Completion.guarded]
    cases world.timeoutSignal? right.requestTimeout with
    | none => exact ⟨_, _, _, _, rfl, rfl, rfl⟩
    | some timed =>
        have logged : sentEntry verb uri first = sentEntry verb uri second := by
          rw [sentEntry, ← Headers.redacted_veiled, same, Headers.redacted_veiled, sentEntry]
        dsimp only
        rw [logged]
        refine ⟨_, _, _, _, rfl, rfl, ?_⟩
        simp only [Beginning.veiled, WireRequest.veiled, same]
  · rw [threw, otherThrew]
    exact ⟨_, _, _, _, rfl, rfl, rfl⟩

end Exchange

namespace Traffic

def veiled (traffic : Traffic) : Traffic := { traffic with calls := traffic.calls.map Call.veiled }

theorem stage?_veiled (traffic : Traffic) (id : CallId) :
    traffic.veiled.stage? id = (traffic.stage? id).map Stage.veiled := by
  unfold stage? veiled
  rw [List.getElem?_map, Option.map_map, Option.map_map]
  rfl

theorem add_veiled (traffic : Traffic) (call : Call) :
    (traffic.add call).veiled = traffic.veiled.add call.veiled := by
  unfold add veiled
  rw [List.map_append]
  rfl

theorem setStage_veiled (traffic : Traffic) (id : CallId) (stage : Stage) :
    (traffic.setStage id stage).veiled = traffic.veiled.setStage id stage.veiled := by
  unfold setStage veiled
  congr 1
  apply List.ext_getElem?
  intro place
  simp only [List.getElem?_map, List.getElem?_modify]
  cases traffic.calls[place]? with
  | none => rfl
  | some call =>
      by_cases own : id = place
      · simp [own, Call.veiled]
      · simp [own]

/-- What two runs have in common when they are veiled alike after an event: the calls but for their
leases, and the log entries. -/
def visible (result : Traffic × List LogEntry × Option WireRequest) : Traffic × List LogEntry :=
  (result.1.veiled, result.2.1)

theorem withWorld_alike {left right : Traffic} (alike : left.veiled = right.veiled)
    (world : World) :
    ({ left with world } : Traffic).veiled = ({ right with world } : Traffic).veiled := by
  have calls : left.calls.map Call.veiled = right.calls.map Call.veiled :=
    congrArg (fun traffic => traffic.calls) alike
  rw [veiled, veiled, calls]

theorem add_alike {left right : Traffic} (alike : left.veiled = right.veiled)
    {signal : Option SignalId} {stage other : Stage} (stages : stage.veiled = other.veiled) :
    (left.add ⟨signal, stage⟩).veiled = (right.add ⟨signal, other⟩).veiled := by
  rw [add_veiled, add_veiled, alike, Call.veiled, Call.veiled, stages]

theorem exchange_alike {left right : Traffic} {client other : Client} {purpose own : Purpose}
    {leftMutator rightMutator : Client.Mutator} (uri verb : Text) (body : Value)
    (caller : Option SignalId) (traffics : left.veiled = right.veiled)
    (purposes : purpose.veiled = own.veiled)
    (assembled : (client.assemble left.world.instant? leftMutator).map Headers.veiled =
      (other.assemble left.world.instant? rightMutator).map Headers.veiled)
    (timeout : client.requestTimeout = other.requestTimeout) :
    visible (left.exchange client purpose uri verb leftMutator body caller) =
      visible (right.exchange other own uri verb rightMutator body caller) := by
  have worlds : left.world = right.world := congrArg (fun traffic => traffic.world) traffics
  obtain ⟨next, entries, first, second, started, otherStarted, same⟩ :=
    Exchange.start_alike uri verb body caller assembled timeout
  have moved := withWorld_alike traffics next
  unfold exchange
  rw [started, ← worlds, otherStarted]
  -- What is veiled still shows which of the three ways a request begins in.
  cases first with
  | refused failure =>
      cases second with
      | refused others =>
          obtain rfl := Beginning.refused.inj same
          have stages : (Stage.afterConclusion purpose (.failed failure)).veiled =
              (Stage.afterConclusion own (.failed failure)).veiled := by
            rw [← Stage.afterConclusion_veiled, purposes, Stage.afterConclusion_veiled]
          exact congrArg (·, entries) (add_alike moved stages)
      | _ => cases same
  | broken reason =>
      cases second with
      | broken others =>
          obtain rfl := Beginning.broken.inj same
          have stages :
              (Stage.broken reason purpose).veiled = (Stage.broken reason own).veiled := by
            rw [← Stage.broken_veiled, purposes, Stage.broken_veiled]
          exact congrArg (·, entries) (add_alike moved stages)
      | _ => cases same
  | sent exchange request =>
      cases second with
      | sent others wire =>
          obtain ⟨rfl, requests⟩ := Beginning.sent.inj same
          have signals : request.signal = wire.signal :=
            congrArg (fun request => request.signal) requests
          have stages : (Stage.exchanging purpose exchange).veiled =
              (Stage.exchanging own exchange).veiled :=
            congrArg (Stage.exchanging · exchange) purposes
          dsimp only
          rw [signals]
          exact congrArg (·, entries) (add_alike moved stages)
      | _ => cases same

theorem delete_alike {κ : Type} {left right : Traffic} {client other : Client}
    {builder own : DeleteBlob.Builder κ} (caller : Option SignalId)
    (traffics : left.veiled = right.veiled) (clients : client.Alike other)
    (builders : builder.veiled = own.veiled) :
    visible (left.delete client builder caller) = visible (right.delete other own caller) := by
  unfold delete
  rw [clients.blobEndpoint_eq]
  rcases Outcome.cases_of_map_eq (DeleteBlob.prepare_alike builders other.blobEndpoint) with
    ⟨⟨parameters, request⟩, ⟨others, wire⟩, prepared, otherPrepared, same⟩ |
      ⟨failure, prepared, otherPrepared⟩ | ⟨reason, prepared, otherPrepared⟩
  · obtain ⟨held, requests⟩ := Prod.mk.inj same
    have uri : request.uri = wire.uri := congrArg (fun request => request.uri) requests
    have verb : request.verb = wire.verb := congrArg (fun request => request.verb) requests
    have assembled := Client.assemble_alike
      (clients.baseHeaders?_veiled left.world.instant?) (DeleteBlob.mutator_alike held)
    have purposes : (Purpose.delete parameters).veiled = (Purpose.delete others).veiled :=
      congrArg Purpose.delete held
    have started := exchange_alike wire.uri wire.verb .null caller traffics purposes assembled
      clients.requestTimeout_eq
    obtain ⟨traffics, entries⟩ := Prod.mk.inj started
    rw [prepared, otherPrepared]
    dsimp only [visible]
    rw [uri, verb, traffics, entries]
  · rw [prepared, otherPrepared]
    exact congrArg (·, []) (add_alike traffics rfl)
  · rw [prepared, otherPrepared]
    exact congrArg (·, []) (add_alike traffics rfl)

theorem delegate_alike {κ : Type} {left right : Traffic} {builder own : DeleteBlob.Builder κ}
    (endpoint : Text) (caller : Option SignalId) (traffics : left.veiled = right.veiled)
    (builders : builder.veiled = own.veiled) :
    (left.delegate endpoint builder caller).1.veiled =
        (right.delegate endpoint own caller).1.veiled ∧
      (left.delegate endpoint builder caller).2.1 = (right.delegate endpoint own caller).2.1 := by
  unfold delegate
  rcases Outcome.cases_of_map_eq (DeleteBlob.prepare_alike builders endpoint) with
    ⟨⟨parameters, request⟩, ⟨others, wire⟩, prepared, otherPrepared, same⟩ |
      ⟨failure, prepared, otherPrepared⟩ | ⟨reason, prepared, otherPrepared⟩
  · obtain ⟨held, requests⟩ := Prod.mk.inj same
    have uri : request.uri = wire.uri := congrArg (fun request => request.uri) requests
    rw [prepared, otherPrepared]
    dsimp only
    rw [uri]
    exact ⟨add_alike traffics (congrArg Stage.delegated held), rfl⟩
  · rw [prepared, otherPrepared]
    exact ⟨add_alike traffics rfl, rfl⟩
  · rw [prepared, otherPrepared]
    exact ⟨add_alike traffics rfl, rfl⟩

theorem settle_veiled (traffic : Traffic) (id : CallId) (completion : Completion Reply) :
    traffic.veiled.settle id completion =
      ((traffic.settle id completion).1.veiled, (traffic.settle id completion).2) := by
  unfold settle
  rw [stage?_veiled]
  cases traffic.stage? id with
  | none => rfl
  | some stage =>
      cases stage with
      | exchanging purpose exchange =>
          dsimp only [Option.map_some, Stage.veiled]
          rw [setStage_veiled, Stage.afterConclusion_veiled]
          rfl
      | _ => rfl

theorem conclude_veiled (traffic : Traffic) (id : CallId) (ending : DeleteBlob.Performed) :
    traffic.veiled.conclude id ending = (traffic.conclude id ending).veiled := by
  unfold conclude
  rw [stage?_veiled]
  cases traffic.stage? id with
  | none => rfl
  | some stage =>
      cases stage with
      | delegated parameters =>
          dsimp only [Option.map_some, Stage.veiled]
          rw [setStage_veiled, Stage.afterPerformed_veiled]
      | _ => rfl

theorem readBody_veiled (traffic : Traffic) (id : CallId) :
    traffic.veiled.readBody id =
      ((traffic.readBody id).1.veiled, (traffic.readBody id).2) := by
  unfold readBody
  rw [stage?_veiled]
  cases traffic.stage? id with
  | none => rfl
  | some stage =>
      cases stage with
      | reading parameters reply =>
          dsimp only [Option.map_some, Stage.veiled]
          rw [setStage_veiled]
          rfl
      | _ => rfl

end Traffic

namespace Event

variable {κ : Type}

/-- Whether an event starts a call. -/
def isStart : Event κ → Bool
  | .exchange .. | .delete .. | .delegate .. => true
  | _ => false

/-- Two events are the same, or start calls that differ in secrets only: in secret header fields of
their clients, or in leases that their builders were given.  An operation of the caller's own may
change the fields of a request as long as it keeps secrets apart. -/
inductive Alike : Event κ → Event κ → Prop where
  | same {event : Event κ} (noStart : event.isStart = false) : Alike event event
  | exchange {client other : Client} {leftMutator rightMutator : Client.Mutator}
      (clients : client.Alike other) (uri verb : Text)
      (mutators : Client.Mutator.Alike leftMutator rightMutator) (body : Value)
      (caller : Option SignalId) :
      Alike (.exchange client uri verb leftMutator body caller)
        (.exchange other uri verb rightMutator body caller)
  | delete {client other : Client} {calls others : List (DeleteBlob.Field × Value)}
      (clients : client.Alike other) (owner : κ)
      (histories : List.Forall₂ DeleteBlob.Builder.CallAlike calls others)
      (caller : Option SignalId) :
      Alike (.delete client ((DeleteBlob.Builder.create owner).setEach calls) caller)
        (.delete other ((DeleteBlob.Builder.create owner).setEach others) caller)
  | delegate {calls others : List (DeleteBlob.Field × Value)} (endpoint : Text) (owner : κ)
      (histories : List.Forall₂ DeleteBlob.Builder.CallAlike calls others)
      (caller : Option SignalId) :
      Alike (.delegate endpoint ((DeleteBlob.Builder.create owner).setEach calls) caller)
        (.delegate endpoint ((DeleteBlob.Builder.create owner).setEach others) caller)

end Event

namespace Traffic

variable {κ : Type}

/-- An event that starts no call does the same in a run as in the veiled one. -/
theorem after_veiled (traffic : Traffic) {event : Event κ} (noStart : event.isStart = false) :
    visible (traffic.after event) =
      ((traffic.veiled.after event).1, (traffic.veiled.after event).2.1) := by
  cases event with
  | signal => rfl
  | exchange | delete | delegate => cases noStart
  | watch call =>
      have signal : (traffic.veiled.calls[call]?).bind Call.signal =
          (traffic.calls[call]?).bind Call.signal := by
        rw [veiled, List.getElem?_map]
        cases traffic.calls[call]? <;> rfl
      dsimp only [after, visible]
      rw [signal]
      rfl
  | settle call completion =>
      dsimp only [after, visible]
      rw [settle_veiled]
  | conclude call ending =>
      dsimp only [after, visible]
      rw [conclude_veiled]
  | readBody call =>
      dsimp only [after, visible]
      rw [readBody_veiled]
  | abort signal reason => rfl
  | elapse limit => rfl

/-- Events that are alike write the same entries in runs that are veiled alike, and leave them
veiled alike. -/
theorem after_alike {left right : Traffic} {event other : Event κ}
    (traffics : left.veiled = right.veiled) (events : event.Alike other) :
    visible (left.after event) = visible (right.after other) := by
  cases events with
  | same noStart => rw [after_veiled left noStart, after_veiled right noStart, traffics]
  | exchange clients uri verb mutators body caller =>
      have assembled := Client.assemble_alike
        (clients.baseHeaders?_veiled left.world.instant?) mutators
      exact exchange_alike uri verb body caller traffics rfl assembled clients.requestTimeout_eq
  | delete clients owner histories caller =>
      have builders := DeleteBlob.Builder.setEach_alike
        (rfl : (DeleteBlob.Builder.create owner).veiled = _) histories
      exact delete_alike caller traffics clients builders
  | delegate endpoint owner histories caller =>
      have builders := DeleteBlob.Builder.setEach_alike
        (rfl : (DeleteBlob.Builder.create owner).veiled = _) histories
      obtain ⟨next, entries⟩ := delegate_alike endpoint caller traffics builders
      exact Prod.ext next entries

end Traffic

namespace History

variable {κ : Type}

theorem step_alike {left right : History} {event other : Event κ}
    (traffics : left.traffic.veiled = right.traffic.veiled) (entries : left.entries = right.entries)
    (events : event.Alike other) :
    (left.step event).traffic.veiled = (right.step other).traffic.veiled ∧
      (left.step event).entries = (right.step other).entries := by
  obtain ⟨next, logged⟩ := Prod.mk.inj (Traffic.after_alike traffics events)
  exact ⟨next, by simp only [step, entries, logged]⟩

theorem run_alike {left right : History} {events others : List (Event κ)}
    (traffics : left.traffic.veiled = right.traffic.veiled) (entries : left.entries = right.entries)
    (alike : List.Forall₂ Event.Alike events others) :
    (left.run events).entries = (right.run others).entries := by
  induction alike generalizing left right with
  | nil => exact entries
  | cons first rest induction =>
      obtain ⟨next, logged⟩ := step_alike traffics entries first
      exact induction next logged

/-- What a log shows of a run does not depend on secrets: two runs from the same instant whose
events differ in nothing else write the same entries, with the same levels, messages and fields. -/
theorem entries_eq_of_alike {events others : List (Event κ)} (origin : Number)
    (alike : List.Forall₂ Event.Alike events others) :
    ((start origin).run events).entries = ((start origin).run others).entries :=
  run_alike rfl rfl alike

/-- Settings with a secret under an unusual spelling of its name. -/
def secretConfig (secret : Text) : Config where
  accountName := "account1"
  blobEndpoint := none
  apiVersion := Config.defaultApiVersion
  requestTimeout := .milliseconds (Number.ofInt 60000)
  headers := some (some [("x-extra", some "1"), ("AuthoriZation", some secret)])
  logging := { level := .info, pretty := false }

def secretCalls (lease : Text) : List (DeleteBlob.Field × Value) :=
  [(.containerName, .string "photos"), (.leaseId, .string lease), (.blobName, .string "a.jpg"),
    (.deleteSnapshotsMethod, .string "include")]

def secretDelete (secret lease : Text) : Event Unit :=
  .delete (Client.ofConfig (secretConfig secret))
    ((DeleteBlob.Builder.create ()).setEach (secretCalls lease)) none

/-- One delete is answered with an error of the service, and the time of another one is up. -/
def secretAnswers : List (Event Unit) :=
  [.settle 0 (.returned (.response
      { status := .number (Number.ofInt 404)
        headers := ⟨[("x-ms-error-code", "BlobNotFound")]⟩
        body := .returned (.string "") })),
    .readBody 0, .elapse (Number.ofInt 60000), .settle 1 (.threw (.string "closed"))]

def secretRun (secret lease : Text) : History :=
  (start .zero).run (secretDelete secret lease :: secretDelete secret lease :: secretAnswers)

theorem secrets_sent_not_logged :
    (secretRun "Bearer one" "lease 1").entries = (secretRun "Bearer two" "lease 2").entries ∧
      (secretRun "Bearer one" "lease 1").entries.length = 6 ∧
      (secretRun "Bearer one" "lease 1").sent.map (fun sent =>
        (sent.2.headers.get? "authorization", sent.2.headers.get? "x-ms-lease-id")) =
        List.replicate 2 (some (Text.ofString "Bearer one"), some (Text.ofString "lease 1")) := by
  have secrets : Client.FieldAlike ("AuthoriZation", some "Bearer one")
      ("AuthoriZation", some "Bearer two") :=
    .secret (by decide) (by decide) (by decide)
  have fields : List.Forall₂ Client.FieldAlike (secretConfig "Bearer one").fields
      (secretConfig "Bearer two").fields :=
    .cons (.same _) (.cons secrets .nil)
  have others : { secretConfig "Bearer one" with headers := none } =
      { secretConfig "Bearer two" with headers := none } := by
    unfold secretConfig
    rfl
  have clients := Client.alike_ofConfig others fields
  have leases : DeleteBlob.Builder.CallAlike (.leaseId, .string "lease 1")
      (.leaseId, .string "lease 2") :=
    .lease (by simp) (by decide) (by simp) (by decide)
  have histories : List.Forall₂ DeleteBlob.Builder.CallAlike (secretCalls "lease 1")
      (secretCalls "lease 2") :=
    .cons (.same _) (.cons leases (.cons (.same _) (.cons (.same _) .nil)))
  have deletes :
      (secretDelete "Bearer one" "lease 1").Alike (secretDelete "Bearer two" "lease 2") :=
    .delete clients () histories none
  have answers : List.Forall₂ Event.Alike secretAnswers secretAnswers := by
    rw [List.forall₂_same]
    simp only [secretAnswers, List.forall_mem_cons, List.not_mem_nil, false_implies, implies_true,
      and_true]
    exact ⟨.same rfl, .same rfl, .same rfl, .same rfl⟩
  have entries := entries_eq_of_alike .zero (.cons deletes (.cons deletes answers))
  exact ⟨entries, by decide +kernel, by decide +kernel⟩

end History

end BlobStorage
