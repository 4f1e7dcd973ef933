import BlobStorage.Proofs.CallIsolation
import BlobStorage.Proofs.LooseSignal

/-!
# The signal that a transport was given

A call keeps the signal that its transport was given.  While the transport has not settled, that
signal aborts with the signal of the caller and with the timer.  While the body of the reply is
read, it is the caller's own if there was no deadline, and loose if there was one.
-/

namespace BlobStorage

namespace Traffic

variable {κ : Type} {traffic : Traffic} {id : CallId}

/-- The signal that the transport of a call was given. -/
def signal? (traffic : Traffic) (id : CallId) : Option SignalId :=
  (traffic.calls[id]?).bind Call.signal

theorem signal?_setStage (traffic : Traffic) (id other : CallId) (stage : Stage) :
    (traffic.setStage id stage).signal? other = traffic.signal? other := by
  unfold setStage signal?
  rw [List.getElem?_modify]
  by_cases same : id = other
  · cases traffic.calls[other]? <;> simp [same]
  · simp [same]

theorem Extends.signal?_eq {next : Traffic} (more : traffic.Extends next)
    (started : id < traffic.calls.length) : next.signal? id = traffic.signal? id := by
  obtain ⟨call, calls⟩ := more
  rw [signal?, calls, List.getElem?_append_left started, signal?]

theorem signal?_after (started : id < traffic.calls.length) (event : Event κ) :
    (traffic.after event).1.signal? id = traffic.signal? id := by
  cases event with
  | exchange client uri verb mutator body caller => exact (extends_exchange ..).signal?_eq started
  | delete client builder caller => exact (extends_delete ..).signal?_eq started
  | delegate endpoint builder caller => exact (extends_delegate ..).signal?_eq started
  | settle call completion =>
      simp only [after, settle]
      split
      · exact signal?_setStage ..
      · rfl
  | conclude call ending =>
      simp only [after, conclude]
      split
      · exact signal?_setStage ..
      · rfl
  | readBody call =>
      simp only [after, readBody]
      split
      · exact signal?_setStage ..
      · rfl
  | _ => rfl

theorem signal?_add (traffic : Traffic) (call : Call) :
    (traffic.add call).signal? traffic.calls.length = call.signal := by
  simp [signal?, add]

/-- A call starts with an exchange: it has ended at once, or its transport has the signal of the
exchange. -/
theorem exchange_new (traffic : Traffic) (client : Client) (purpose : Purpose) (uri verb : Text)
    (mutator : Client.Mutator) (body : Value) (caller : Option SignalId) :
    ∃ world call,
      (traffic.exchange client purpose uri verb mutator body caller).1 =
        { traffic with world }.add call ∧
      (call.stage.isEnded ∨ ∃ exchange : Exchange,
        call = ⟨exchange.signal, .exchanging purpose exchange⟩) := by
  rw [exchange_eq]
  split
  · exact ⟨traffic.world, _, rfl, .inl (by cases purpose <;> rfl)⟩
  · exact ⟨traffic.world, _, rfl, .inl (by cases purpose <;> rfl)⟩
  · exact ⟨_, _, rfl, .inl (by cases purpose <;> rfl)⟩
  · rename_i timer merged assembled armed
    exact ⟨_, _, rfl, .inr ⟨⟨verb, uri, merged.map Clearable.signal, timer, merged⟩, rfl⟩⟩

theorem delete_new (traffic : Traffic) (client : Client) (builder : DeleteBlob.Builder κ)
    (caller : Option SignalId) :
    ∃ world call, (traffic.delete client builder caller).1 = { traffic with world }.add call ∧
      (call.stage.isEnded ∨ ∃ purpose, ∃ exchange : Exchange,
        call = ⟨exchange.signal, .exchanging purpose exchange⟩) := by
  unfold delete
  split
  · exact ⟨traffic.world, _, rfl, .inl rfl⟩
  · exact ⟨traffic.world, _, rfl, .inl rfl⟩
  · rename_i parameters request prepared
    obtain ⟨world, call, added, ended | ⟨exchange, own⟩⟩ :=
      traffic.exchange_new client (.delete parameters) request.uri request.verb
        (DeleteBlob.mutator parameters) .null caller
    · exact ⟨world, call, added, .inl ended⟩
    · exact ⟨world, call, added, .inr ⟨_, exchange, own⟩⟩

theorem delegate_new (traffic : Traffic) (endpoint : Text) (builder : DeleteBlob.Builder κ)
    (caller : Option SignalId) :
    ∃ call, (traffic.delegate endpoint builder caller).1 = traffic.add call ∧
      (call.stage.isEnded ∨ ∃ parameters, call = ⟨caller, .delegated parameters⟩) := by
  unfold delegate
  split
  · exact ⟨_, rfl, .inl rfl⟩
  · exact ⟨_, rfl, .inl rfl⟩
  · exact ⟨_, rfl, .inr ⟨_, rfl⟩⟩

theorem stage?_of_exchange? {exchange : Exchange} (waits : traffic.exchange? id = some exchange) :
    ∃ purpose, traffic.stage? id = some (.exchanging purpose exchange) := by
  obtain ⟨stage, found, own⟩ := Option.bind_eq_some_iff.mp waits
  cases stage with
  | exchanging purpose exchange =>
      obtain rfl := Option.some.inj own
      exact ⟨purpose, found⟩
  | _ => cases own

theorem world_settle {purpose : Purpose} {exchange : Exchange}
    (waiting : traffic.stage? id = some (.exchanging purpose exchange))
    (completion : Completion Reply) :
    (traffic.settle id completion).1.world = exchange.release traffic.world := by
  unfold settle
  rw [waiting]
  change (exchange.conclude traffic.world completion).1 = _
  unfold Exchange.conclude
  cases completion.guarded <;> rfl

end Traffic

/-- What the signal of a call is, by its stage: that of its exchange while the transport has not
settled; that of the caller if others carry out the exchange; and while a body is read, that of the
caller or a loose one. -/
inductive Handed (world : World) (made : List SignalId) (opening : Opening) :
    Stage → Option SignalId → Prop where
  | exchanging {purpose : Purpose} {exchange : Exchange} :
      Handed world made opening (.exchanging purpose exchange) exchange.signal
  | delegated {parameters : DeleteBlob.Parameters} (never : opening.deadline = none) :
      Handed world made opening (.delegated parameters) opening.caller
  | unbounded {parameters : DeleteBlob.Parameters} {reply : Option Reply}
      (never : opening.deadline = none) :
      Handed world made opening (.reading parameters reply) opening.caller
  | released {parameters : DeleteBlob.Parameters} {reply : Option Reply} {signal : SignalId}
      {deadline : Deadline} (due : opening.deadline = some deadline)
      (loose : world.Loose made signal) :
      Handed world made opening (.reading parameters reply) (some signal)
  | ended {stage : Stage} {signal : Option SignalId} (ended : stage.isEnded) :
      Handed world made opening stage signal

namespace Stage

/-- Whether the body of a reply is read. -/
def isReading : Stage → Bool
  | reading _ _ => true
  | _ => false

theorem eq_reading_of_any {stage? : Option Stage} (reads : stage?.any isReading) :
    ∃ parameters reply, stage? = some (.reading parameters reply) := by
  cases stage? with
  | none => cases reads
  | some stage =>
      cases stage with
      | reading parameters reply => exact ⟨parameters, reply, rfl⟩
      | _ => cases reads

theorem afterPerformed_cases (parameters : DeleteBlob.Parameters)
    (ending : DeleteBlob.Performed) :
    (afterPerformed parameters ending).isEnded ∨
      ∃ reply, afterPerformed parameters ending = .reading parameters reply := by
  cases ending with
  | replied reply => exact .inr ⟨reply, rfl⟩
  | failed error => exact .inl rfl
  | broke reason => exact .inl rfl

theorem afterConclusion_cases (purpose : Purpose) (conclusion : Conclusion) :
    (afterConclusion purpose conclusion).isEnded ∨
      ∃ parameters reply, afterConclusion purpose conclusion = .reading parameters reply := by
  cases purpose with
  | exchange => exact .inl (isEnded_afterConclusion conclusion)
  | delete parameters =>
      rcases afterPerformed_cases parameters (DeleteBlob.performedOf conclusion) with
        ended | ⟨reply, reads⟩
      · exact .inl ended
      · exact .inr ⟨parameters, reply, reads⟩

end Stage

namespace Session

variable {κ : Type}

/-- Every call has the signal that its stage says. -/
def HandsOver (session : Session) : Prop :=
  ∀ ⦃id stage opening⦄, session.traffic.stage? id = some stage →
    session.openings[id]? = some opening →
      Handed session.world session.made opening stage (session.traffic.signal? id)

theorem handed_step {session : Session} (sound : session.Sound) {event : Event κ}
    (admitted : session.Admits event) {id : CallId} {stage : Stage} {opening : Opening}
    (found : session.traffic.stage? id = some stage)
    (opened : session.openings[id]? = some opening) {signal : Option SignalId}
    (handed : Handed session.world session.made opening stage signal) :
    Handed (session.step event).world (session.step event).made opening
      (stage.after session.world id event) signal := by
  -- Only an event of the call itself changes how the signal is handed on.
  cases handed with
  | ended ended =>
      rw [Stage.after_of_isEnded ended]
      exact .ended ended
  | @exchanging purpose exchange =>
      by_cases own : ∃ completion, event = .settle id completion
      · obtain ⟨completion, rfl⟩ := own
        have bounded := sound.bounded (Traffic.exchange?_of_stage? found) opened
        simp only [Stage.after, if_true]
        rcases Stage.afterConclusion_cases purpose
            (exchange.conclude session.world completion).2.2 with ended | ⟨parameters, reply, reads⟩
        · exact .ended ended
        · rw [reads]
          cases due : opening.deadline with
          | none =>
              rw [bounded.signal_of_never due]
              exact .unbounded due
          | some deadline =>
              -- The timer is taken away, so that nothing aborts the signal any more.
              obtain ⟨signal, same, loose⟩ := bounded.loose_release sound.orderly due
              have world : (session.step (.settle id completion : Event κ)).world =
                  exchange.release session.world := Traffic.world_settle found completion
              have made : (session.step (.settle id completion : Event κ)).made = session.made :=
                List.append_nil _
              rw [same]
              refine .released due ?_
              rw [world, made]
              exact loose
      · have waits : (Stage.exchanging purpose exchange).after session.world id event =
            .exchanging purpose exchange := by
          have unsettled : (session.step event).traffic.stage? id =
              some (.exchanging purpose exchange) :=
            History.stage?_step_of_unsettled found fun completion same => own ⟨completion, same⟩
          exact Option.some.inj ((History.stage?_step found event).symm.trans unsettled)
        rw [waits]
        exact .exchanging
  | @delegated parameters never =>
      cases event with
      | conclude call ending =>
          simp only [Stage.after]
          split
          · rcases Stage.afterPerformed_cases parameters ending with ended | ⟨reply, reads⟩
            · exact .ended ended
            · rw [reads]
              exact .unbounded never
          · exact .delegated never
      | _ => exact .delegated never
  | @unbounded parameters reply never =>
      cases event with
      | readBody call =>
          simp only [Stage.after]
          split
          · exact .ended rfl
          · exact .unbounded never
      | _ => exact .unbounded never
  | @released parameters reply own deadline due loose =>
      have later := (loose_step sound admitted loose).1
      cases event with
      | readBody call =>
          simp only [Stage.after]
          split
          · exact .ended rfl
          · exact .released due later
      | _ => exact .released due later

theorem handed_new {session : Session} {event : Event κ} {opening : Opening}
    (opens : event.opening? session.world = some opening) {stage : Stage}
    (found : (session.step event).traffic.stage? session.traffic.calls.length = some stage) :
    Handed (session.step event).world (session.step event).made opening stage
      ((session.step event).traffic.signal? session.traffic.calls.length) := by
  have handed : ∀ (world : World) (call : Call),
      (session.step event).traffic = { session.traffic with world }.add call →
      Handed (session.step event).world (session.step event).made opening call.stage call.signal →
      Handed (session.step event).world (session.step event).made opening stage
        ((session.step event).traffic.signal? session.traffic.calls.length) := by
    intro world call next own
    have first := DeleteBlob.stage?_add session.traffic world call
    have signal := Traffic.signal?_add { session.traffic with world } call
    rw [← next] at first signal
    obtain rfl := Option.some.inj (found.symm.trans first)
    exact signal ▸ own
  cases event with
  | exchange client uri verb mutator body caller =>
      obtain ⟨world, call, added, ended | ⟨exchange, rfl⟩⟩ :=
        session.traffic.exchange_new client .exchange uri verb mutator body caller
      · exact handed world call added (.ended ended)
      · exact handed world _ added .exchanging
  | delete client builder caller =>
      obtain ⟨world, call, added, ended | ⟨purpose, exchange, rfl⟩⟩ :=
        session.traffic.delete_new client builder caller
      · exact handed world call added (.ended ended)
      · exact handed world _ added .exchanging
  | delegate endpoint builder caller =>
      obtain rfl := Option.some.inj opens
      obtain ⟨call, added, ended | ⟨parameters, rfl⟩⟩ :=
        session.traffic.delegate_new endpoint builder caller
      · exact handed session.world call added (.ended ended)
      · exact handed session.world _ added (.delegated rfl)
  | _ => cases opens

theorem HandsOver.step {session : Session} (hands : session.HandsOver) (sound : session.Sound)
    {event : Event κ} (admitted : session.Admits event) : (session.step event).HandsOver := by
  intro id stage opening found opened
  rcases Nat.lt_or_ge id session.traffic.calls.length with started | new
  · obtain ⟨before, was⟩ := Traffic.exists_stage? started
    have earlier : session.openings[id]? = some opening := by
      rw [← opened]
      exact (List.getElem?_append_left (sound.length_eq ▸ started)).symm
    have next := History.stage?_step was event
    obtain rfl := Option.some.inj (found.symm.trans next)
    have same : (session.step event).traffic.signal? id = session.traffic.signal? id :=
      Traffic.signal?_after started event
    rw [same]
    exact handed_step sound admitted was earlier (hands was earlier)
  · -- Only the event itself can have opened a call beyond those that had started.
    have now : (event.opening? session.world).toList[id - session.traffic.calls.length]? =
        some opening := by
      rw [← opened, ← sound.length_eq]
      exact (List.getElem?_append_right (sound.length_eq ▸ new)).symm
    cases opens : event.opening? session.world with
    | none => simp [opens] at now
    | some own =>
        rw [opens] at now
        obtain ⟨last, rfl⟩ : id - session.traffic.calls.length = 0 ∧ own = opening := by
          simpa [List.getElem?_singleton] using now
        obtain rfl : id = session.traffic.calls.length :=
          Nat.le_antisymm (Nat.le_of_sub_eq_zero last) new
        exact handed_new opens found

theorem handsOver_start (origin : Number) : (start origin).HandsOver := by
  intro id stage opening found
  simp [start, History.start, Traffic.start, Traffic.stage?] at found

theorem HandsOver.run {session : Session} (hands : session.HandsOver) (sound : session.Sound)
    {events : List (Event κ)} (admitted : session.AdmitsAll events) :
    (session.run events).HandsOver := by
  induction events generalizing session with
  | nil => exact hands
  | cons event events induction =>
      exact induction (hands.step sound admitted.1) (sound.step admitted.1) admitted.2

theorem Reachable.step {session : Session} (reachable : Reachable κ session) {event : Event κ}
    (admitted : session.Admits event) : Reachable κ (session.step event) := by
  obtain ⟨origin, events, admittedAll, rfl⟩ := reachable
  exact ⟨origin, events ++ [event], admitsAll_append.mpr ⟨admittedAll, admitted, trivial⟩,
    by rw [run_append, run_cons, run_nil]⟩

theorem Reachable.handsOver {session : Session} (reachable : Reachable κ session) :
    session.HandsOver := by
  obtain ⟨origin, events, admitted, rfl⟩ := reachable
  exact (handsOver_start origin).run (sound_start origin) admitted

section Waiting

variable {session : Session} {id : CallId} {purpose : Purpose} {exchange : Exchange}
  {opening : Opening}

/-- The signal of a transport that waits has aborted after an event that stops its call. -/
theorem aborted_of_stops (sound : session.Sound)
    (waiting : session.traffic.stage? id = some (.exchanging purpose exchange))
    (opened : session.openings[id]? = some opening) {event : Event κ}
    (admitted : session.Admits event) {stop : Stop}
    (stops : session.stops? opening event = some stop) :
    ∃ signal reason, exchange.signal = some signal ∧
      (session.step event).world.signals.reason? signal = some reason := by
  have unsettled : ∀ completion, event ≠ .settle id completion := by
    rintro completion rfl
    simp [stops?, Event.abortOf?, Event.fired?] at stops
  have waits := History.stage?_step_of_unsettled waiting unsettled
  have aborted := abortReason?_step sound admitted (Traffic.exchange?_of_stage? waiting)
    (Traffic.exchange?_of_stage? waits) opened
  obtain ⟨reason, now⟩ : ∃ reason,
      exchange.abortReason? (session.step event).world = some reason := by
    rw [aborted, stops]
    cases exchange.abortReason? session.world with
    | none => exact ⟨_, rfl⟩
    | some reason => exact ⟨reason, rfl⟩
  obtain ⟨signal, own, marked⟩ := Option.bind_eq_some_iff.mp now
  exact ⟨signal, reason, own, marked⟩

theorem aborted_of_due (sound : session.Sound)
    (waiting : session.traffic.stage? id = some (.exchanging purpose exchange))
    (opened : session.openings[id]? = some opening) {deadline : Deadline}
    (due : opening.deadline = some deadline) {limit : Number}
    (past : (limit.less deadline.due || deadline.due == .nan) = false)
    (idle : session.world.timers.first? limit = none) :
    ∃ signal reason, exchange.signal = some signal ∧
      session.world.signals.reason? signal = some reason := by
  have bounded := sound.bounded (Traffic.exchange?_of_stage? waiting) opened
  cases aborted : exchange.abortReason? session.world with
  | some reason =>
      obtain ⟨signal, own, marked⟩ := Option.bind_eq_some_iff.mp aborted
      exact ⟨signal, reason, own, marked⟩
  | none =>
      -- Nothing has stopped the call, so its timer is armed, and one of those that are due fires.
      have matched := bounded.matches_of_calm aborted
      rw [Exchange.Matches, aborted] at matched
      have unfired := (World.stop?_eq_none_iff.mp (Option.map_eq_none_iff.mp matched.symm)).2 _ due
      have timed := bounded.timed
      rw [due] at timed
      generalize exchange.timeout = timeout at timed
      cases timed with
      | armed ticking =>
          have fires := Timers.isSome_first?_of_due (ticking.waits unfired).1 past
          rw [idle] at fires
          cases fires

end Waiting

/-- Until its transport has settled, a call is bounded by its timer and by the signal of its caller:
what stops it aborts the signal that the transport was given, and that signal has aborted when the
deadline has passed and no timer is left to fire.  While the body of the reply is read, this holds
only of a call without a deadline, whose transport was given the caller's own signal.  With a
deadline, nothing that can still happen aborts the signal any more. -/
theorem armed_until_reply {session : Session} (reachable : Reachable κ session) {id : CallId}
    {opening : Opening} (opened : session.openings[id]? = some opening) :
    (∀ purpose exchange, session.traffic.stage? id = some (.exchanging purpose exchange) →
      (∀ (event : Event κ) (stop : Stop), session.Admits event →
        session.stops? opening event = some stop →
          ∃ signal reason, session.traffic.signal? id = some signal ∧
            (session.step event).world.signals.reason? signal = some reason) ∧
      ∀ deadline limit, opening.deadline = some deadline →
        (limit.less deadline.due || deadline.due == .nan) = false →
        session.world.timers.first? limit = none →
          ∃ signal reason, session.traffic.signal? id = some signal ∧
            session.world.signals.reason? signal = some reason) ∧
    ∀ parameters reply, session.traffic.stage? id = some (.reading parameters reply) →
      (opening.deadline = none → session.traffic.signal? id = opening.caller) ∧
      ∀ deadline, opening.deadline = some deadline →
        ∃ signal, session.traffic.signal? id = some signal ∧
          ∀ events : List (Event κ), session.AdmitsAll events →
            (session.run events).world.signals.reason? signal =
              session.world.signals.reason? signal := by
  have sound := reachable.sound
  constructor
  · intro purpose exchange waiting
    have handed := reachable.handsOver waiting opened
    generalize session.traffic.signal? id = handedSignal at handed
    cases handed with
    | exchanging =>
        exact ⟨fun event stop admitted => aborted_of_stops sound waiting opened admitted,
          fun deadline limit due => aborted_of_due sound waiting opened due⟩
    | ended ended => cases ended
  · intro parameters reply reading
    have handed := reachable.handsOver reading opened
    generalize session.traffic.signal? id = handedSignal at handed
    cases handed with
    | unbounded never =>
        refine ⟨fun _ => rfl, fun deadline due => ?_⟩
        cases never.symm.trans due
    | @released _ _ signal _ due loose =>
        refine ⟨fun never => ?_, fun _ _ => ⟨signal, rfl, fun events admitted => ?_⟩⟩
        · cases never.symm.trans due
        · exact loose_run sound admitted loose
    | ended ended => cases ended

/-- A session in which a delete was started with the signal of a caller. -/
def waitingSession : Session :=
  (start .zero).run [.signal,
    .delete (Client.ofConfig DeleteBlob.sampleConfig) DeleteBlob.sampleBuilder (some 0)]

/-- The transport responds. -/
def sampleReply : Event Unit := .settle 0 (.returned (.response DeleteBlob.sampleResponse))

/-- The same session when the body of the reply is read. -/
def readingSession : Session := waitingSession.step sampleReply

theorem reachable_waitingSession : Reachable Unit waitingSession :=
  ⟨.zero, _, by simp [AdmitsAll, Admits, Event.named?, step, start, Event.made?]; rfl, rfl⟩

theorem reachable_readingSession : Reachable Unit readingSession :=
  reachable_waitingSession.step (by simp [Admits, sampleReply, Event.named?])

theorem opening_waitingSession : ∃ deadline,
    waitingSession.openings[0]? = some ⟨some 0, some deadline⟩ := by
  have callers : waitingSession.openings.map Opening.caller = [some 0] := by decide +kernel
  have deadlines : (waitingSession.openings.map fun opening => opening.deadline.isSome) = [true] :=
    by decide +kernel
  obtain ⟨⟨caller, deadline⟩, same, rfl⟩ := List.map_eq_singleton_iff.mp callers
  rw [same] at deadlines ⊢
  obtain ⟨deadline, rfl⟩ := Option.isSome_iff_exists.mp (List.singleton_inj.mp deadlines)
  exact ⟨deadline, rfl⟩

/-- The caller's abort reaches the transport while it has not settled, and nothing does while the
body of its reply is read. -/
theorem armed_until_reply_sample :
    waitingSession.traffic.signal? 0 = some 2 ∧
      (∃ reason, (waitingSession.step (.abort 0 .null : Event Unit)).world.signals.reason? 2 =
        some reason) ∧
      readingSession.traffic.signal? 0 = some 2 ∧
      ∀ events : List (Event Unit), readingSession.AdmitsAll events →
        (readingSession.run events).world.signals.reason? 2 = none := by
  obtain ⟨deadline, opened⟩ := opening_waitingSession
  have handed : waitingSession.traffic.signal? 0 = some 2 := by decide +kernel
  have stillHanded : readingSession.traffic.signal? 0 = some 2 := by decide +kernel
  have waits : (waitingSession.traffic.exchange? 0).isSome := by decide +kernel
  have reads : (readingSession.traffic.stage? 0).any Stage.isReading := by decide +kernel
  have calm : readingSession.world.signals.isAborted 2 = false := by decide +kernel
  obtain ⟨exchange, waits⟩ := Option.isSome_iff_exists.mp waits
  obtain ⟨purpose, waiting⟩ := Traffic.stage?_of_exchange? waits
  obtain ⟨parameters, reply, reading⟩ := Stage.eq_reading_of_any reads
  refine ⟨handed, ?_, stillHanded, ?_⟩
  · obtain ⟨signal, reason, own, aborted⟩ :=
      ((armed_until_reply reachable_waitingSession opened).1 _ _ waiting).1 (.abort 0 .null)
        (.caller .null)
        (by simp [Admits, waitingSession, Event.named?, step, start, Event.made?]; rfl)
        (by simp [stops?, Event.abortOf?])
    obtain rfl := Option.some.inj (handed.symm.trans own)
    exact ⟨reason, aborted⟩
  · intro events admitted
    obtain ⟨signal, own, same⟩ := ((armed_until_reply reachable_readingSession
      (opening_step opened sampleReply)).2 _ _ reading).2 deadline rfl
    obtain rfl := Option.some.inj (stillHanded.symm.trans own)
    rw [same events admitted]
    exact Signals.isAborted_eq_false_iff.mp calm

/-- The caller aborts and the deadline passes while the body of a reply is read: the delete has not
ended, and the signal that its transport was given has not aborted. -/
theorem reading_outlives_deadline :
    let later := readingSession.run
      ([.abort 0 .null, .elapse (Number.ofInt 60000)] : List (Event Unit))
    (later.traffic.stage? 0).map Stage.isEnded = some false ∧
      later.world.signals.isAborted 0 = true ∧
      ((later.openings[0]?.bind Opening.deadline).any fun deadline =>
        !later.world.clock.less deadline.due) = true ∧
      later.traffic.signal? 0 = some 2 ∧ later.world.signals.isAborted 2 = false := by
  decide +kernel

end Session

end BlobStorage
