import BlobStorage.Proofs.ExchangeResult

/-!
# A call alone

From a session one can keep the steps of a single call, with the aborts of the signal that it was
started with (`ownSteps`), and take these alone, each at its own clock time (`replay`).  In that run
the call is the first one, its signal the first signal and its timer the first timer.  `Expects`
says how far that run has come when the call starts, and `Mirrors` what the two runs have in common
from then on.
-/

namespace BlobStorage

/-- What a service sees of a request. -/
def WireRequest.content (request : WireRequest) : Text × Text × Headers × Value :=
  (request.verb, request.uri, request.headers, request.body)

namespace Stage

/-- A stage without the names that a run gives to signals and timers. -/
def bare : Stage → Stage
  | exchanging purpose exchange =>
      exchanging purpose { exchange with signal := none, timeout := none, merged := none }
  | stage => stage

end Stage

namespace Session

variable {κ : Type}

/-- What an event is in the run of a call alone, if it is one of its own: there it is the first
call, and its caller's signal the first signal. -/
def ownEvent? (session : Session) (id : CallId) (caller : Option SignalId) :
    Event κ → Option (Event κ)
  | .signal => if caller = some session.world.signals.length then some .signal else none
  | .exchange client uri verb mutator body caller =>
      if session.traffic.calls.length = id then
        some (.exchange client uri verb mutator body (caller.map fun _ => 0))
      else none
  | .delete client builder caller =>
      if session.traffic.calls.length = id then
        some (.delete client builder (caller.map fun _ => 0))
      else none
  | .delegate endpoint builder caller =>
      if session.traffic.calls.length = id then
        some (.delegate endpoint builder (caller.map fun _ => 0))
      else none
  | .watch call => if call = id then some (.watch 0) else none
  | .settle call completion => if call = id then some (.settle 0 completion) else none
  | .conclude call ending => if call = id then some (.conclude 0 ending) else none
  | .readBody call => if call = id then some (.readBody 0) else none
  | .abort signal reason => if caller = some signal then some (.abort 0 reason) else none
  | .elapse limit =>
      ((session.world.timers.first? limit).map Timer.id).bind fun timer =>
        if session.timerOf? id = some timer then some (.elapse limit) else none

/-- The steps of a call, each with the clock time at which it is taken. -/
def ownSteps (session : Session) (id : CallId) (caller : Option SignalId) :
    List (Event κ) → List (Number × Event κ)
  | [] => []
  | event :: events =>
      ((session.ownEvent? id caller event).map (session.world.clock, ·)).toList ++
        (session.step event).ownSteps id caller events

def atClock (session : Session) (clock : Number) : Session :=
  { session with
    traffic := { session.traffic with world := { session.traffic.world with clock } } }

/-- A session in which steps are taken at given clock times. -/
def replay (session : Session) (steps : List (Number × Event κ)) : Session :=
  steps.foldl (fun session timed => (session.atClock timed.1).step timed.2) session

theorem Sound.atClock {session : Session} (sound : session.Sound) (clock : Number) :
    (session.atClock clock).Sound := by
  have quiet : session.world.Quiet (session.atClock clock).world fun _ => False :=
    .ofSignals rfl (.refl ..)
  exact sound.quiet quiet (sound.orderly.quiet quiet) sound.length_eq (fun _ => rfl)
    (fun _ member => member) (fun _ member => .inl member) List.prefix_rfl rfl

end Session

namespace World

theorem release_fixed (world : World) (release : Release) :
    (world.release release).origin = world.origin ∧
      (world.release release).timers.next = world.timers.next := by
  cases release <;> exact ⟨rfl, rfl⟩

theorem elapse_fixed (world : World) (limit : Number) :
    (world.elapse limit).origin = world.origin ∧
      (world.elapse limit).timers.next = world.timers.next := by
  unfold elapse fire?
  cases world.timers.first? limit with
  | none => exact ⟨rfl, rfl⟩
  | some timer =>
      obtain ⟨id, due, task⟩ := timer
      cases task <;> exact ⟨rfl, rfl⟩

theorem isSome_arm? (world : World) (timeout : Value) (caller : Option SignalId) :
    (world.arm? timeout caller).isSome = (!timeout.isTruthy || timeout.toNumber?.isSome) := by
  unfold arm? timeoutSignal?
  cases timeout.isTruthy <;> cases timeout.toNumber? <;> rfl

end World

theorem Exchange.release_fixed (exchange : Exchange) (world : World) :
    (exchange.release world).origin = world.origin ∧
      (exchange.release world).timers.next = world.timers.next :=
  ⟨view_release World.origin exchange (fun world release => (world.release_fixed release).1) world,
    view_release (fun world => world.timers.next) exchange
      (fun world release => (world.release_fixed release).2) world⟩

namespace Traffic

variable {κ : Type}

theorem Opened.fixed {traffic next : Traffic} {timeout : Value} {mutator : Client.Mutator}
    {caller : Option SignalId} (opened : traffic.Opened timeout mutator caller next) :
    next.world.origin = traffic.world.origin ∧
      next.world.timers.next ≤ traffic.world.timers.next + 1 := by
  cases opened with
  | idle still => exact ⟨rfl, Nat.le_succ _⟩
  | leaked still armed thrown => exact (World.arm?_fixed armed).2
  | waiting armed => exact (World.arm?_fixed armed).2

/-- The origin of the clock stays, and an event arms at most one timer, at the start of a call. -/
theorem after_fixed (traffic : Traffic) (event : Event κ) :
    (traffic.after event).1.world.origin = traffic.world.origin ∧
      (traffic.after event).1.world.timers.next ≤ traffic.world.timers.next +
        if (event.opening? traffic.world).isSome then 1 else 0 := by
  cases event with
  | exchange client uri verb mutator body caller =>
      exact (opened_exchange traffic client .exchange uri verb mutator body caller).fixed
  | delete client builder caller =>
      obtain ⟨mutator, -, opened⟩ := traffic.opened_delete client builder caller
      exact opened.fixed
  | delegate endpoint builder caller =>
      obtain ⟨call, -, added⟩ := traffic.delegate_still endpoint builder caller
      simp only [after, added]
      exact ⟨rfl, Nat.le_succ _⟩
  | settle call completion =>
      rcases traffic.settle_cases call completion with idle | ⟨exchange, -, world, -⟩
      · simp only [after, idle]
        exact ⟨trivial, Nat.le_refl _⟩
      · obtain ⟨origin, next⟩ := exchange.release_fixed traffic.world
        simp only [after, world]
        exact ⟨origin, Nat.le_of_eq next⟩
  | conclude call ending =>
      simp only [after, (traffic.conclude_still call ending).1]
      exact ⟨trivial, Nat.le_refl _⟩
  | readBody call =>
      simp only [after, (traffic.readBody_still call).1]
      exact ⟨trivial, Nat.le_refl _⟩
  | elapse limit =>
      obtain ⟨origin, next⟩ := traffic.world.elapse_fixed limit
      exact ⟨origin, Nat.le_of_eq next⟩
  | watch call =>
      simp only [after, World.listen]
      split <;> exact ⟨rfl, Nat.le_refl _⟩
  | _ => exact ⟨rfl, Nat.le_refl _⟩

theorem stage?_add (traffic : Traffic) (call : Call) :
    (traffic.add call).stage? traffic.calls.length = some call.stage := by
  simp [stage?, add]

/-- Two starts of a call, in two runs, lead to the same stage and send the same request. -/
def StartsAlike (first second : Traffic)
    (started others : Traffic × List LogEntry × Option WireRequest) : Prop :=
  (started.1.stage? first.calls.length).map Stage.bare =
      (others.1.stage? second.calls.length).map Stage.bare ∧
    started.2.2.map WireRequest.content = others.2.2.map WireRequest.content

theorem startsAlike_add {first second : Traffic} {call other : Call}
    (same : call.stage.bare = other.stage.bare) (firstWorld secondWorld : World)
    {entries others : List LogEntry} {request sent : Option WireRequest}
    (requests : request.map WireRequest.content = sent.map WireRequest.content) :
    StartsAlike first second ({ first with world := firstWorld }.add call, entries, request)
      ({ second with world := secondWorld }.add other, others, sent) := by
  refine ⟨?_, requests⟩
  have own := stage?_add { first with world := firstWorld } call
  have foreign := stage?_add { second with world := secondWorld } other
  simp only at own foreign
  rw [own, foreign, Option.map_some, Option.map_some, same]

theorem exchange_startsAlike {first second : Traffic}
    (instant : second.world.instant? = first.world.instant?) (client : Client) (purpose : Purpose)
    (uri verb : Text) (mutator : Client.Mutator) (body : Value) (caller other : Option SignalId) :
    StartsAlike first second (first.exchange client purpose uri verb mutator body caller)
      (second.exchange client purpose uri verb mutator body other) := by
  have armed : (first.world.arm? client.requestTimeout caller).isSome =
      (second.world.arm? client.requestTimeout other).isSome := by
    rw [World.isSome_arm?, World.isSome_arm?]
  rw [exchange_eq, exchange_eq, instant]
  cases (client.assemble first.world.instant? mutator).guarded with
  | error reason => exact startsAlike_add rfl first.world second.world rfl
  | ok headers? =>
      rcases own : first.world.arm? client.requestTimeout caller with _ | ⟨world, timer, merged⟩ <;>
        rcases foreign : second.world.arm? client.requestTimeout other with
          _ | ⟨world', timer', merged'⟩ <;>
        rw [own, foreign] at armed
      · exact startsAlike_add rfl first.world second.world rfl
      · cases armed
      · cases armed
      · cases headers? <;> exact startsAlike_add (by rfl) world world' (by rfl)

theorem delete_startsAlike {first second : Traffic}
    (instant : second.world.instant? = first.world.instant?) (client : Client)
    (builder : DeleteBlob.Builder κ) (caller other : Option SignalId) :
    StartsAlike first second (first.delete client builder caller)
      (second.delete client builder other) := by
  unfold delete
  cases DeleteBlob.prepare builder client.blobEndpoint with
  | failed failure => exact startsAlike_add rfl first.world second.world rfl
  | raised reason => exact startsAlike_add rfl first.world second.world rfl
  | ok prepared => exact exchange_startsAlike instant ..

theorem delegate_startsAlike (first second : Traffic) (endpoint : Text)
    (builder : DeleteBlob.Builder κ) (caller other : Option SignalId) :
    StartsAlike first second (first.after (.delegate endpoint builder caller))
      (second.after (.delegate endpoint builder other)) := by
  simp only [after, delegate]
  cases DeleteBlob.prepare builder endpoint with
  | failed failure => exact startsAlike_add rfl first.world second.world rfl
  | raised reason => exact startsAlike_add rfl first.world second.world rfl
  | ok prepared => exact startsAlike_add (by rfl) first.world second.world rfl

theorem after_unstarted {traffic : Traffic} {event : Event κ} {call : CallId}
    (on : event.call? = some call) (unstarted : traffic.calls.length ≤ call) :
    traffic.after event = (traffic, [], none) := by
  have nothing : traffic.calls[call]? = none := List.getElem?_eq_none unstarted
  have stage : traffic.stage? call = none := by rw [stage?, nothing, Option.map_none]
  cases event with
  | watch own =>
      obtain rfl := Option.some.inj on
      simp only [after, nothing, Option.bind_none, World.listen]
  | settle own completion =>
      obtain rfl := Option.some.inj on
      simp only [after, settle, stage]
  | conclude own ending =>
      obtain rfl := Option.some.inj on
      simp only [after, conclude, stage]
  | readBody own =>
      obtain rfl := Option.some.inj on
      simp only [after, readBody, stage]
  | _ => cases on

end Traffic

namespace History

variable {κ : Type}

theorem requestsOf_step (history : History) (event : Event κ) :
    (history.step event).requestsOf history.traffic.calls.length =
      history.requestsOf history.traffic.calls.length ++
        (history.traffic.after event).2.2.toList := by
  simp only [requestsOf, step, List.filter_append, List.map_append]
  cases sent : (history.traffic.after event).2.2 <;> simp

end History

/-- The opening of a call that is alone. -/
def Opening.alone (opening : Opening) : Opening where
  caller := opening.caller.map fun _ => 0
  deadline := opening.deadline.map fun deadline => { deadline with timer := 0 }

namespace Session

variable {κ : Type}

/-- An event that a call or its caller takes part in besides the start, and the same event in the run
of the call alone. -/
inductive Twin (session : Session) (id : CallId) (caller : Option SignalId) :
    Event κ → Event κ → Prop where
  | watch : Twin session id caller (.watch id) (.watch 0)
  | settle (completion : Completion Reply) :
      Twin session id caller (.settle id completion) (.settle 0 completion)
  | conclude (ending : DeleteBlob.Performed) :
      Twin session id caller (.conclude id ending) (.conclude 0 ending)
  | readBody : Twin session id caller (.readBody id) (.readBody 0)
  | abort {signal : SignalId} (mine : caller = some signal) (reason : Value) :
      Twin session id caller (.abort signal reason) (.abort 0 reason)
  | elapse {limit : Number} {timer : Timer}
      (fires : session.world.timers.first? limit = some timer)
      (mine : session.timerOf? id = some timer.id) :
      Twin session id caller (.elapse limit) (.elapse limit)

/-- An own event of a call makes the signal of its caller, or starts the call, or has a twin. -/
theorem ownEvent?_cases {session : Session} {id : CallId} {caller : Option SignalId}
    {event alone : Event κ} (kept : session.ownEvent? id caller event = some alone) :
    (event = .signal ∧ alone = .signal ∧ caller = some session.world.signals.length) ∨
      ((event.opening? session.world).isSome ∧ session.traffic.calls.length = id) ∨
        Twin session id caller event alone := by
  cases event with
  | signal =>
      obtain ⟨mine, same⟩ := Option.ite_none_right_eq_some.mp kept
      exact .inl ⟨rfl, (Option.some.inj same).symm, mine⟩
  | exchange | delete | delegate =>
      exact .inr (.inl ⟨rfl, (Option.ite_none_right_eq_some.mp kept).1⟩)
  | watch call | settle call | conclude call | readBody call =>
      obtain ⟨rfl, same⟩ := Option.ite_none_right_eq_some.mp kept
      obtain rfl := Option.some.inj same
      exact .inr (.inr (by constructor))
  | abort signal reason =>
      obtain ⟨mine, same⟩ := Option.ite_none_right_eq_some.mp kept
      obtain rfl := Option.some.inj same
      exact .inr (.inr (.abort mine reason))
  | elapse limit =>
      obtain ⟨timer, fires, kept⟩ := Option.bind_eq_some_iff.mp kept
      obtain ⟨timer, first, rfl⟩ := Option.map_eq_some_iff.mp fires
      obtain ⟨mine, same⟩ := Option.ite_none_right_eq_some.mp kept
      obtain rfl := Option.some.inj same
      exact .inr (.inr (.elapse first mine))

/-- The next state of the run of a call alone, when the run that it is taken from makes a step. -/
def follow (own full : Session) (id : CallId) (caller : Option SignalId) (event : Event κ) :
    Session :=
  match full.ownEvent? id caller event with
  | some alone => (own.atClock full.world.clock).step alone
  | none => own

theorem replay_ownSteps_cons (own full : Session) (id : CallId) (caller : Option SignalId)
    (event : Event κ) (events : List (Event κ)) :
    own.replay (full.ownSteps id caller (event :: events)) =
      (own.follow full id caller event).replay ((full.step event).ownSteps id caller events) := by
  unfold follow
  rw [ownSteps]
  cases full.ownEvent? id caller event <;> rfl

/-- The run of a call alone, before the call has started: there is nothing but the signal of its
caller, as soon as that has been made. -/
structure Expects (full own : Session) (caller : Option SignalId) : Prop where
  origin_eq : own.world.origin = full.world.origin
  calls : own.traffic.calls = []
  sent : own.sent = []
  timers : own.world.timers = Timers.none
  known : ∀ signal, caller = some signal →
    (signal ∈ full.made ∧ own.made = [0] ∧
        own.world.signals.reason? 0 = full.world.signals.reason? signal) ∨
      signal ∉ full.made ∧ own.made = [] ∧ own.world.signals = []

/-- The run of a call alone, once the call has started: it has come as far as the call that it is
taken from, and its signal has aborted for the same reason. -/
structure Mirrors (full own : Session) (id : CallId) (opening : Opening) : Prop where
  stage_eq : (full.traffic.stage? id).map Stage.bare = (own.traffic.stage? 0).map Stage.bare
  request_eq : (full.requestsOf id).map WireRequest.content =
    (own.requestsOf 0).map WireRequest.content
  known : ∀ signal, opening.caller = some signal → signal ∈ full.made ∧ 0 ∈ own.made
  next_le : own.world.timers.next ≤ 1
  opened : full.openings[id]? = some opening
  openedAlone : own.openings[0]? = some opening.alone
  aborted : ∀ {exchange others}, full.traffic.exchange? id = some exchange →
    own.traffic.exchange? 0 = some others →
      exchange.abortReason? full.world = others.abortReason? own.world

namespace Expects

variable {full own : Session} {caller : Option SignalId} {event alone : Event κ}

/-- The caller's signal stands where it does in the run that the call is taken from. -/
theorem reason?_eq (expects : Expects full own caller)
    (made : ∀ signal, caller = some signal → signal ∈ full.made) :
    caller.bind full.world.signals.reason? =
      (caller.map fun _ => 0).bind own.world.signals.reason? := by
  cases caller with
  | none => rfl
  | some signal =>
      rcases expects.known signal rfl with ⟨-, -, same⟩ | ⟨unmade, -⟩
      · exact same.symm
      · exact absurd (made signal rfl) unmade

theorem madeAlone (expects : Expects full own caller)
    (made : ∀ signal, caller = some signal → signal ∈ full.made) :
    ∀ signal ∈ caller.map fun _ => (0 : SignalId), signal ∈ own.made := by
  intro _ mapped
  obtain ⟨signal, known, rfl⟩ := Option.map_eq_some_iff.mp mapped
  rcases expects.known signal known with ⟨-, madeAlone, -⟩ | ⟨unmade, -⟩
  · exact madeAlone ▸ List.mem_singleton_self 0
  · exact absurd (made signal known) unmade

theorem starts (expects : Expects full own caller) (sound : full.Sound) (soundAlone : own.Sound)
    (bySent : full.toHistory.SentByStarted) (admitted : full.Admits event) {opening : Opening}
    (openingCaller : opening.caller = caller)
    (named : event.named? = caller) (opens : event.opening? full.world = some opening)
    (namedAlone : alone.named? = caller.map fun _ => 0)
    (opensAlone : alone.opening? (own.atClock full.world.clock).world = some opening.alone)
    (alike : Traffic.StartsAlike full.traffic (own.atClock full.world.clock).traffic
      (full.traffic.after event) ((own.atClock full.world.clock).traffic.after alone)) :
    Mirrors (full.step event) ((own.atClock full.world.clock).step alone)
        full.traffic.calls.length opening ∧
      ((own.atClock full.world.clock).step alone).Sound := by
  subst openingCaller
  have made : ∀ signal, opening.caller = some signal → signal ∈ full.made :=
    fun signal known => admitted signal (named.trans known)
  have admittedAlone : (own.atClock full.world.clock).Admits alone := by
    intro signal own
    exact expects.madeAlone made signal (namedAlone.symm.trans own)
  have soundAt := soundAlone.atClock full.world.clock
  have first : (own.atClock full.world.clock).traffic.calls.length = 0 :=
    congrArg List.length expects.calls
  have opened := sound.opened_step opens
  have openedAlone : ((own.atClock full.world.clock).step alone).openings[0]? =
      some opening.alone :=
    first ▸ soundAt.opened_step opensAlone
  refine ⟨?_, soundAt.step admittedAlone⟩
  exact {
    stage_eq := first ▸ alike.1
    request_eq := by
      have unsent : (own.atClock full.world.clock).requestsOf 0 = [] := by
        simp [History.requestsOf, atClock, expects.sent]
      have sent := History.requestsOf_step full.toHistory event
      have sentAlone := History.requestsOf_step (own.atClock full.world.clock).toHistory alone
      rw [bySent.requestsOf_eq_nil (Nat.le_refl _), List.nil_append] at sent
      rw [first, unsent, List.nil_append] at sentAlone
      have requests := congrArg Option.toList alike.2
      rw [Option.toList_map, Option.toList_map] at requests
      change ((full.toHistory.step event).requestsOf _).map _ = (((own.atClock
        full.world.clock).toHistory.step alone).requestsOf 0).map _
      rw [sent, sentAlone, requests]
    known := by
      intro signal known
      have madeAlone := expects.madeAlone made 0 (by simp [known])
      exact ⟨List.mem_append_left _ (made signal known), List.mem_append_left _ madeAlone⟩
    next_le := by
      have fixed := ((own.atClock full.world.clock).traffic.after_fixed alone).2
      rw [opensAlone, show (own.atClock full.world.clock).traffic.world.timers = Timers.none from
        expects.timers] at fixed
      exact fixed
    opened := opened
    openedAlone := openedAlone
    aborted := by
      intro exchange others new newAlone
      have aborted := abortReason?_of_started sound admitted new opened
      have abortedAlone := abortReason?_of_started soundAt admittedAlone
        (first.symm ▸ newAlone) (first.symm ▸ openedAlone)
      have timed : opening.deadline.isSome = opening.alone.deadline.isSome := by
        simp [Opening.alone]
      rw [aborted, abortedAlone, expects.reason?_eq made, timed]
      rfl }

/-- An event of others: neither is the signal of the caller made nor does it abort. -/
theorem foreign (expects : Expects full own caller) (sound : full.Sound)
    (admitted : full.Admits event)
    (made : ∀ signal, caller = some signal →
      (signal ∈ (full.step event).made ↔ signal ∈ full.made))
    (still : ∀ signal, caller = some signal → event.abortOf? signal = none) :
    Expects (full.step event) own caller where
  origin_eq := expects.origin_eq.trans (full.traffic.after_fixed event).1.symm
  calls := expects.calls
  sent := expects.sent
  timers := expects.timers
  known := by
    intro signal own
    rw [made signal own]
    rcases expects.known signal own with ⟨known, madeAlone, reason⟩ | unmade
    · refine .inl ⟨known, madeAlone, ?_⟩
      rw [reason?_step_of_made sound admitted known, still signal own, Option.or_none, reason]
    · exact .inr unmade

theorem idle (expects : Expects full own caller) (clock : Number)
    (nothing : (own.atClock clock).traffic.after alone = ((own.atClock clock).traffic, [], none))
    (unmade : alone.made? (own.atClock clock).world = none) :
    Expects full ((own.atClock clock).step alone) caller := by
  have traffic : ((own.atClock clock).step alone).traffic = (own.atClock clock).traffic :=
    congrArg Prod.fst nothing
  have made : ((own.atClock clock).step alone).made = own.made := by
    change own.made ++ (alone.made? (own.atClock clock).world).toList = _
    rw [unmade]
    exact List.append_nil _
  have sent : ((own.atClock clock).step alone).sent = own.sent := by
    change own.sent ++ (((own.atClock clock).traffic.after alone).2.2.map _).toList = _
    rw [nothing]
    exact List.append_nil _
  refine ⟨?_, ?_, ?_, ?_, ?_⟩
  · rw [world, traffic]
    exact expects.origin_eq
  · rw [traffic]
    exact expects.calls
  · rw [sent]
    exact expects.sent
  · rw [world, traffic]
    exact expects.timers
  · rw [made, world, traffic]
    exact expects.known

theorem signal (expects : Expects full own caller) (sound : full.Sound)
    (mine : caller = some full.world.signals.length) (clock : Number) :
    Expects (full.step (.signal : Event κ)) ((own.atClock clock).step (.signal : Event κ))
      caller where
  origin_eq := expects.origin_eq
  calls := expects.calls
  sent := (List.append_nil _).trans expects.sent
  timers := expects.timers
  known := by
    intro signal same
    obtain rfl := Option.some.inj (mine.symm.trans same)
    rcases expects.known _ mine with ⟨known, -⟩ | ⟨-, unmade, unlisted⟩
    · exact absurd (sound.orderly.inside _ known) (Nat.lt_irrefl _)
    · refine .inl ⟨List.mem_append_right _ List.mem_cons_self, ?_, ?_⟩
      · change own.made ++ [own.world.signals.length] = [0]
        rw [unmade, unlisted]
        rfl
      · change Signals.reason? (own.world.signals ++ [⟨none, []⟩]) 0 =
          Signals.reason? (full.world.signals ++ [⟨none, []⟩]) full.world.signals.length
        rw [unlisted, Signals.reason?_append_length]
        rfl

theorem abort (expects : Expects full own caller) (sound : full.Sound) (soundAlone : own.Sound)
    {signal : SignalId} (mine : caller = some signal) (reason : Value)
    (admitted : full.Admits (.abort signal reason : Event κ)) (clock : Number) :
    (own.atClock clock).Admits (.abort 0 reason : Event κ) ∧
      Expects (full.step (.abort signal reason : Event κ))
        ((own.atClock clock).step (.abort 0 reason : Event κ)) caller := by
  have made : signal ∈ full.made := admitted signal rfl
  rcases expects.known signal mine with ⟨-, madeAlone, same⟩ | ⟨unmade, -⟩
  · have first : 0 ∈ (own.atClock clock).made := madeAlone ▸ List.mem_singleton_self 0
    have admittedAlone : (own.atClock clock).Admits (.abort 0 reason : Event κ) := by
      rintro _ ⟨⟩
      exact first
    refine ⟨admittedAlone, expects.origin_eq, expects.calls, (List.append_nil _).trans expects.sent,
      expects.timers, ?_⟩
    intro other known
    obtain rfl := Option.some.inj (mine.symm.trans known)
    refine .inl ⟨List.mem_append_left _ made, (List.append_nil _).trans madeAlone, ?_⟩
    rw [reason?_step_of_made sound admitted made,
      reason?_step_of_made (soundAlone.atClock clock) admittedAlone first, ← same]
    simp only [Event.abortOf?, if_true]
    rfl
  · exact absurd made unmade

/-- An event that is kept from the run of the call alone, which goes on expecting it. -/
theorem step_foreign (expects : Expects full own caller) (sound : full.Sound)
    (admitted : full.Admits event) {id : CallId}
    (foreign : full.ownEvent? id caller event = none) : Expects (full.step event) own caller := by
  refine expects.foreign sound admitted (fun signal known => ?_) (fun other known => ?_)
  · cases event with
    | signal =>
        have different : signal ≠ full.world.signals.length := by
          rintro rfl
          simp [ownEvent?, known] at foreign
        simp [Session.step, Event.made?, different]
    | _ => simp [Session.step, Event.made?]
  · cases event with
    | abort signal reason =>
        have different : signal ≠ other := by
          rintro rfl
          simp [ownEvent?, known] at foreign
        exact if_neg different
    | _ => rfl

/-- Until the call starts, the run of the call alone goes on expecting it. -/
theorem step (expects : Expects full own caller) (sound : full.Sound) (soundAlone : own.Sound)
    (admitted : full.Admits event) {id : CallId} (unstarted : full.traffic.calls.length ≤ id)
    (other : event.opening? full.world = none ∨ full.traffic.calls.length ≠ id) :
    Expects (full.step event) (own.follow full id caller event) caller ∧
      (own.follow full id caller event).Sound := by
  unfold follow
  cases kept : full.ownEvent? id caller event with
  | none => exact ⟨expects.step_foreign sound admitted kept, soundAlone⟩
  | some alone =>
      have soundAt := soundAlone.atClock full.world.clock
      have nobody : ∀ call, (own.atClock full.world.clock).traffic.calls.length ≤ call := by
        intro call
        rw [show (own.atClock full.world.clock).traffic.calls = [] from expects.calls]
        exact Nat.zero_le call
      rcases ownEvent?_cases kept with ⟨rfl, rfl, mine⟩ | ⟨opens, first⟩ | twin
      · exact ⟨expects.signal sound mine _, soundAt.step (by simp [Admits, Event.named?])⟩
      · rcases other with closed | other
        · rw [closed] at opens
          cases opens
        · exact absurd first other
      · cases twin with
        | abort mine reason =>
            obtain ⟨admittedAlone, next⟩ :=
              expects.abort sound soundAlone mine reason admitted full.world.clock
            exact ⟨next, soundAt.step admittedAlone⟩
        | elapse fires mine =>
            have unopened : full.openings[id]? = none :=
              List.getElem?_eq_none (by rwa [sound.length_eq])
            rw [timerOf?, unopened] at mine
            cases mine
        | _ =>
            refine ⟨Expects.idle ?_ _ (Traffic.after_unstarted rfl (nobody 0)) rfl,
              soundAt.step (by simp [Admits, Event.named?])⟩
            refine expects.foreign sound admitted (fun _ _ => ?_) (fun _ _ => rfl)
            simp [Session.step, Event.made?]

end Expects

end Session

end BlobStorage
