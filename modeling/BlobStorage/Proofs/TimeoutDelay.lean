import BlobStorage.Proofs.AcceptedTimeout
import BlobStorage.Proofs.HandedSignal
import BlobStorage.Proofs.PlatformTimers

/-!
# How long a timeout lasts

The clock of a run never goes back (`Traffic.passes_after`), so the timer of a call has not fired as
long as the clock is below its deadline, and the call is stopped by nobody but its caller
(`Session.Punctual`).  On whole milliseconds the deadline is exact, but the platform cuts a timeout
down that is longer than its longest delay (`Session.timeout_lasts`).
-/

namespace BlobStorage

namespace World

/-- The clock of one world shows what that of another shows, or more. -/
def Passes (before after : World) : Prop :=
  after.clock = before.clock ∨ before.clock.less after.clock = true

theorem Passes.of_eq {before after : World} (same : after.clock = before.clock) :
    before.Passes after := .inl same

/-- What was not ahead of the clock never will be. -/
theorem Passes.reached {before after : World} (passes : before.Passes after) {instant : Number}
    (reached : before.clock.less instant = false) : after.clock.less instant = false := by
  rcases passes with same | later
  · rw [same, reached]
  · refine Bool.eq_false_iff.mpr fun ahead => ?_
    rw [Number.less_trans later ahead] at reached
    cases reached

theorem passes_elapse (world : World) (limit : Number) : world.Passes (world.elapse limit) := by
  have moved (instant : Number) : (if world.clock.less instant then instant else world.clock) =
      world.clock ∨ world.clock.less
        (if world.clock.less instant then instant else world.clock) = true := by
    split
    · exact .inr ‹_›
    · exact .inl rfl
  unfold Passes elapse fire?
  cases world.timers.first? limit with
  | none => exact moved limit
  | some timer =>
      obtain ⟨id, due, task⟩ := timer
      cases task with
      | expire signal milliseconds => exact moved due
      | reply call => exact moved due

theorem elapse_reaches {world : World} {limit : Number} {timer : Timer}
    (first : world.timers.first? limit = some timer) :
    (world.elapse limit).clock.less timer.due = false := by
  have moved : (if world.clock.less timer.due then timer.due else world.clock).less timer.due =
      false := by
    split
    · exact Number.less_irrefl timer.due
    · exact Bool.eq_false_iff.mpr ‹_›
  unfold elapse fire?
  rw [first]
  obtain ⟨id, due, task⟩ := timer
  cases task with
  | expire signal milliseconds => exact moved
  | reply call => exact moved

end World

namespace Traffic

variable {κ : Type}

theorem Opened.passes {traffic next : Traffic} {timeout : Value} {mutator : Client.Mutator}
    {caller : Option SignalId} (opened : traffic.Opened timeout mutator caller next) :
    traffic.world.Passes next.world := by
  cases opened with
  | idle still => exact .of_eq rfl
  | leaked still armed thrown => exact .of_eq (World.arm?_fixed armed).1
  | waiting armed => exact .of_eq (World.arm?_fixed armed).1

theorem passes_after (traffic : Traffic) (event : Event κ) :
    traffic.world.Passes (traffic.after event).1.world := by
  cases event with
  | exchange client uri verb mutator body caller =>
      exact (opened_exchange traffic client .exchange uri verb mutator body caller).passes
  | delete client builder caller =>
      obtain ⟨mutator, -, opened⟩ := traffic.opened_delete client builder caller
      exact opened.passes
  | delegate endpoint builder caller =>
      obtain ⟨call, -, added⟩ := traffic.delegate_still endpoint builder caller
      simp only [after, added]
      exact .of_eq rfl
  | settle call completion =>
      rcases traffic.settle_cases call completion with idle | ⟨exchange, -, world, -⟩
      · exact .of_eq (congrArg (fun next : Traffic => next.world.clock) idle)
      · refine .of_eq ((congrArg World.clock world).trans ?_)
        refine Exchange.view_release World.clock exchange ?_ traffic.world
        intro world release
        cases release <;> rfl
  | conclude call ending =>
      exact .of_eq (congrArg World.clock (traffic.conclude_still call ending).1)
  | readBody call =>
      exact .of_eq (congrArg World.clock (traffic.readBody_still call).1)
  | elapse limit => exact traffic.world.passes_elapse limit
  | watch call =>
      refine .of_eq ?_
      simp only [after, World.listen]
      split <;> rfl
  | _ => exact .of_eq rfl

end Traffic

theorem Exchange.Bounded.ticking {exchange : Exchange} {world : World} {made : List SignalId}
    {fired : List Nat} {caller : Option SignalId} {deadline : Deadline}
    (bounded : exchange.Bounded world made fired ⟨caller, some deadline⟩) :
    ∃ timed, world.Ticking made fired deadline timed := by
  have timed := bounded.timed
  generalize exchange.timeout = timeout at timed
  cases timed with
  | armed ticking => exact ⟨_, ticking⟩

namespace Session

variable {κ : Type}

/-- An exchange with a deadline has been stopped by its timer only if the deadline has come, and
else by its caller, if at all. -/
structure Punctual (session : Session) (exchange : Exchange) (caller : Option SignalId)
    (deadline : Deadline) : Prop where
  reached : deadline.timer ∈ session.fired → session.world.clock.less deadline.due = false
  unfired : deadline.timer ∉ session.fired → exchange.abortReason? session.world =
    (caller.bind session.world.signals.reason?).map fun reason => Stop.reason true (.caller reason)

namespace Punctual

variable {session : Session} {exchange : Exchange} {caller : Option SignalId}
  {deadline : Deadline} {id : CallId} {event : Event κ}

/-- As long as the deadline has not come, only the caller has stopped the exchange. -/
theorem of_early (punctual : session.Punctual exchange caller deadline)
    (early : session.world.clock.less deadline.due = true) :
    exchange.abortReason? session.world =
      (caller.bind session.world.signals.reason?).map fun reason =>
        Stop.reason true (.caller reason) := by
  apply punctual.unfired
  intro fired
  rw [punctual.reached fired] at early
  cases early

theorem step (punctual : session.Punctual exchange caller deadline) (sound : session.Sound)
    (admitted : session.Admits event) (waiting : session.traffic.exchange? id = some exchange)
    (waits : (session.step event).traffic.exchange? id = some exchange)
    (opened : session.openings[id]? = some ⟨caller, some deadline⟩) :
    (session.step event).Punctual exchange caller deadline where
  reached := by
    intro fired
    have passes : session.world.Passes (session.step event).world :=
      session.traffic.passes_after event
    rcases List.mem_append.mp fired with earlier | now
    · exact passes.reached (punctual.reached earlier)
    · -- The timer that fires is the one that the exchange was started with.
      have own : event.fired? session.world = some deadline.timer := Option.mem_toList.mp now
      obtain ⟨limit, rfl⟩ : ∃ limit, event = .elapse limit := by
        cases event with
        | elapse limit => exact ⟨limit, rfl⟩
        | _ => cases own
      obtain ⟨timer, first, same⟩ := Option.map_eq_some_iff.mp own
      obtain ⟨timed, ticking⟩ := (sound.bounded waiting opened).ticking
      obtain rfl := ticking.only (Timers.first?_eq_some first).1 (.inl same)
      exact World.elapse_reaches first
  unfired := by
    intro unfired
    have stops : session.stops? ⟨caller, some deadline⟩ event =
        (caller.bind fun signal => event.abortOf? signal).map .caller := by
      have other : event.fired? session.world ≠ some deadline.timer := by
        intro own
        exact unfired (List.mem_append_right _ (Option.mem_toList.mpr own))
      simp [stops?, other]
    have calm : deadline.timer ∉ session.fired :=
      fun earlier => unfired (List.mem_append_left _ earlier)
    rw [abortReason?_step sound admitted waiting waits opened, punctual.unfired calm, stops]
    cases caller with
    | none => rfl
    | some signal =>
        have made := (sound.bounded waiting opened).caller_made signal rfl
        simp only [Option.bind_some, reason?_step_of_made sound admitted made]
        cases session.world.signals.reason? signal <;> cases event.abortOf? signal <;> rfl

/-- What the platform does to the timers of other calls changes nothing. -/
theorem stepOn (punctual : session.Punctual exchange caller deadline) (sound : session.Sound)
    (admitted : session.Admits event) (kept : Number → Number)
    (waiting : session.traffic.exchange? id = some exchange)
    (waits : (session.stepOn kept event).traffic.exchange? id = some exchange)
    (opened : session.openings[id]? = some ⟨caller, some deadline⟩) :
    (session.stepOn kept event).Punctual exchange caller deadline := by
  rw [exchange?_stepOn] at waits
  have next := punctual.step sound admitted waiting waits opened
  constructor
  · rw [fired_stepOn, clock_stepOn]
    exact next.reached
  · rw [fired_stepOn, signals_stepOn, abortReason?_stepOn]
    exact next.unfired

end Punctual

section Run

variable {kept : Number → Number} {session : Session} {id : CallId} {exchange : Exchange}

theorem opening_stepOn {opening : Opening} (opened : session.openings[id]? = some opening)
    (kept : Number → Number) (event : Event κ) :
    (session.stepOn kept event).openings[id]? = some opening := by
  cases asked : event.delay? with
  | none =>
      rw [stepOn_of_delay?_eq_none kept session event asked]
      exact opening_step opened event
  | some delay =>
      have inside : id < session.openings.length := (List.getElem?_eq_some_iff.mp opened).1
      rw [openings_stepOn kept session event asked, List.getElem?_append_left inside, opened]

theorem opening_runOn {opening : Opening} (opened : session.openings[id]? = some opening)
    (kept : Number → Number) (events : List (Event κ)) :
    (session.runOn kept events).openings[id]? = some opening := by
  induction events generalizing session with
  | nil => exact opened
  | cons event events induction => exact induction (opening_stepOn opened kept event)

theorem length_le_stepOn (kept : Number → Number) (session : Session) (event : Event κ) :
    session.traffic.calls.length ≤ (session.stepOn kept event).traffic.calls.length := by
  rw [calls_stepOn]
  exact session.traffic.length_le_after event

theorem waited_runOn (sound : session.Sound) {events : List (Event κ)}
    (admitted : session.AdmitsAllOn kept events) (started : id < session.traffic.calls.length)
    (waits : (session.runOn kept events).traffic.exchange? id = some exchange) :
    session.traffic.exchange? id = some exchange := by
  induction events generalizing session with
  | nil => exact waits
  | cons event events induction =>
      have waited := induction (sound.stepOn admitted.1 kept) admitted.2
        (Nat.lt_of_lt_of_le started (length_le_stepOn kept session event)) waits
      rw [exchange?_stepOn] at waited
      rcases (effect_step sound.orderly admitted.1).waited waited with new | earlier
      · exact absurd new (Nat.ne_of_lt started)
      · exact earlier

theorem Punctual.runOn {caller : Option SignalId} {deadline : Deadline} (sound : session.Sound)
    (punctual : session.Punctual exchange caller deadline) {events : List (Event κ)}
    (admitted : session.AdmitsAllOn kept events) (started : id < session.traffic.calls.length)
    (opened : session.openings[id]? = some ⟨caller, some deadline⟩)
    (waits : (session.runOn kept events).traffic.exchange? id = some exchange) :
    (session.runOn kept events).Punctual exchange caller deadline := by
  induction events generalizing session with
  | nil => exact punctual
  | cons event events induction =>
      have next := sound.stepOn admitted.1 kept
      have later := Nat.lt_of_lt_of_le started (length_le_stepOn kept session event)
      -- It waits at the end, so it waits now and after the next event.
      have waiting : session.traffic.exchange? id = some exchange :=
        waited_runOn sound (show session.AdmitsAllOn kept (event :: events) from admitted) started
          waits
      have goesOn := waited_runOn next admitted.2 later waits
      exact induction next (punctual.stepOn sound admitted.1 kept waiting goesOn opened) admitted.2
        later (opening_stepOn opened kept event) waits

end Run

section Start

variable {session : Session} {event : Event κ} {client : Client} {delay : Number}

theorem opened_stepOn (sound : session.Sound) (issued : event.client? = some client)
    (asked : event.delay? = some delay) (kept : Number → Number) :
    (session.stepOn kept event).openings[session.traffic.calls.length]? =
      some ⟨event.named?, some ⟨session.world.timers.next, session.world.clock.add (kept delay),
        client.requestTimeout.toText?.getD []⟩⟩ := by
  rw [openings_stepOn kept session event asked, Event.opening?_of_client? issued,
    Event.deadline?_of_delay? issued asked, ← sound.length_eq]
  simp [Opening.retime, Deadline.retime]

/-- Its caller may have stopped a call when it starts, but not its timer. -/
theorem Punctual.of_started {exchange : Exchange} (sound : session.Sound)
    (admitted : session.Admits event) (issued : event.client? = some client)
    (asked : event.delay? = some delay) {kept : Number → Number}
    (waits : (session.stepOn kept event).traffic.exchange? session.traffic.calls.length =
      some exchange) (due : Number) (milliseconds : Text) :
    (session.stepOn kept event).Punctual exchange event.named?
      ⟨session.world.timers.next, due, milliseconds⟩ := by
  have unfired : session.world.timers.next ∉ (session.stepOn kept event).fired := by
    rw [fired_stepOn, Session.step, Event.fired?_of_client? issued, Option.toList_none,
      List.append_nil]
    exact fun past => Nat.lt_irrefl _ (sound.orderly.past _ past)
  refine ⟨fun fired => absurd fired unfired, fun _ => ?_⟩
  rw [exchange?_stepOn] at waits
  have opens := Event.opening?_of_client? issued session.world
  rw [Event.deadline?_of_delay? issued asked] at opens
  rw [abortReason?_stepOn, signals_stepOn,
    abortReason?_of_started sound admitted waits (sound.opened_step opens)]
  cases caller : event.named? with
  | none => rfl
  | some signal =>
      have made := admitted signal caller
      simp only [Option.bind_some, reason?_step_of_made sound admitted made,
        Event.abortOf?_of_client? issued, Option.or_none]
      rfl

end Start

theorem delay?_of_accepted {config : Config} {count : Number} {delay : Nat} {event : Event κ}
    (timeout : config.requestTimeout = .milliseconds count)
    (read : count.toInt? = some (delay : Int)) (positive : 0 < delay)
    (issued : event.client? = some (Client.ofConfig config)) : event.delay? = some count := by
  have truthy := Number.isTruthy_of_positive read positive
  have setting : (Client.ofConfig config).requestTimeout = .number count := by
    rw [Client.ofConfig, timeout]
    rfl
  rw [Event.delay?, issued, Option.bind_some, setting, if_pos truthy]
  rfl

/-- A call of a client whose settings were accepted lasts as long as its timeout says, if that is no
more than the longest delay of the platform: until then nobody but the caller stops it, and when the
time has come and no timer is left to fire, it has been stopped.  With any other timeout it lasts a
millisecond. -/
theorem timeout_lasts {config : Config} (accepted : config.Accepted) {count : Number}
    (timeout : config.requestTimeout = .milliseconds count) {before : Session}
    (reachable : ReachableOn κ Number.keptDelay before) {event : Event κ}
    (issued : event.client? = some (Client.ofConfig config)) {events : List (Event κ)}
    (admitted : before.AdmitsAllOn Number.keptDelay (event :: events)) {start : Nat}
    (clock : before.world.clock = .ofInt start) (room : start + Timers.longestDelay < Nat.pow 2 53)
    {exchange : Exchange}
    (waits : (before.runOn Number.keptDelay (event :: events)).traffic.exchange?
      before.traffic.calls.length = some exchange) :
    ∃ delay : Nat, count.toInt? = some (delay : Int) ∧ 0 < delay ∧
      let after := before.runOn Number.keptDelay (event :: events)
      let kept := if delay ≤ Timers.longestDelay then delay else 1
      (after.world.clock.less (.ofInt (start + kept : Nat)) = true →
        exchange.abortReason? after.world =
          (event.named?.bind after.world.signals.reason?).map fun reason =>
            Stop.reason true (.caller reason)) ∧
      ∀ limit : Number, limit.less (.ofInt (start + kept : Nat)) = false →
        after.world.timers.first? limit = none → (exchange.abortReason? after.world).isSome := by
  obtain ⟨delay, read, positive⟩ := accepted.exists_delay timeout
  refine ⟨delay, read, positive, ?_⟩
  intro after kept
  have sound := reachable.sound
  have asked := delay?_of_accepted timeout read positive issued
  have within : kept ≤ Timers.longestDelay := by
    unfold kept
    split
    · assumption
    · decide
  -- On whole milliseconds the deadline is exact.
  have due : before.world.clock.add count.keptDelay = .ofInt ((start + kept : Nat) : Int) := by
    rw [clock, Number.keptDelay_eq read positive]
    exact Number.add_ofInt (Nat.lt_of_le_of_lt (Nat.add_le_add_left within start) room)
  have opened := opened_stepOn sound issued asked Number.keptDelay
  rw [due] at opened
  have next := sound.stepOn admitted.1 Number.keptDelay
  have started : before.traffic.calls.length <
      (before.stepOn Number.keptDelay event).traffic.calls.length := by
    rw [← next.length_eq]
    exact (List.getElem?_eq_some_iff.mp opened).1
  have goesOn := waited_runOn next admitted.2 started waits
  have punctual := (Punctual.of_started sound admitted.1 issued asked goesOn _ _).runOn next
    admitted.2 started opened waits
  refine ⟨punctual.of_early, ?_⟩
  intro limit come idle
  obtain ⟨purpose, waiting⟩ := Traffic.stage?_of_exchange? waits
  have small : start + kept < Nat.pow 2 53 := by omega
  have past : (limit.less (.ofInt ((start + kept : Nat) : Int)) ||
      Number.ofInt ((start + kept : Nat) : Int) == .nan) = false := by
    rw [come, Number.ofInt_natCast small]
    rfl
  obtain ⟨signal, reason, own, aborted⟩ := aborted_of_due (next.runOn admitted.2) waiting
    (opening_runOn opened Number.keptDelay events) rfl past idle
  rw [Exchange.abortReason?, own, Option.bind_some, Option.isSome_iff_exists]
  exact ⟨reason, aborted⟩

/-- Settings with a timeout. -/
def timedSettings (milliseconds : Nat) : Value :=
  .record [("accountName", .string "account1"), ("requestTimeoutMs", .ofNat milliseconds)]

def timedConfig (milliseconds : Nat) : Config where
  accountName := "account1"
  blobEndpoint := none
  apiVersion := Config.defaultApiVersion
  requestTimeout := .milliseconds (.ofInt milliseconds)
  headers := none
  logging := ⟨.info, false⟩

/-- The start of an exchange with a timeout. -/
def timedExchange (milliseconds : Nat) : Event Unit :=
  .exchange (Client.ofConfig (timedConfig milliseconds)) "https://account1.example" "GET" .returned
    .null none

/-- An exchange of which so many milliseconds have passed. -/
def timedSession (milliseconds passed : Nat) : Session :=
  (start .zero).runOn Number.keptDelay [timedExchange milliseconds, .elapse (.ofInt passed)]

/-- A millisecond before the longest timeout is over, nothing has stopped an exchange; then its
timer does. -/
theorem timeout_lasts_longest :
    (∃ exchange, (timedSession 2147483647 2147483646).traffic.exchange? 0 = some exchange ∧
      exchange.abortReason? (timedSession 2147483647 2147483646).world = none) ∧
    ∃ exchange, (timedSession 2147483647 2147483647).traffic.exchange? 0 = some exchange ∧
      (exchange.abortReason? (timedSession 2147483647 2147483647).world).isSome := by
  have accepted : (timedConfig 2147483647).Accepted := .inl ⟨timedSettings 2147483647, rfl⟩
  have reachable : ReachableOn Unit Number.keptDelay (start .zero) := ⟨.zero, [], trivial, rfl⟩
  have issued : (timedExchange 2147483647).client? =
      some (Client.ofConfig (timedConfig 2147483647)) := rfl
  have admitted (passed : Nat) : (start .zero).AdmitsAllOn Number.keptDelay
      [timedExchange 2147483647, .elapse (.ofInt passed)] := by
    simp [AdmitsAllOn, Admits, Event.named?, timedExchange]
  have lasts (passed : Nat) {exchange : Exchange}
      (waits : (timedSession 2147483647 passed).traffic.exchange? 0 = some exchange) :=
    timeout_lasts accepted rfl reachable issued (admitted passed)
      (show (start .zero).world.clock = .ofInt (0 : Nat) from rfl) (by decide) waits
  have longest : (Number.ofInt 2147483647).toInt? = some ((2147483647 : Nat) : Int) := by
    decide +kernel
  have early : ((timedSession 2147483647 2147483646).traffic.exchange? 0).isSome = true := by
    decide +kernel
  have late : ((timedSession 2147483647 2147483647).traffic.exchange? 0).isSome = true := by
    decide +kernel
  constructor
  · obtain ⟨exchange, waits⟩ := Option.isSome_iff_exists.mp early
    obtain ⟨delay, read, -, only, -⟩ := lasts 2147483646 waits
    obtain rfl := Int.ofNat.inj (Option.some.inj (longest.symm.trans read))
    exact ⟨exchange, waits, only (by decide +kernel)⟩
  · obtain ⟨exchange, waits⟩ := Option.isSome_iff_exists.mp late
    obtain ⟨delay, read, -, -, stopped⟩ := lasts 2147483647 waits
    obtain rfl := Int.ofNat.inj (Option.some.inj (longest.symm.trans read))
    exact ⟨exchange, waits, stopped (.ofInt 2147483647) (by decide +kernel) (by decide +kernel)⟩

/-- A millisecond longer is accepted as a timeout, and the exchange is stopped for it after one
millisecond. -/
theorem timeout_cut_short :
    Config.read (timedSettings 2147483648) = .ok (timedConfig 2147483648) ∧
      (timedSession 2147483648 1).world.clock = .ofInt 1 ∧
      ((timedSession 2147483648 1).traffic.exchange? 0).bind
          (·.abortReason? (timedSession 2147483648 1).world) =
        some (.failure (Failure.timeout "2147483648")) :=
  ⟨rfl, rfl, rfl⟩

end Session

end BlobStorage
