import BlobStorage.Proofs.ClockTime
import BlobStorage.Proofs.ExchangeStop

/-!
# Timers of a platform

A platform has a longest delay: asked for a timer beyond it, it arms one that is due after a
millisecond.  `Session.stepOn` is the step of a session on a platform that keeps a delay as `kept`
says.  Sessions stay sound on every platform (`Sound.stepOn`); an event that asks for no timer does
the same on all of them (`stepOn_of_delay?_eq_none`).
-/

namespace BlobStorage

/-- The longest delay of the platform's timers, in milliseconds. -/
def Timers.longestDelay : Nat := 2147483647

/-- The delay of a timer that is asked for: the same, if it is between one millisecond and the
longest one, and else one millisecond. -/
def Number.keptDelay (delay : Number) : Number :=
  if delay.less (.ofInt 1) || (ofInt Timers.longestDelay).less delay || delay == .nan then .ofInt 1
  else delay

namespace Number

/-- A whole delay is kept up to the longest one; beyond it, it is cut down to a millisecond. -/
theorem keptDelay_eq {number : Number} {delay : Nat} (read : number.toInt? = some (delay : Int))
    (positive : 0 < delay) :
    number.keptDelay = ofInt ((if delay ≤ Timers.longestDelay then delay else 1 : Nat) : Int) := by
  have longest : Timers.longestDelay < Nat.pow 2 53 := by decide
  split
  · rename_i within
    have small : delay < Nat.pow 2 53 := Nat.lt_of_le_of_lt within longest
    obtain rfl := eq_ofInt read positive small
    have above : (ofInt delay).less (ofInt (1 : Nat)) = false := by
      rw [Bool.eq_false_iff, ne_eq, less_ofInt_iff small (by decide)]
      omega
    have below : (ofInt Timers.longestDelay).less (ofInt delay) = false := by
      rw [Bool.eq_false_iff, ne_eq, less_ofInt_iff longest small]
      omega
    have isNumber : (ofInt delay == nan) = false := by
      rw [ofInt_natCast small]
      rfl
    rw [keptDelay, show (1 : Int) = ((1 : Nat) : Int) from rfl, above, below, isNumber]
    rfl
  · rename_i beyond
    have cut : (ofInt Timers.longestDelay).less number = true := by
      obtain ⟨value, own, integer⟩ := Option.bind_eq_some_iff.mp read
      rw [ofInt_natCast longest]
      refine less_iff.mpr (.inr (.inr ⟨_, value, rfl, own, ?_⟩))
      rw [eq_natCast_of_dyadicInt? integer, natCast_lt_natCast]
      omega
    rw [keptDelay, cut, Bool.or_true, Bool.true_or, if_pos rfl]
    rfl

end Number

/-- The timer, due at another instant if it was armed since a mark. -/
def Timer.retime (mark : Nat) (due : Number) (timer : Timer) : Timer :=
  { timer with due := if mark ≤ timer.id then due else timer.due }

def Deadline.retime (mark : Nat) (due : Number) (deadline : Deadline) : Deadline :=
  { deadline with due := if mark ≤ deadline.timer then due else deadline.due }

def Opening.retime (mark : Nat) (due : Number) (opening : Opening) : Opening :=
  { opening with deadline := opening.deadline.map (Deadline.retime mark due) }

namespace World

/-- The timers that were armed since a mark are due at another instant. -/
def retime (mark : Nat) (due : Number) (world : World) : World :=
  { world with
    timers := { world.timers with armed := world.timers.armed.map (Timer.retime mark due) } }

variable {world : World} {made : List SignalId} {fired : List Nat} {mark : Nat} {due : Number}

theorem mem_armed_retime {timer : Timer} :
    timer ∈ (world.retime mark due).timers.armed ↔
      ∃ other ∈ world.timers.armed, other.retime mark due = timer := List.mem_map

theorem Ticking.retime {deadline : Deadline} {timed : SignalId}
    (ticking : world.Ticking made fired deadline timed) (mark : Nat) (due : Number) :
    (world.retime mark due).Ticking made fired (deadline.retime mark due) timed where
  inside := ticking.inside
  unmade := ticking.unmade
  unrelayed := ticking.unrelayed
  allotted := ticking.allotted
  only := by
    intro other member own
    obtain ⟨timer, armed, rfl⟩ := mem_armed_retime.mp member
    rw [ticking.only armed own]
    rfl
  waits := by
    intro waiting
    obtain ⟨armed, unaborted⟩ := ticking.waits waiting
    exact ⟨mem_armed_retime.mpr ⟨_, armed, rfl⟩, unaborted⟩
  expired := by
    intro past
    obtain ⟨stopped, aborted⟩ := ticking.expired past
    refine ⟨?_, aborted⟩
    intro other member
    obtain ⟨timer, armed, rfl⟩ := mem_armed_retime.mp member
    exact stopped timer armed

theorem Orderly.retime (orderly : world.Orderly made fired) (mark : Nat) (due : Number) :
    (world.retime mark due).Orderly made fired where
  ascending := orderly.ascending
  unmade := orderly.unmade
  inside := orderly.inside
  allotted := by
    intro timer member
    obtain ⟨other, armed, rfl⟩ := mem_armed_retime.mp member
    exact orderly.allotted other armed
  apart := List.pairwise_map.mpr orderly.apart
  expiring := by
    intro timer member
    obtain ⟨other, armed, rfl⟩ := mem_armed_retime.mp member
    exact orderly.expiring other armed
  past := orderly.past

theorem Ticking.retime_deadline {deadline : Deadline} {timed : SignalId}
    (ticking : world.Ticking made fired deadline timed) (due : Number) :
    deadline.retime world.timers.next due = deadline := by
  rw [Deadline.retime, if_neg (Nat.not_le_of_lt ticking.allotted)]

end World

theorem Exchange.Bounded.retime {exchange : Exchange} {world : World} {made : List SignalId}
    {fired : List Nat} {opening : Opening} (bounded : exchange.Bounded world made fired opening)
    (mark : Nat) (due : Number) :
    exchange.Bounded (world.retime mark due) made fired (opening.retime mark due) where
  caller_made := bounded.caller_made
  signal_eq := bounded.signal_eq
  timed := by
    obtain ⟨caller, deadline⟩ := opening
    have timed := bounded.timed
    generalize exchange.timeout = timeout at timed
    cases timed with
    | never => exact .never
    | armed ticking => exact .armed (ticking.retime mark due)
  follows := bounded.follows

theorem Exchange.Bounded.retime_opening {exchange : Exchange} {world : World}
    {made : List SignalId} {fired : List Nat} {opening : Opening}
    (bounded : exchange.Bounded world made fired opening) (due : Number) :
    opening.retime world.timers.next due = opening := by
  obtain ⟨caller, deadline⟩ := opening
  have timed := bounded.timed
  generalize exchange.timeout = timeout at timed
  cases timed with
  | never => rfl
  | armed ticking => rw [Opening.retime, Option.map_some, ticking.retime_deadline]

namespace Event

variable {κ : Type}

/-- The client that the exchange of a call goes through. -/
def client? : Event κ → Option Client
  | .exchange client _ _ _ _ _ | .delete client _ _ => some client
  | _ => none

/-- The delay that an event asks a timer for. -/
def delay? (event : Event κ) : Option Number :=
  event.client?.bind fun client =>
    if client.requestTimeout.isTruthy then client.requestTimeout.toNumber? else none

theorem opening?_of_client? {event : Event κ} {client : Client}
    (issued : event.client? = some client) (world : World) :
    event.opening? world = some ⟨event.named?, world.deadline? client.requestTimeout⟩ := by
  cases event <;> cases issued <;> rfl

theorem fired?_of_client? {event : Event κ} {client : Client}
    (issued : event.client? = some client) (world : World) : event.fired? world = none := by
  cases event with
  | elapse limit => cases issued
  | _ => rfl

theorem abortOf?_of_client? {event : Event κ} {client : Client}
    (issued : event.client? = some client) (signal : SignalId) : event.abortOf? signal = none := by
  cases event with
  | abort id reason => cases issued
  | _ => rfl

theorem deadline?_of_delay? {event : Event κ} {client : Client}
    (issued : event.client? = some client) {delay : Number} (asked : event.delay? = some delay)
    (world : World) :
    world.deadline? client.requestTimeout = some ⟨world.timers.next, world.clock.add delay,
      client.requestTimeout.toText?.getD []⟩ := by
  rw [delay?, issued, Option.bind_some] at asked
  split at asked
  · rename_i truthy
    rw [World.deadline?, if_pos truthy, asked, Option.map_some]
  · cases asked

end Event

namespace Session

variable {κ : Type}

/-- One more event on a platform: the timer that it asks for has the delay that the platform
keeps. -/
def stepOn (kept : Number → Number) (session : Session) (event : Event κ) : Session :=
  let next := session.step event
  match event.delay? with
  | none => next
  | some delay =>
      let mark := session.world.timers.next
      let due := session.world.clock.add (kept delay)
      { next with
        traffic := { next.traffic with world := next.world.retime mark due }
        openings := session.openings ++
          ((event.opening? session.world).map (Opening.retime mark due)).toList }

def runOn (kept : Number → Number) (session : Session) (events : List (Event κ)) : Session :=
  events.foldl (stepOn kept) session

def AdmitsAllOn (kept : Number → Number) (session : Session) : List (Event κ) → Prop
  | [] => True
  | event :: events => session.Admits event ∧ (session.stepOn kept event).AdmitsAllOn kept events

/-- What a session on a platform can come to. -/
def ReachableOn (κ : Type) (kept : Number → Number) (session : Session) : Prop :=
  ∃ origin, ∃ events : List (Event κ),
    (start origin).AdmitsAllOn kept events ∧ session = (start origin).runOn kept events

section Step

variable (kept : Number → Number) (session : Session) (event : Event κ)

theorem stepOn_of_delay?_eq_none (none : event.delay? = none) :
    session.stepOn kept event = session.step event := by
  rw [stepOn, none]

@[simp] theorem made_stepOn : (session.stepOn kept event).made = (session.step event).made := by
  unfold stepOn
  split <;> rfl

@[simp] theorem fired_stepOn : (session.stepOn kept event).fired = (session.step event).fired := by
  unfold stepOn
  split <;> rfl

@[simp] theorem calls_stepOn :
    (session.stepOn kept event).traffic.calls = (session.step event).traffic.calls := by
  unfold stepOn
  split <;> rfl

@[simp] theorem signals_stepOn :
    (session.stepOn kept event).world.signals = (session.step event).world.signals := by
  unfold stepOn
  split <;> rfl

@[simp] theorem clock_stepOn :
    (session.stepOn kept event).world.clock = (session.step event).world.clock := by
  unfold stepOn
  split <;> rfl

theorem stage?_stepOn (id : CallId) :
    (session.stepOn kept event).traffic.stage? id = (session.step event).traffic.stage? id := by
  rw [Traffic.stage?, calls_stepOn, Traffic.stage?]

theorem exchange?_stepOn (id : CallId) :
    (session.stepOn kept event).traffic.exchange? id =
      (session.step event).traffic.exchange? id := by
  rw [Traffic.exchange?, stage?_stepOn, Traffic.exchange?]

theorem abortReason?_stepOn (exchange : Exchange) :
    exchange.abortReason? (session.stepOn kept event).world =
      exchange.abortReason? (session.step event).world := by
  rw [Exchange.abortReason?, signals_stepOn, Exchange.abortReason?]

theorem openings_stepOn {delay : Number} (asked : event.delay? = some delay) :
    (session.stepOn kept event).openings = session.openings ++
      ((event.opening? session.world).map (Opening.retime session.world.timers.next
        (session.world.clock.add (kept delay)))).toList := by
  rw [stepOn, asked]

end Step

/-- An exchange that waits after an event and is not new has waited before it. -/
theorem Effect.waited {before after : Session} {event : Event κ}
    (effect : before.Effect event after) {id : CallId} {exchange : Exchange}
    (waits : after.traffic.exchange? id = some exchange) :
    id = before.traffic.calls.length ∨ before.traffic.exchange? id = some exchange := by
  cases effect with
  | starts known armed waiting =>
      rw [waiting] at waits
      split at waits
      · exact .inl ‹_›
      · exact .inr waits
  | settles own world waiting =>
      rw [waiting] at waits
      split at waits
      · cases waits
      · exact .inr waits
  | _ =>
      rename_i waiting _ _ _
      exact .inr (waiting id ▸ waits)

namespace Sound

variable {before : Session} {event : Event κ}

theorem stepOn (sound : before.Sound) (admitted : before.Admits event)
    (kept : Number → Number) : (before.stepOn kept event).Sound := by
  have next := sound.step admitted
  cases asked : event.delay? with
  | none =>
      rw [stepOn_of_delay?_eq_none kept before event asked]
      exact next
  | some delay =>
      have openings := openings_stepOn kept before event asked
      have world : (before.stepOn kept event).world =
          (before.step event).world.retime before.world.timers.next
            (before.world.clock.add (kept delay)) := by
        rw [Session.stepOn, asked]
      generalize before.world.clock.add (kept delay) = due at openings world
      refine ⟨?_, ?_, ?_, ?_⟩
      · rw [world, made_stepOn, fired_stepOn]
        exact next.orderly.retime _ due
      · rw [openings, calls_stepOn, ← next.length_eq]
        simp only [Session.step, List.length_append]
        cases event.opening? before.world <;> rfl
      -- The exchange is the new one, with the deadline just set, or it was bounded before.
      · intro id exchange opening own opened
        rw [exchange?_stepOn] at own
        rw [world, made_stepOn, fired_stepOn]
        rw [openings] at opened
        rcases (effect_step sound.orderly admitted).waited own with new | waited
        · obtain ⟨first, opens, rfl⟩ : ∃ first, event.opening? before.world = some first ∧
              first.retime before.world.timers.next due = opening := by
            rw [new, ← sound.length_eq, List.getElem?_append_right (Nat.le_refl _),
              Nat.sub_self] at opened
            apply Option.map_eq_some_iff.mp
            cases retimed : (event.opening? before.world).map _ with
            | none =>
                rw [retimed] at opened
                cases opened
            | some own =>
                rw [retimed] at opened
                exact opened
          subst new
          exact (next.bounded own (sound.opened_step opens)).retime _ due
        · have inside : id < before.openings.length := by
            rw [sound.length_eq]
            exact Traffic.lt_length_of_exchange? waited
          rw [List.getElem?_append_left inside] at opened
          have later := (next.bounded own (opening_step opened event)).retime
            before.world.timers.next due
          rwa [(sound.bounded waited opened).retime_opening due] at later
      · intro id other exchange others release own foreign
        rw [exchange?_stepOn] at own foreign
        exact next.apart own foreign

theorem runOn (sound : before.Sound) {kept : Number → Number} {events : List (Event κ)}
    (admitted : before.AdmitsAllOn kept events) : (before.runOn kept events).Sound := by
  induction events generalizing before with
  | nil => exact sound
  | cons event events induction => exact induction (sound.stepOn admitted.1 kept) admitted.2

end Sound

theorem ReachableOn.sound {kept : Number → Number} {session : Session}
    (reachable : ReachableOn κ kept session) : session.Sound := by
  obtain ⟨origin, events, admitted, rfl⟩ := reachable
  exact (sound_start origin).runOn admitted

end Session

end BlobStorage
