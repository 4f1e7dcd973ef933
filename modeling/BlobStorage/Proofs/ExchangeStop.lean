import BlobStorage.Proofs.SoundSession

/-!
# What stops an exchange first

An exchange can be stopped from two sides: its caller's signal aborts, or its timer fires.  The
signal that its transport was given aborts with the first of the two, and for that one's reason;
what comes second changes nothing.  `abortReason?_run` says so of all sessions.
-/

namespace BlobStorage

/-- What stops an exchange: the signal of its caller has aborted for a reason, or its timer has
fired after so many milliseconds. -/
inductive Stop where
  | caller (reason : Value)
  | timeout (milliseconds : Text)

/-- The reason that the signal of a transport aborts for.  Only a merged signal stands between it
and the signal of the caller. -/
def Stop.reason (relayed : Bool) : Stop → Value
  | caller reason => if relayed then Signals.relayedReason reason else reason
  | timeout milliseconds => .failure (Failure.timeout milliseconds)

/-- What has stopped a call by now. -/
def World.stop? (world : World) (fired : List Nat) (opening : Opening) : Option Stop :=
  ((opening.caller.bind world.signals.reason?).map .caller).or
    (opening.deadline.bind fun deadline =>
      if deadline.timer ∈ fired then some (.timeout deadline.milliseconds) else none)

theorem World.stop?_eq_none_iff {world : World} {fired : List Nat} {opening : Opening} :
    world.stop? fired opening = none ↔ opening.caller.bind world.signals.reason? = none ∧
      ∀ deadline, opening.deadline = some deadline → deadline.timer ∉ fired := by
  obtain ⟨caller, deadline⟩ := opening
  unfold stop?
  cases caller.bind world.signals.reason? <;> cases deadline <;> simp

/-- The reason for which the signal of an exchange has aborted. -/
def Exchange.abortReason? (exchange : Exchange) (world : World) : Option Value :=
  exchange.signal.bind world.signals.reason?

/-- The signal of an exchange has aborted for what has stopped it. -/
def Exchange.Matches (exchange : Exchange) (world : World) (fired : List Nat) (opening : Opening) :
    Prop :=
  exchange.abortReason? world =
    (world.stop? fired opening).map (Stop.reason opening.deadline.isSome)

namespace Signals

/-- A merged signal that aborts takes over the reason of one of its two sources, which aborts with
it. -/
theorem Linked.traced {before after : Signals} {caller timed target first : SignalId}
    {reason taken : Value} (linked : Linked before caller timed target)
    (abort : Aborts before first reason after) (other : target ≠ first)
    (waiting : before.reason? target = none) (aborted : after.reason? target = some taken) :
    ∃ source told, (source = caller ∨ source = timed) ∧ before.reason? source = none ∧
      after.reason? source = some told ∧ taken = relayedReason told := by
  cases abort with
  | already => cases waiting.symm.trans aborted
  | spread spread =>
      rcases spread.traced waiting aborted with ⟨same, -⟩ | ⟨source, told, calm, marked, relay, rfl⟩
      · exact absurd same other
      · exact ⟨source, told, linked.only relay, calm, marked, rfl⟩

end Signals

namespace Exchange.Bounded

variable {exchange : Exchange} {world : World} {made : List SignalId} {fired : List Nat}
  {opening : Opening}

theorem tied (bounded : exchange.Bounded world made fired opening) {target : SignalId}
    (merged : exchange.merged = some ⟨target, .detach target⟩) :
    ∃ caller deadline timed, opening = ⟨some caller, some deadline⟩ ∧
      exchange.timeout = some ⟨timed, .disarm deadline.timer⟩ ∧
      exchange.signal = some target ∧ caller ∈ made ∧ target ∉ made ∧
      world.Ticking made fired deadline timed ∧
      world.signals.Linked caller timed target := by
  obtain ⟨verb, uri, signal, timeout, merged'⟩ := exchange
  obtain ⟨caller, deadline⟩ := opening
  obtain ⟨callerMade, signal_eq, timed, follows⟩ := bounded
  simp only at merged callerMade signal_eq timed follows
  subst merged signal_eq
  cases timed with
  | never => cases follows
  | armed ticking =>
      cases follows with
      | both linked unmade =>
          exact ⟨_, _, _, rfl, rfl, rfl, callerMade _ rfl, unmade, ticking, linked⟩

theorem matches_of_unmerged (bounded : exchange.Bounded world made fired opening)
    (unmerged : ∀ target, exchange.merged ≠ some ⟨target, .detach target⟩) :
    exchange.Matches world fired opening := by
  obtain ⟨verb, uri, signal, timeout, merged⟩ := exchange
  obtain ⟨caller, deadline⟩ := opening
  obtain ⟨-, signal_eq, timed, follows⟩ := bounded
  simp only at unmerged signal_eq timed follows
  subst signal_eq
  unfold Matches abortReason? World.stop?
  cases timed with
  | never =>
      cases follows with
      | nobody => rfl
      | caller caller =>
          simp only [Option.map_some, Option.bind_some, Option.isSome_none]
          cases world.signals.reason? caller <;> rfl
  | @armed deadline timed ticking =>
      cases follows with
      | both => exact absurd rfl (unmerged _)
      | timer =>
          simp only [Option.map_some, Option.bind_some, Option.bind_none]
          by_cases past : deadline.timer ∈ fired
          · simp [past, (ticking.expired past).2, Stop.reason]
          · simp [past, (ticking.waits past).2]

theorem matches_of_calm (bounded : exchange.Bounded world made fired opening)
    (calm : exchange.abortReason? world = none) : exchange.Matches world fired opening := by
  by_cases merged : ∃ target, exchange.merged = some ⟨target, .detach target⟩
  · obtain ⟨target, merged⟩ := merged
    obtain ⟨caller, deadline, timed, rfl, -, signal, -, -, ticking, linked⟩ := bounded.tied merged
    have waiting : world.signals.reason? target = none := by simpa [abortReason?, signal] using calm
    obtain ⟨-, sources⟩ := linked.waits waiting
    have unfired : deadline.timer ∉ fired := by
      intro past
      cases (sources timed (.inr rfl)).1.symm.trans (ticking.expired past).2
    simp [Matches, calm, World.stop?, (sources caller (.inl rfl)).1, unfired]
  · exact bounded.matches_of_unmerged fun target same => merged ⟨target, same⟩

theorem signal_inside (bounded : exchange.Bounded world made fired opening)
    (orderly : world.Orderly made fired) :
    ∀ signal ∈ exchange.signal, signal < world.signals.length := by
  obtain ⟨verb, uri, signal, timeout, merged⟩ := exchange
  obtain ⟨caller, deadline⟩ := opening
  obtain ⟨callerMade, signal_eq, timed, follows⟩ := bounded
  simp only at callerMade signal_eq timed follows
  subst signal_eq
  have inside := timed.inside
  generalize timeout.map Clearable.signal = timerSignal at follows inside
  intro signal own
  cases follows with
  | nobody => cases own
  | caller caller =>
      obtain rfl := Option.some.inj own
      exact orderly.inside _ (callerMade _ rfl)
  | timer timed =>
      obtain rfl := Option.some.inj own
      exact inside _ rfl
  | both linked =>
      obtain rfl := Option.some.inj own
      exact linked.inside

/-- The signal of a caller aborts; of the exchanges that were not stopped before it stops those that
were started with it. -/
theorem matches_aborts (bounded : exchange.Bounded world made fired opening)
    {after : Signals} {first : SignalId} {reason : Value}
    (abort : world.signals.Aborts first reason after) (own : first ∈ made)
    (calm : exchange.abortReason? world = none) :
    exchange.Matches { world with signals := after } fired opening := by
  have later := bounded.aborts abort own
  cases aborted : exchange.abortReason? { world with signals := after } with
  | none => exact later.matches_of_calm aborted
  | some taken =>
      by_cases merged : ∃ target, exchange.merged = some ⟨target, .detach target⟩
      · obtain ⟨target, merged⟩ := merged
        obtain ⟨caller, deadline, timed, rfl, -, signal, -, unmade, ticking, linked⟩ :=
          bounded.tied merged
        simp only [abortReason?, signal, Option.bind_some] at calm aborted
        have other : target ≠ first := fun same => unmade (same ▸ own)
        -- No abort of a caller's signal reaches the signal of a timer.
        have unmoved : after.reason? timed = world.signals.reason? timed :=
          abort.reason?_of_unrelayed (fun same => ticking.unmade (same ▸ own)) ticking.unrelayed
        obtain ⟨source, told, mine, waiting, marked, rfl⟩ :=
          linked.traced abort other calm aborted
        rcases mine with rfl | rfl
        · simp [Matches, abortReason?, signal, aborted, World.stop?, marked, Stop.reason]
        · cases (waiting.symm.trans unmoved.symm).trans marked
      · exact later.matches_of_unmerged fun target same => merged ⟨target, same⟩

theorem matches_fires (bounded : exchange.Bounded world made fired opening)
    (orderly : world.Orderly made fired) {after : World} {timer : Timer}
    (fires : world.Fires after timer) (calm : exchange.abortReason? world = none) :
    exchange.Matches after (fired ++ [timer.id]) opening := by
  have later := bounded.fires fires
  cases aborted : exchange.abortReason? after with
  | none => exact later.matches_of_calm aborted
  | some taken =>
      by_cases merged : ∃ target, exchange.merged = some ⟨target, .detach target⟩
      · obtain ⟨target, merged⟩ := merged
        obtain ⟨caller, deadline, timed, rfl, timeout, signal, callerMade, -, -, linked⟩ :=
          bounded.tied merged
        obtain ⟨caller', deadline', timed', same, timeout', -, -, -, ticking, -⟩ :=
          later.tied merged
        obtain ⟨rfl, rfl⟩ : caller = caller' ∧ deadline = deadline' := by simpa using same
        obtain rfl : timed = timed' := by simpa [timeout] using timeout'
        simp only [abortReason?, signal, Option.bind_some] at calm aborted
        obtain ⟨expired, text, task, abort⟩ := fires.aborts
        obtain ⟨-, unmade, unrelayed⟩ := orderly.of_expire fires.armed task
        obtain ⟨-, sources⟩ := linked.waits calm
        have other : target ≠ expired := by
          rintro rfl
          exact unrelayed caller (sources caller (.inl rfl)).2
        -- The signal of the caller is not the one that the timer aborts.
        have calmCaller : after.signals.reason? caller = none := by
          rw [abort.reason?_of_unrelayed (fun same => unmade (same ▸ callerMade))
            (orderly.unmade caller callerMade), (sources caller (.inl rfl)).1]
        obtain ⟨source, told, mine, -, marked, rfl⟩ := linked.traced abort other calm aborted
        rcases mine with rfl | rfl
        · cases calmCaller.symm.trans marked
        · have past : deadline.timer ∈ fired ++ [timer.id] := by
            refine Decidable.byContradiction fun unfired => ?_
            cases (ticking.waits unfired).2.symm.trans marked
          obtain rfl := Option.some.inj ((ticking.expired past).2.symm.trans marked)
          simp only [List.mem_append, List.mem_singleton] at past
          simp [Matches, abortReason?, signal, aborted, World.stop?, calmCaller, past, Stop.reason,
            Signals.relayedReason, Value.isPresent]
      · exact later.matches_of_unmerged fun target same => merged ⟨target, same⟩

end Exchange.Bounded

theorem World.abortReason?_arm {world : World} {timeout : Value} {caller : Option SignalId}
    (inside : ∀ signal ∈ caller, signal < world.signals.length) {next : World}
    {timer merged : Option Clearable}
    (armed : world.arm? timeout caller = some (next, timer, merged)) (verb uri : Text) :
    Exchange.abortReason? ⟨verb, uri, merged.map Clearable.signal, timer, merged⟩ next =
      (caller.bind world.signals.reason?).map fun reason =>
        Stop.reason (world.deadline? timeout).isSome (.caller reason) := by
  unfold Exchange.abortReason?
  cases truthy : timeout.isTruthy with
  | false =>
      have never : world.deadline? timeout = none := by simp [World.deadline?, truthy]
      rw [World.arm?_of_falsy truthy] at armed
      obtain ⟨rfl, rfl, rfl⟩ := armed
      rw [never]
      cases caller with
      | none => rfl
      | some caller => exact Option.map_id'.symm
  | true =>
      rw [World.arm?_of_truthy truthy world inside] at armed
      obtain ⟨deadline, due, result⟩ := Option.map_eq_some_iff.mp armed
      obtain ⟨rfl, rfl, rfl⟩ := result
      rw [due]
      cases caller with
      | none => exact Signals.reason?_tie_timed world.signals none
      | some caller => exact Signals.reason?_tie_merged world.signals caller

namespace Event

variable {κ : Type}

/-- The reason for which an event aborts a signal. -/
def abortOf? (id : SignalId) : Event κ → Option Value
  | .abort first reason => if first = id then some reason else none
  | _ => none

end Event

namespace Session

variable {κ : Type}

/-- How an event stops a call: its caller's signal aborts, or its timer fires. -/
def stops? (session : Session) (opening : Opening) (event : Event κ) : Option Stop :=
  ((opening.caller.bind fun caller => event.abortOf? caller).map .caller).or
    (opening.deadline.bind fun deadline =>
      if event.fired? session.world = some deadline.timer then
        some (.timeout deadline.milliseconds)
      else none)

/-- What stops a call first along events. -/
def firstStop? (session : Session) (opening : Opening) : List (Event κ) → Option Stop
  | [] => none
  | event :: events =>
      (session.stops? opening event).or ((session.step event).firstStop? opening events)

theorem opening_step {session : Session} {id : CallId} {opening : Opening}
    (opened : session.openings[id]? = some opening) (event : Event κ) :
    (session.step event).openings[id]? = some opening := by
  have inside : id < session.openings.length := (List.getElem?_eq_some_iff.mp opened).1
  exact (List.getElem?_append_left inside).trans opened

theorem opening_run {session : Session} {id : CallId} {opening : Opening}
    (opened : session.openings[id]? = some opening) (events : List (Event κ)) :
    (session.run events).openings[id]? = some opening := by
  induction events generalizing session with
  | nil => exact opened
  | cons event events induction => exact induction (opening_step opened event)

namespace Effect

variable {before after : Session} {event : Event κ}

theorem quiet_or_stops (sound : before.Sound) (effect : before.Effect event after) :
    (∃ gone, before.world.Quiet after.world gone) ∨
      (∃ signal reason signals, event = .abort signal reason ∧ signal ∈ before.made ∧
        before.world.signals.Aborts signal reason signals ∧
        after.world = { before.world with signals } ∧ after.fired = before.fired) ∨
      ∃ timer, (∀ signal reason, event ≠ .abort signal reason) ∧
        before.world.Fires after.world timer ∧ after.fired = before.fired ++ [timer.id] := by
  have inside : ∀ {caller : Option SignalId}, (∀ signal ∈ caller, signal ∈ before.made) →
      ∀ signal ∈ caller, signal < before.world.signals.length :=
    fun made signal own => sound.orderly.inside signal (made signal own)
  cases effect with
  | still change => exact .inl ⟨_, change.quiet⟩
  | makes world => exact .inl ⟨_, world ▸ (World.Still.addSignal before.world).quiet⟩
  | leaks thrown known armed => exact .inl ⟨_, World.quiet_arm (inside known) armed fun _ => False⟩
  | starts known armed => exact .inl ⟨_, World.quiet_arm (inside known) armed fun _ => False⟩
  | settles own world => exact .inl ⟨_, world ▸ Exchange.quiet_release _ before.world⟩
  | aborts cause known abort world waiting made openings fired =>
      exact .inr (.inl ⟨_, _, _, cause, known, abort, world, fired⟩)
  | fires cause first fires waiting made openings fired =>
      exact .inr (.inr ⟨_, by simp [cause], fires, fired⟩)

theorem reason?_eq (sound : before.Sound) (effect : before.Effect event after) {id : SignalId}
    {reason : Value} (aborted : before.world.signals.reason? id = some reason) :
    after.world.signals.reason? id = some reason := by
  rcases effect.quiet_or_stops sound with ⟨gone, quiet⟩ | ⟨_, _, _, -, -, abort, world, -⟩ |
    ⟨timer, -, fires, -⟩
  · exact (quiet.signals.reason?_eq (Signals.lt_length_of_reason? aborted)).trans aborted
  · rw [world]
    exact abort.keeps aborted
  · obtain ⟨_, _, -, abort⟩ := fires.aborts
    exact abort.keeps aborted

end Effect

/-- A signal of a caller aborts only when the caller says so, and for the reason that it says
first. -/
theorem reason?_step_of_made {session : Session} (sound : session.Sound) {event : Event κ}
    (admitted : session.Admits event) {signal : SignalId} (own : signal ∈ session.made) :
    (session.step event).world.signals.reason? signal =
      (session.world.signals.reason? signal).or (event.abortOf? signal) := by
  have unrelayed := sound.orderly.unmade signal own
  by_cases aborts : ∃ first reason, event = .abort first reason
  · obtain ⟨first, reason, rfl⟩ := aborts
    have abort : session.world.signals.Aborts first reason
        (session.step (.abort first reason : Event κ)).world.signals :=
      Signals.abort_aborts reason sound.orderly.ascending
        (sound.orderly.inside first (admitted first rfl))
    by_cases same : first = signal
    · subst same
      rw [abort.marks, Event.abortOf?, if_pos rfl]
      cases session.world.signals.reason? first <;> rfl
    · rw [abort.reason?_of_unrelayed (Ne.symm same) unrelayed, Event.abortOf?, if_neg same,
        Option.or_none]
  · have still : event.abortOf? signal = none := by
      cases event with
      | abort first reason => exact absurd ⟨first, reason, rfl⟩ aborts
      | _ => rfl
    rw [still, Option.or_none]
    rcases (effect_step sound.orderly admitted).quiet_or_stops sound with ⟨gone, quiet⟩ |
      ⟨first, reason, -, cause, -⟩ | ⟨timer, -, fires, -⟩
    · exact quiet.signals.reason?_eq (sound.orderly.inside signal own)
    · exact absurd ⟨first, reason, cause⟩ aborts
    · obtain ⟨timed, text, task, abort⟩ := fires.aborts
      obtain ⟨-, unmade, -⟩ := sound.orderly.of_expire fires.armed task
      exact abort.reason?_of_unrelayed (fun same => unmade (same ▸ own)) unrelayed

theorem stop?_step {session : Session} (sound : session.Sound) {event : Event κ}
    (admitted : session.Admits event) {opening : Opening}
    (known : ∀ signal ∈ opening.caller, signal ∈ session.made)
    (calm : session.world.stop? session.fired opening = none) :
    (session.step event).world.stop? (session.step event).fired opening =
      session.stops? opening event := by
  obtain ⟨waiting, unfired⟩ := World.stop?_eq_none_iff.mp calm
  have aborted : opening.caller.bind (session.step event).world.signals.reason? =
      opening.caller.bind fun caller => event.abortOf? caller := by
    cases own : opening.caller with
    | none => rfl
    | some signal =>
        rw [own, Option.bind_some] at waiting
        rw [Option.bind_some, Option.bind_some,
          reason?_step_of_made sound admitted (known signal own), waiting, Option.none_or]
  rw [World.stop?, aborted, stops?]
  cases due : opening.deadline with
  | none => rfl
  | some deadline => simp [step, unfired deadline due]

/-- An exchange that nothing had stopped goes on waiting: what the event stopped it for, if it did,
is the reason of its signal. -/
theorem matches_step {session : Session} (sound : session.Sound) {event : Event κ}
    (admitted : session.Admits event) {id : CallId} {exchange : Exchange} {opening : Opening}
    (waiting : session.traffic.exchange? id = some exchange)
    (waits : (session.step event).traffic.exchange? id = some exchange)
    (opened : session.openings[id]? = some opening)
    (calm : exchange.abortReason? session.world = none) :
    exchange.Matches (session.step event).world (session.step event).fired opening := by
  have bounded := sound.bounded waiting opened
  have later := (sound.step admitted).bounded waits (opening_step opened event)
  rcases (effect_step sound.orderly admitted).quiet_or_stops sound with ⟨gone, quiet⟩ |
    ⟨signal, reason, signals, -, known, abort, world, fired⟩ | ⟨timer, -, fires, fired⟩
  · refine later.matches_of_calm ?_
    unfold Exchange.abortReason? at calm ⊢
    cases own : exchange.signal with
    | none => rfl
    | some signal =>
        have room := bounded.signal_inside sound.orderly signal own
        rw [Option.bind_some, quiet.signals.reason?_eq room]
        simpa [own] using calm
  · rw [world, fired]
    exact bounded.matches_aborts abort known calm
  · rw [fired]
    exact bounded.matches_fires sound.orderly fires calm

theorem abortReason?_step {session : Session} (sound : session.Sound) {event : Event κ}
    (admitted : session.Admits event) {id : CallId} {exchange : Exchange} {opening : Opening}
    (waiting : session.traffic.exchange? id = some exchange)
    (waits : (session.step event).traffic.exchange? id = some exchange)
    (opened : session.openings[id]? = some opening) :
    exchange.abortReason? (session.step event).world =
      (exchange.abortReason? session.world).or
        ((session.stops? opening event).map (Stop.reason opening.deadline.isSome)) := by
  cases aborted : exchange.abortReason? session.world with
  | some reason =>
      obtain ⟨signal, own, aborted⟩ := Option.bind_eq_some_iff.mp aborted
      rw [Option.some_or, Exchange.abortReason?, own, Option.bind_some]
      exact (effect_step sound.orderly admitted).reason?_eq sound aborted
  | none =>
      have bounded := sound.bounded waiting opened
      have calm : session.world.stop? session.fired opening = none := by
        have matched := bounded.matches_of_calm aborted
        rw [Exchange.Matches, aborted] at matched
        exact Option.map_eq_none_iff.mp matched.symm
      rw [Option.none_or, matches_step sound admitted waiting waits opened aborted,
        stop?_step sound admitted bounded.caller_made calm]

theorem abortReason?_of_started {session : Session} (sound : session.Sound) {event : Event κ}
    (admitted : session.Admits event) {exchange : Exchange} {opening : Opening}
    (new : (session.step event).traffic.exchange? session.traffic.calls.length = some exchange)
    (opened : (session.step event).openings[session.traffic.calls.length]? = some opening) :
    exchange.abortReason? (session.step event).world =
      (opening.caller.bind session.world.signals.reason?).map fun reason =>
        Stop.reason opening.deadline.isSome (.caller reason) := by
  have effect := effect_step sound.orderly admitted
  generalize session.step event = after at effect new opened
  have unknown : session.traffic.exchange? session.traffic.calls.length = none :=
    Traffic.exchange?_eq_none_of_length_le (Nat.le_refl _)
  cases effect with
  | starts known armed waiting made openings fired =>
      rw [waiting, if_pos rfl] at new
      obtain rfl := Option.some.inj new
      rw [openings, ← sound.length_eq] at opened
      obtain rfl := Option.some.inj (List.getElem?_concat_length.symm.trans opened)
      exact World.abortReason?_arm
        (fun signal own => sound.orderly.inside signal (known signal own)) armed _ _
  | settles own world waiting =>
      rw [waiting] at new
      split at new
      · cases new
      · cases unknown.symm.trans new
  | _ =>
      rename_i waiting _ _ _
      rw [waiting, unknown] at new
      cases new

/-- The signal of an exchange aborts for what stops it first. -/
theorem abortReason?_run {session : Session} (sound : session.Sound) {events : List (Event κ)}
    (admitted : session.AdmitsAll events) {id : CallId} {purpose : Purpose} {exchange : Exchange}
    {opening : Opening} (pending : ∀ completion, .settle id completion ∉ events)
    (waiting : session.traffic.stage? id = some (.exchanging purpose exchange))
    (opened : session.openings[id]? = some opening) :
    exchange.abortReason? (session.run events).world =
      (exchange.abortReason? session.world).or
        ((session.firstStop? opening events).map (Stop.reason opening.deadline.isSome)) := by
  induction events generalizing session with
  | nil => exact (Option.or_none).symm
  | cons event events induction =>
      have unsettled : ∀ completion, event ≠ .settle id completion :=
        fun completion same => pending completion (same ▸ List.mem_cons_self)
      have waits := History.stage?_step_of_unsettled waiting unsettled
      have now := abortReason?_step sound admitted.1 (Traffic.exchange?_of_stage? waiting)
        (Traffic.exchange?_of_stage? waits) opened
      have later := induction (sound.step admitted.1) admitted.2
        (fun completion member => pending completion (List.mem_cons_of_mem _ member)) waits
        (opening_step opened event)
      rw [run_cons, later, now, firstStop?, Option.or_assoc, Option.map_or]

end Session

end BlobStorage
