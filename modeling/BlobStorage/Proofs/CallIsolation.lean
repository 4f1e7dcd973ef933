import BlobStorage.Proofs.CallAlone
import BlobStorage.Proofs.DeleteOutcome

/-!
# Calls do not disturb each other

Whatever other calls do, a call sends the same request and ends in the same way as in the run that
keeps its own steps alone (`call_alone`).  Its timer and its merged signal are its own, and of all
that other calls do to the shared signal of a caller nothing reaches it.
-/

namespace BlobStorage

namespace Timers

theorem isSome_sooner {instant : Number} {first? : Option Timer} {timer : Timer}
    (ready : first?.isSome ∨ (instant.less timer.due || timer.due == .nan) = false) :
    (sooner instant first? timer).isSome := by
  unfold sooner
  split
  · rename_i waits
    exact ready.resolve_right (by simp [waits])
  · cases first? with
    | none => rfl
    | some first =>
        simp only
        split <;> rfl

theorem isSome_first?_of_due {timers : Timers} {instant : Number} {timer : Timer}
    (armed : timer ∈ timers.armed)
    (due : (instant.less timer.due || timer.due == .nan) = false) :
    (timers.first? instant).isSome := by
  have chosen : ∀ (armed : List Timer) (before? : Option Timer),
      before?.isSome ∨ timer ∈ armed → (armed.foldl (sooner instant) before?).isSome := by
    intro armed
    induction armed with
    | nil => exact fun before? found => found.resolve_right (by simp)
    | cons head rest induction =>
        intro before? found
        refine induction _ ?_
        rcases found with before | member
        · exact .inl (isSome_sooner (.inl before))
        · rcases List.mem_cons.mp member with rfl | later
          · exact .inl (isSome_sooner (.inr due))
          · exact .inr later
  rw [first?_eq_foldl]
  exact chosen _ _ (.inr armed)

end Timers

namespace Stage

variable {κ : Type}

/-- Stages that are the same but for names wait for transports, or are the same. -/
theorem bare_cases {stage others : Stage} (same : stage.bare = others.bare) :
    (stage = others ∧ stage.exchange? = none) ∨
      ∃ purpose exchange other, stage = .exchanging purpose exchange ∧
        others = .exchanging purpose other ∧ exchange.verb = other.verb := by
  cases stage with
  | exchanging purpose exchange =>
      cases others with
      | exchanging purpose' other =>
          simp only [bare, Stage.exchanging.injEq, Exchange.mk.injEq] at same
          obtain ⟨rfl, verb, -⟩ := same
          exact .inr ⟨purpose, exchange, other, rfl, rfl, verb⟩
      | _ => cases same
  | _ =>
      cases others with
      | exchanging => cases same
      | _ => exact .inl ⟨same, rfl⟩

theorem eq_some_iff_of_bare {stage? others? : Option Stage}
    (same : stage?.map bare = others?.map bare) {stage : Stage} (ended : stage.isEnded) :
    stage? = some stage ↔ others? = some stage := by
  cases stage? with
  | none => rw [Option.map_eq_none_iff.mp same.symm]
  | some first =>
      obtain ⟨other, rfl, bare⟩ := Option.map_eq_some_iff.mp same.symm
      rcases bare_cases bare.symm with ⟨rfl, -⟩ | ⟨purpose, exchange, other, rfl, rfl, -⟩
      · exact Iff.rfl
      · constructor
        · rintro ⟨⟩
          cases ended
        · rintro ⟨⟩
          cases ended

/-- Stages that are the same but for names go on to such stages, if their signals have aborted for
the same reason. -/
theorem bare_after {stage others : Stage} (same : stage.bare = others.bare) {world alone : World}
    (aborted : ∀ {exchange other}, stage.exchange? = some exchange →
      others.exchange? = some other → exchange.abortReason? world = other.abortReason? alone)
    {session : Session} {id : CallId} {caller : Option SignalId} {event twin : Event κ}
    (twins : session.Twin id caller event twin) :
    (stage.after world id event).bare = (others.after alone 0 twin).bare := by
  rcases bare_cases same with ⟨rfl, idle⟩ | ⟨purpose, exchange, other, rfl, rfl, verb⟩
  · cases twins with
    | settle completion =>
        cases stage with
        | exchanging => cases idle
        | _ => rfl
    | conclude ending => cases stage <;> simp [after]
    | readBody => cases stage <;> simp [after]
    | _ => rfl
  · cases twins with
    | settle completion =>
        simp only [after, if_true, Exchange.conclude_eq, verb, aborted rfl rfl]
    | _ => exact same

theorem exchange?_of_after {stage : Stage} {world : World} {id : CallId} {event : Event κ}
    {exchange : Exchange} (waits : (stage.after world id event).exchange? = some exchange) :
    stage.exchange? = some exchange := by
  cases event with
  | settle call completion =>
      cases stage with
      | exchanging purpose own =>
          simp only [after] at waits
          split at waits
          · rw [exchange?_afterConclusion] at waits
            cases waits
          · exact waits
      | _ => exact waits
  | conclude call ending =>
      cases stage with
      | delegated parameters =>
          simp only [after] at waits
          split at waits
          · rw [exchange?_afterPerformed] at waits
            cases waits
          · exact waits
      | _ => exact waits
  | readBody call =>
      cases stage with
      | reading parameters reply =>
          simp only [after] at waits
          split at waits
          · cases waits
          · exact waits
      | _ => exact waits
  | _ => exact waits

end Stage

namespace Traffic

variable {κ : Type} {traffic : Traffic} {id : CallId}

theorem exists_stage? (started : id < traffic.calls.length) :
    ∃ stage, traffic.stage? id = some stage :=
  ⟨_, by rw [stage?, List.getElem?_eq_getElem started, Option.map_some]⟩

theorem exchange?_of_after (started : id < traffic.calls.length) {event : Event κ}
    {exchange : Exchange} (waits : (traffic.after event).1.exchange? id = some exchange) :
    traffic.exchange? id = some exchange := by
  obtain ⟨stage, found⟩ := exists_stage? started
  rw [exchange?, stage?_after found, Option.bind_some] at waits
  rw [exchange?, found, Option.bind_some]
  exact Stage.exchange?_of_after waits

end Traffic

namespace Session

variable {κ : Type}

section Foreign

variable {session : Session} {id : CallId} {event : Event κ}

theorem call?_of_foreign {caller : Option SignalId}
    (foreign : session.ownEvent? id caller event = none) : event.call? ≠ some id := by
  intro mine
  cases event with
  | watch call | settle call | conclude call | readBody call =>
      obtain rfl := Option.some.inj mine
      simp [ownEvent?] at foreign
  | _ => cases mine

theorem stops?_of_foreign {opening : Opening} (opened : session.openings[id]? = some opening)
    (foreign : session.ownEvent? id opening.caller event = none) :
    session.stops? opening event = none := by
  have calm : (opening.caller.bind fun caller => event.abortOf? caller) = none := by
    refine Option.bind_eq_none_iff.mpr fun caller own => ?_
    cases event with
    | abort signal reason =>
        have other : signal ≠ caller := by
          rintro rfl
          simp [ownEvent?, own] at foreign
        exact if_neg other
    | _ => rfl
  have unfired : ∀ deadline, opening.deadline = some deadline →
      event.fired? session.world ≠ some deadline.timer := by
    intro deadline due fires
    cases event with
    | elapse limit =>
        have own : session.timerOf? id = some deadline.timer := by simp [timerOf?, opened, due]
        rw [ownEvent?, show (session.world.timers.first? limit).map Timer.id = _ from fires,
          Option.bind_some, if_pos own] at foreign
        cases foreign
    | _ => cases fires
  rw [stops?, calm, Option.map_none, Option.none_or]
  exact Option.bind_eq_none_iff.mpr fun deadline due => if_neg (unfired deadline due)

end Foreign

/-- What an own event of a call and its twin have in common. -/
structure Paired (full own : Session) (id : CallId) (opening : Opening)
    (event alone : Event κ) : Prop where
  twin : full.Twin id opening.caller event alone
  admits : own.Admits alone
  stops : ∀ {exchange others}, full.traffic.exchange? id = some exchange →
    own.traffic.exchange? 0 = some others → others.abortReason? own.world = none →
      full.stops? opening event = own.stops? opening.alone alone

namespace Mirrors

variable {full own : Session} {id : CallId} {opening : Opening} {event alone : Event κ}

theorem started (mirrors : Mirrors full own id opening) (sound : full.Sound) :
    id < full.traffic.calls.length :=
  sound.length_eq ▸ (List.getElem?_eq_some_iff.mp mirrors.opened).1

theorem startedAlone (mirrors : Mirrors full own id opening) (sound : own.Sound) :
    0 < own.traffic.calls.length :=
  sound.length_eq ▸ (List.getElem?_eq_some_iff.mp mirrors.openedAlone).1

theorem atClock (mirrors : Mirrors full own id opening) (clock : Number) :
    Mirrors full (own.atClock clock) id opening :=
  { mirrors with }

theorem stops?_elapse (mirrors : Mirrors full own id opening) (sound : full.Sound)
    (soundAlone : own.Sound) {limit : Number} {timer : Timer}
    (fires : full.world.timers.first? limit = some timer) (mine : full.timerOf? id = some timer.id)
    {exchange others : Exchange} (waiting : full.traffic.exchange? id = some exchange)
    (waitingAlone : own.traffic.exchange? 0 = some others)
    (calm : others.abortReason? own.world = none) :
    full.stops? opening (.elapse limit : Event κ) =
      own.stops? opening.alone (.elapse limit : Event κ) := by
  obtain ⟨deadline, due, same⟩ : ∃ deadline, opening.deadline = some deadline ∧
      deadline.timer = timer.id := by
    simpa [timerOf?, mirrors.opened] using mine
  obtain ⟨armed, ready⟩ := Timers.first?_eq_some fires
  have dueAlone : opening.alone.deadline = some { deadline with timer := 0 } := by
    simp [Opening.alone, due]
  -- The timer is due when the deadline says so, and so is the one of the call alone.
  have ready : (limit.less deadline.due || deadline.due == .nan) = false := by
    have bounded := (sound.bounded waiting mirrors.opened).timed
    rw [due] at bounded
    generalize exchange.timeout = timeout at bounded
    cases bounded with
    | armed ticking => rwa [ticking.only armed (.inl same.symm)] at ready
  have boundedAlone := soundAlone.bounded waitingAlone mirrors.openedAlone
  have unstopped : own.world.stop? own.fired opening.alone = none := by
    have matched := boundedAlone.matches_of_calm calm
    rw [Exchange.Matches, calm] at matched
    exact Option.map_eq_none_iff.mp matched.symm
  have unfired := (World.stop?_eq_none_iff.mp unstopped).2 _ dueAlone
  obtain ⟨first, firesAlone⟩ : ∃ first, own.world.timers.first? limit = some first := by
    have timed := boundedAlone.timed
    rw [dueAlone] at timed
    generalize others.timeout = timeout at timed
    cases timed with
    | armed ticking =>
        exact Option.isSome_iff_exists.mp
          (Timers.isSome_first?_of_due (ticking.waits unfired).1 ready)
  have only : first.id = 0 := by
    have allotted := soundAlone.orderly.allotted first (Timers.first?_eq_some firesAlone).1
    exact Nat.lt_one_iff.mp (Nat.lt_of_lt_of_le allotted mirrors.next_le)
  simp [stops?, Event.abortOf?, Event.fired?, fires, firesAlone, due, dueAlone, same, only]

theorem paired (mirrors : Mirrors full own id opening) (sound : full.Sound)
    (soundAlone : own.Sound) (kept : full.ownEvent? id opening.caller event = some alone) :
    Paired full own id opening event alone := by
  rcases ownEvent?_cases kept with ⟨rfl, rfl, mine⟩ | ⟨-, first⟩ | twin
  · have made := (mirrors.known _ mine).1
    exact absurd (sound.orderly.inside _ made) (Nat.lt_irrefl _)
  · exact absurd (mirrors.started sound) (first ▸ Nat.lt_irrefl _)
  · refine ⟨twin, ?_, fun waiting waitingAlone calm => ?_⟩
    · cases twin with
      | abort mine reason =>
          rintro _ ⟨⟩
          exact (mirrors.known _ mine).2
      | _ => simp [Admits, Event.named?]
    · cases twin with
      | abort mine reason => simp [stops?, Event.abortOf?, Opening.alone, mine]
      | elapse fires mine =>
          exact mirrors.stops?_elapse sound soundAlone fires mine waiting waitingAlone calm
      | _ => simp [stops?, Event.abortOf?, Event.fired?]

/-- An event of others leaves the call as it is, and its run alone goes on to mirror it. -/
theorem foreign (mirrors : Mirrors full own id opening) (sound : full.Sound)
    (admitted : full.Admits event) (foreign : full.ownEvent? id opening.caller event = none) :
    Mirrors (full.step event) own id opening where
  stage_eq := by
    obtain ⟨stage, found⟩ := Traffic.exists_stage? (mirrors.started sound)
    have stays := History.stage?_step found event
    rw [Stage.after_of_other (call?_of_foreign foreign)] at stays
    change ((full.toHistory.step event).traffic.stage? id).map Stage.bare = _
    rw [stays, ← mirrors.stage_eq, found]
  request_eq := by
    rw [← mirrors.request_eq]
    exact congrArg _ (History.requestsOf_run (mirrors.started sound) [event])
  known := by
    intro signal own
    obtain ⟨made, madeAlone⟩ := mirrors.known signal own
    exact ⟨List.mem_append_left _ made, madeAlone⟩
  next_le := mirrors.next_le
  opened := opening_step mirrors.opened event
  openedAlone := mirrors.openedAlone
  aborted := by
    intro exchange others waits waitsAlone
    have waiting := Traffic.exchange?_of_after (mirrors.started sound) waits
    rw [abortReason?_step sound admitted waiting waits mirrors.opened,
      stops?_of_foreign mirrors.opened foreign, Option.map_none, Option.or_none,
      mirrors.aborted waiting waitsAlone]

theorem follows (mirrors : Mirrors full own id opening) (sound : full.Sound)
    (soundAlone : own.Sound) (admitted : full.Admits event)
    (paired : Paired full own id opening event alone) :
    Mirrors (full.step event) (own.step alone) id opening where
  stage_eq := by
    obtain ⟨stage, found⟩ := Traffic.exists_stage? (mirrors.started sound)
    obtain ⟨others, foundAlone⟩ := Traffic.exists_stage? (mirrors.startedAlone soundAlone)
    have same := mirrors.stage_eq
    rw [found, foundAlone, Option.map_some, Option.map_some, Option.some.injEq] at same
    change ((full.toHistory.step event).traffic.stage? id).map Stage.bare =
      ((own.toHistory.step alone).traffic.stage? 0).map Stage.bare
    rw [History.stage?_step found, History.stage?_step foundAlone, Option.map_some,
      Option.map_some, Stage.bare_after same _ paired.twin]
    intro exchange other waiting waitingAlone
    exact mirrors.aborted (by rw [Traffic.exchange?, found, Option.bind_some, waiting])
      (by rw [Traffic.exchange?, foundAlone, Option.bind_some, waitingAlone])
  request_eq := by
    have sent := History.requestsOf_run (mirrors.started sound) [event]
    have sentAlone := History.requestsOf_run (mirrors.startedAlone soundAlone) [alone]
    change ((full.toHistory.run [event]).requestsOf id).map _ =
      ((own.toHistory.run [alone]).requestsOf 0).map _
    rw [sent, sentAlone, mirrors.request_eq]
  known := by
    intro signal own
    obtain ⟨made, madeAlone⟩ := mirrors.known signal own
    exact ⟨List.mem_append_left _ made, List.mem_append_left _ madeAlone⟩
  next_le := by
    have unopened : alone.opening? own.world = none := by
      cases paired.twin <;> rfl
    have fixed := (own.traffic.after_fixed alone).2
    rw [unopened] at fixed
    exact Nat.le_trans fixed mirrors.next_le
  opened := opening_step mirrors.opened event
  openedAlone := opening_step mirrors.openedAlone alone
  aborted := by
    intro exchange others waits waitsAlone
    have waiting := Traffic.exchange?_of_after (mirrors.started sound) waits
    have waitingAlone := Traffic.exchange?_of_after (mirrors.startedAlone soundAlone) waitsAlone
    have same := mirrors.aborted waiting waitingAlone
    rw [abortReason?_step sound admitted waiting waits mirrors.opened,
      abortReason?_step soundAlone paired.admits waitingAlone waitsAlone mirrors.openedAlone, same]
    -- What has aborted stays so; until then an event stops both exchanges or neither.
    cases calm : others.abortReason? own.world with
    | some reason => rfl
    | none =>
        have timed : opening.alone.deadline.isSome = opening.deadline.isSome := by
          simp [Opening.alone]
        rw [paired.stops waiting waitingAlone calm, timed]

/-- Whatever happens, the run of the call alone mirrors it. -/
theorem step (mirrors : Mirrors full own id opening) (sound : full.Sound)
    (soundAlone : own.Sound) (admitted : full.Admits event) :
    Mirrors (full.step event) (own.follow full id opening.caller event) id opening ∧
      (own.follow full id opening.caller event).Sound := by
  unfold follow
  cases kept : full.ownEvent? id opening.caller event with
  | none => exact ⟨mirrors.foreign sound admitted kept, soundAlone⟩
  | some alone =>
      have soundAlone := soundAlone.atClock full.world.clock
      have mirrors := mirrors.atClock full.world.clock
      have paired := mirrors.paired sound soundAlone kept
      exact ⟨mirrors.follows sound soundAlone admitted paired, soundAlone.step paired.admits⟩

theorem run (mirrors : Mirrors full own id opening) (sound : full.Sound)
    (soundAlone : own.Sound) {events : List (Event κ)} (admitted : full.AdmitsAll events) :
    Mirrors (full.run events) (own.replay (full.ownSteps id opening.caller events)) id opening := by
  induction events generalizing full own with
  | nil => exact mirrors
  | cons event events induction =>
      obtain ⟨mirrors, soundAlone⟩ := mirrors.step sound soundAlone admitted.1
      rw [run_cons, replay_ownSteps_cons]
      exact induction mirrors (sound.step admitted.1) soundAlone admitted.2

end Mirrors

namespace Expects

variable {full own : Session} {caller : Option SignalId} {event : Event κ} {opening : Opening}

theorem deadline?_eq (expects : Expects full own caller) (timeout : Value) :
    (own.atClock full.world.clock).world.deadline? timeout =
      (full.world.deadline? timeout).map fun deadline => { deadline with timer := 0 } := by
  have first : own.traffic.world.timers.next = 0 := congrArg Timers.next expects.timers
  unfold World.deadline?
  cases timeout.isTruthy with
  | false => rfl
  | true => simp [Function.comp_def, first, atClock]

theorem begins (expects : Expects full own caller) (sound : full.Sound) (soundAlone : own.Sound)
    (bySent : full.toHistory.SentByStarted) (admitted : full.Admits event)
    (opens : event.opening? full.world = some opening) (openingCaller : opening.caller = caller) :
    Mirrors (full.step event) (own.follow full full.traffic.calls.length caller event)
        full.traffic.calls.length opening ∧
      (own.follow full full.traffic.calls.length caller event).Sound := by
  have instant : (own.atClock full.world.clock).world.instant? = full.world.instant? := by
    unfold World.instant?
    rw [show (own.atClock full.world.clock).world.origin = full.world.origin from
      expects.origin_eq]
    rfl
  cases event with
  | exchange client uri verb mutator body signal =>
      obtain rfl := Option.some.inj opens
      obtain rfl : signal = caller := openingCaller
      rw [follow, ownEvent?, if_pos rfl]
      exact expects.starts sound soundAlone bySent admitted rfl rfl rfl rfl
        (by simp [Event.opening?, Opening.alone, expects.deadline?_eq])
        (Traffic.exchange_startsAlike instant ..)
  | delete client builder signal =>
      obtain rfl := Option.some.inj opens
      obtain rfl : signal = caller := openingCaller
      rw [follow, ownEvent?, if_pos rfl]
      exact expects.starts sound soundAlone bySent admitted rfl rfl rfl rfl
        (by simp [Event.opening?, Opening.alone, expects.deadline?_eq])
        (Traffic.delete_startsAlike instant ..)
  | delegate endpoint builder signal =>
      obtain rfl := Option.some.inj opens
      obtain rfl : signal = caller := openingCaller
      rw [follow, ownEvent?, if_pos rfl]
      exact expects.starts sound soundAlone bySent admitted rfl rfl rfl rfl rfl
        (Traffic.delegate_startsAlike ..)
  | _ => cases opens

theorem run (expects : Expects full own caller) (sound : full.Sound) (soundAlone : own.Sound)
    (bySent : full.toHistory.SentByStarted) {id : CallId}
    (unstarted : full.traffic.calls.length ≤ id) {events : List (Event κ)}
    (admitted : full.AdmitsAll events)
    (openingCaller : ∀ opening, (full.run events).openings[id]? = some opening →
      opening.caller = caller) :
    (∃ opening, Mirrors (full.run events) (own.replay (full.ownSteps id caller events)) id
        opening) ∨
      (full.run events).traffic.calls.length ≤ id ∧
        Expects (full.run events) (own.replay (full.ownSteps id caller events)) caller := by
  induction events generalizing full own with
  | nil => exact .inr ⟨unstarted, expects⟩
  | cons event events induction =>
      have soundNext := sound.step admitted.1
      rw [run_cons, replay_ownSteps_cons]
      rw [run_cons] at openingCaller
      by_cases starts : (event.opening? full.world).isSome ∧ full.traffic.calls.length = id
      · obtain ⟨opens, rfl⟩ := starts
        obtain ⟨opening, opens⟩ := Option.isSome_iff_exists.mp opens
        have opened := sound.opened_step opens
        obtain rfl := openingCaller opening (opening_run opened events)
        obtain ⟨mirrors, soundAlone⟩ :=
          expects.begins sound soundAlone bySent admitted.1 opens rfl
        exact .inl ⟨opening, mirrors.run soundNext soundAlone admitted.2⟩
      · have other : event.opening? full.world = none ∨ full.traffic.calls.length ≠ id := by
          rw [← Option.not_isSome_iff_eq_none]
          exact Decidable.not_and_iff_not_or_not.mp starts
        obtain ⟨expects, soundAlone⟩ := expects.step sound soundAlone admitted.1 unstarted other
        have still : (full.step event).traffic.calls.length ≤ id := by
          have length_eq : (full.openings ++ (event.opening? full.world).toList).length =
              (full.step event).traffic.calls.length := soundNext.length_eq
          rw [List.length_append, sound.length_eq] at length_eq
          rcases other with nothing | other
          · rw [nothing] at length_eq
            exact length_eq ▸ unstarted
          · have room : full.traffic.calls.length + 1 ≤ id := Nat.lt_of_le_of_ne unstarted other
            exact length_eq ▸ Nat.le_trans (Nat.add_le_add_left Option.length_toList_le _) room
        exact induction expects soundNext soundAlone (bySent.step event) still admitted.2
          openingCaller

end Expects

theorem expects_start (origin : Number) (caller : Option SignalId) :
    Expects (start origin) (start origin) caller where
  origin_eq := rfl
  calls := rfl
  sent := rfl
  timers := rfl
  known _ _ := .inr ⟨List.not_mem_nil, rfl, rfl⟩

/-- Whatever else happens in a session, a call sends the same request, and has ended with the same
outcome, as in the run that keeps only its own steps and the aborts of its caller's signal, in their
order and at their clock times. -/
theorem call_alone {origin : Number} {events : List (Event κ)}
    (admitted : (start origin).AdmitsAll events) (id : CallId) :
    let full := (start origin).run events
    let caller := full.openings[id]?.bind Opening.caller
    let alone := (start origin).replay ((start origin).ownSteps id caller events)
    (full.requestsOf id).map WireRequest.content = (alone.requestsOf 0).map WireRequest.content ∧
      ∀ stage : Stage, stage.isEnded →
        (full.traffic.stage? id = some stage ↔ alone.traffic.stage? 0 = some stage) := by
  intro full caller alone
  have sound := sound_start origin
  have openingCaller : ∀ opening, full.openings[id]? = some opening → opening.caller = caller := by
    intro opening opened
    simp [caller, opened]
  rcases (expects_start origin caller).run sound sound (History.sentByStarted_start origin)
    (Nat.zero_le id) admitted openingCaller with ⟨opening, mirrors⟩ | ⟨unstarted, expects⟩
  · refine ⟨mirrors.request_eq, fun stage ended => ?_⟩
    exact Stage.eq_some_iff_of_bare mirrors.stage_eq ended
  · have bySent : full.toHistory.SentByStarted := by
      rw [toHistory_run]
      exact (History.sentByStarted_start origin).run events
    refine ⟨?_, fun stage _ => ?_⟩
    · rw [bySent.requestsOf_eq_nil unstarted]
      simp [History.requestsOf, alone, expects.sent]
    · have nothing : full.traffic.stage? id = none := by
        rw [Traffic.stage?, List.getElem?_eq_none unstarted, Option.map_none]
      have nothingAlone : alone.traffic.stage? 0 = none := by
        simp [Traffic.stage?, alone, expects.calls]
      rw [nothing, nothingAlone]

/-- Two deletes share a signal, which aborts when the first of them has settled. -/
def sharedRun : List (Event Unit) :=
  let delete : Event Unit :=
    .delete (Client.ofConfig DeleteBlob.sampleConfig) DeleteBlob.sampleBuilder (some 0)
  [.signal, delete, delete, .settle 0 (.returned (.value .null)), .abort 0 (.string "stop"),
    .settle 1 (.threw (.string "stop"))]

theorem admitsAll_sharedRun : (start .zero).AdmitsAll sharedRun := by
  have known : ∀ {session : Session} {event : Event Unit}, session.made = [0] →
      event.named? = some 0 → session.Admits event := by
    intro session event made named
    simp [Admits, named, made]
  exact ⟨by simp [Admits, Event.named?], known (by decide +kernel) rfl,
    known (by decide +kernel) rfl, by simp [Admits, Event.named?], known (by decide +kernel) rfl,
    by simp [Admits, Event.named?], trivial⟩

/-- The second delete ends as in a run of its own, without the steps of the first. -/
theorem call_alone_shared :
    let full := (start .zero).run sharedRun
    let steps := (start .zero).ownSteps 1 (some 0) sharedRun
    let alone := (start .zero).replay steps
    (start .zero).AdmitsAll sharedRun ∧ steps.length = 4 ∧ (alone.requestsOf 0).length = 1 ∧
      ∃ stage, stage.isEnded ∧ full.traffic.stage? 1 = some stage ∧
        alone.traffic.stage? 0 = some stage := by
  have caller : ((start .zero).run sharedRun).openings[1]?.bind Opening.caller = some 0 := by
    decide +kernel
  have sent : (((start .zero).run sharedRun).requestsOf 1).length = 1 := by decide +kernel
  have finished : (((start .zero).run sharedRun).traffic.stage? 1).map Stage.isEnded =
      some true := by
    decide +kernel
  obtain ⟨stage, found, ended⟩ := Option.map_eq_some_iff.mp finished
  have same := call_alone admitsAll_sharedRun 1
  simp only [caller] at same
  obtain ⟨requests, stages⟩ := same
  refine ⟨admitsAll_sharedRun, by decide +kernel, ?_, stage, ended, found,
    (stages stage ended).mp found⟩
  have count := congrArg List.length requests
  rw [List.length_map, List.length_map, sent] at count
  exact count.symm

end Session

end BlobStorage
