import BlobStorage.Proofs.ExchangeBounds

/-!
# What an event does to a session

`effect_step` opens the events of a session once.  An event leaves the waiting exchanges alone and
changes the world only where nobody looks (`World.Still`), or an exchange starts or ends, or a
signal aborts, or a timer fires.  Invariants of sessions are proved along these cases.
-/

namespace BlobStorage

namespace Signals

/-- The signals that abort with a signal, by the relays on it. -/
def relaysOf (signals : Signals) (id : SignalId) : List SignalId :=
  (signals.listenersOf id).filterMap fun
    | .relay target => some target
    | _ => none

theorem mem_relaysOf {signals : Signals} {source target : SignalId} :
    target ∈ signals.relaysOf source ↔ .relay target ∈ signals.listenersOf source := by
  unfold relaysOf
  rw [List.mem_filterMap]
  constructor
  · rintro ⟨listener, member, relay⟩
    cases listener with
    | relay goal =>
        obtain rfl := Option.some.inj relay
        exact member
    | _ => cases relay
  · intro member
    exact ⟨.relay target, member, rfl⟩

end Signals

/-- A change of the world in which no listener of the library is added or taken away, and no timer
is armed or stopped. -/
structure World.Still (before after : World) : Prop where
  quiet : before.Quiet after fun _ => False
  timers_eq : after.timers = before.timers
  relaysOf_eq : ∀ source, after.signals.relaysOf source = before.signals.relaysOf source
  releases : ∀ {source}, .release ∈ after.signals.listenersOf source →
    .release ∈ before.signals.listenersOf source

namespace World.Still

theorem ofSignals {before after : World} (signals : after.signals = before.signals)
    (timers : after.timers = before.timers) : before.Still after where
  quiet := by
    refine .ofSignals timers ?_
    rw [signals]
    exact .refl ..
  timers_eq := timers
  relaysOf_eq := by simp [signals]
  releases := by simp [signals]

theorem refl (world : World) : world.Still world := .ofSignals rfl rfl

theorem addSignal (world : World) : world.Still world.addSignal where
  quiet := .ofSignals rfl (.append _ _ (by simp))
  timers_eq := rfl
  relaysOf_eq := by
    intro source
    unfold Signals.relaysOf World.addSignal Signals.create
    simp only [Signals.listenersOf_append_singleton]
    split
    · rename_i last
      rw [last, Signals.listenersOf_eq_nil_of_length_le (Nat.le_refl _)]
    · rfl
  releases := by
    intro source member
    simp only [World.addSignal, Signals.create, Signals.listenersOf_append_singleton] at member
    split at member
    · cases member
    · exact member

theorem listen (world : World) (signal : Option SignalId) (call : CallId) :
    world.Still (world.listen signal call) := by
  cases signal with
  | none => exact .refl world
  | some signal =>
      exact {
        quiet := .ofSignals rfl (.listen_transport ..)
        timers_eq := rfl
        relaysOf_eq := by
          intro source
          simp only [World.listen, Signals.relaysOf, Signals.listenersOf_listen]
          split <;> simp
        releases := by
          intro source member
          simp only [World.listen, Signals.listenersOf_listen] at member
          split at member
          · simpa using member
          · exact member }

end World.Still

namespace Timers

/-- The one that fires first of a timer and of the first of those before it, as far as they are
due. -/
def sooner (instant : Number) (first? : Option Timer) (timer : Timer) : Option Timer :=
  if instant.less timer.due || timer.due == .nan then first?
  else
    match first? with
    | some first => if timer.due.less first.due then some timer else some first
    | Option.none => some timer

theorem first?_eq_foldl (timers : Timers) (instant : Number) :
    timers.first? instant = timers.armed.foldl (sooner instant) Option.none := rfl

theorem sooner_eq_some {instant : Number} {first? : Option Timer} {timer chosen : Timer}
    (first : sooner instant first? timer = some chosen) :
    first? = some chosen ∨
      chosen = timer ∧ (instant.less timer.due || timer.due == .nan) = false := by
  unfold sooner at first
  split at first
  · exact .inl first
  · rename_i due
    have due := Bool.eq_false_iff.mpr due
    split at first
    · split at first
      · exact .inr ⟨(Option.some.inj first).symm, due⟩
      · exact .inl first
    · exact .inr ⟨(Option.some.inj first).symm, due⟩

theorem first?_eq_some {timers : Timers} {instant : Number} {timer : Timer}
    (first : timers.first? instant = some timer) :
    timer ∈ timers.armed ∧ (instant.less timer.due || timer.due == .nan) = false := by
  have chosen : ∀ (armed : List Timer) (before? : Option Timer),
      armed.foldl (sooner instant) before? = some timer →
        before? = some timer ∨
          timer ∈ armed ∧ (instant.less timer.due || timer.due == .nan) = false := by
    intro armed
    induction armed with
    | nil => exact fun before? found => .inl found
    | cons head rest induction =>
        intro before? found
        rcases induction _ found with here | ⟨member, due⟩
        · rcases sooner_eq_some here with before | ⟨rfl, due⟩
          · exact .inl before
          · exact .inr ⟨List.mem_cons_self, due⟩
        · exact .inr ⟨List.mem_cons_of_mem _ member, due⟩
  rw [first?_eq_foldl] at first
  rcases chosen timers.armed Option.none first with nothing | found
  · cases nothing
  · exact found

end Timers

namespace World

/-- Time passes: no timer is due, or the first of those that are fires. -/
theorem elapse_cases {world : World} {made : List SignalId} {fired : List Nat}
    (orderly : world.Orderly made fired) (limit : Number) :
    (world.timers.first? limit = none ∧ (world.elapse limit).signals = world.signals ∧
        (world.elapse limit).timers = world.timers) ∨
      ∃ timer, world.timers.first? limit = some timer ∧
        world.Fires (world.elapse limit) timer := by
  unfold elapse fire?
  cases first : world.timers.first? limit with
  | none => exact .inl ⟨rfl, rfl, rfl⟩
  | some timer =>
      obtain ⟨armed, -⟩ := Timers.first?_eq_some first
      obtain ⟨timed, text, task, inside, -⟩ := orderly.expiring timer armed
      refine .inr ⟨timer, rfl, armed, ⟨timed, text, task, ?_⟩, ?_⟩
      · simp only [Option.map_some, task]
        exact Signals.abort_aborts _ orderly.ascending inside
      · simp only [Option.map_some, task]
        rfl

end World

namespace Traffic

theorem exchange?_add (traffic : Traffic) (call : Call) (id : CallId) :
    (traffic.add call).exchange? id =
      if id = traffic.calls.length then call.stage.exchange? else traffic.exchange? id := by
  unfold exchange? stage? add
  simp only [List.getElem?_append]
  split
  · rename_i inside
    rw [if_neg (Nat.ne_of_lt inside)]
  · rename_i outside
    have outside := Nat.le_of_not_lt outside
    split
    · rename_i last
      simp [last]
    · rename_i other
      have beyond : traffic.calls.length < id := Nat.lt_of_le_of_ne outside (Ne.symm other)
      simp [Nat.sub_ne_zero_of_lt beyond, outside]

theorem exchange?_eq_none_of_length_le {traffic : Traffic} {id : CallId}
    (outside : traffic.calls.length ≤ id) : traffic.exchange? id = none := by
  simp [exchange?, stage?, outside]

theorem lt_length_of_exchange? {traffic : Traffic} {id : CallId} {exchange : Exchange}
    (waiting : traffic.exchange? id = some exchange) : id < traffic.calls.length := by
  refine Nat.lt_of_not_le fun outside => ?_
  rw [exchange?_eq_none_of_length_le outside] at waiting
  cases waiting

theorem exchange?_add_of_still (traffic : Traffic) {call : Call}
    (still : call.stage.exchange? = none) (id : CallId) :
    (traffic.add call).exchange? id = traffic.exchange? id := by
  rw [exchange?_add]
  split
  · rename_i last
    rw [still, exchange?_eq_none_of_length_le (Nat.le_of_eq last.symm)]
  · rfl

theorem exchange?_setStage (traffic : Traffic) (id : CallId) {stage : Stage}
    (still : stage.exchange? = none) (other : CallId) :
    (traffic.setStage id stage).exchange? other =
      if id = other then none else traffic.exchange? other := by
  unfold exchange?
  rw [stage?_setStage]
  split
  · cases traffic.stage? other <;> simp [still]
  · rfl

/-- A call that does not wait for a transport goes on to a stage that does not either. -/
theorem setStage_still {traffic : Traffic} {id : CallId} {stage next : Stage}
    (found : traffic.stage? id = some stage) (idle : stage.exchange? = none)
    (still : next.exchange? = none) :
    (traffic.setStage id next).world = traffic.world ∧
      ∀ other, (traffic.setStage id next).exchange? other = traffic.exchange? other := by
  refine ⟨rfl, fun other => ?_⟩
  rw [exchange?_setStage _ _ still]
  split
  · rename_i same
    rw [← same, exchange?, found, Option.bind_some, idle]
  · rfl

theorem conclude_still (traffic : Traffic) (id : CallId) (ending : DeleteBlob.Performed) :
    (traffic.conclude id ending).world = traffic.world ∧
      ∀ other, (traffic.conclude id ending).exchange? other = traffic.exchange? other := by
  unfold conclude
  split
  · rename_i parameters delegated
    exact setStage_still delegated rfl (Stage.exchange?_afterPerformed ..)
  · exact ⟨rfl, fun _ => rfl⟩

theorem readBody_still (traffic : Traffic) (id : CallId) :
    (traffic.readBody id).1.world = traffic.world ∧
      ∀ other, (traffic.readBody id).1.exchange? other = traffic.exchange? other := by
  unfold readBody
  split
  · rename_i parameters reply reading
    exact setStage_still reading rfl rfl
  · exact ⟨rfl, fun _ => rfl⟩

/-- A transport settles: a call that waits for it goes on, and what bounded it is released. -/
theorem settle_cases (traffic : Traffic) (id : CallId) (completion : Completion Reply) :
    (traffic.settle id completion).1 = traffic ∨
      ∃ exchange, traffic.exchange? id = some exchange ∧
        (traffic.settle id completion).1.world = exchange.release traffic.world ∧
        ∀ other, (traffic.settle id completion).1.exchange? other =
          if id = other then none else traffic.exchange? other := by
  unfold settle
  split
  · rename_i purpose exchange waiting
    refine .inr ⟨exchange, exchange?_of_stage? waiting, ?_, ?_⟩
    · unfold Exchange.conclude
      cases completion.guarded <;> rfl
    · exact exchange?_setStage _ _ (Stage.exchange?_afterConclusion ..)
  · exact .inl rfl

end Traffic

namespace Event

variable {κ : Type}

/-- An event starts no exchange whose mutator throws something that no condition sees. -/
def Truthful : Event κ → Prop
  | .exchange _ _ _ mutator _ _ => mutator.Truthful
  | _ => True

end Event

namespace Session

variable {κ : Type}

/-- What an event does to a session.  Signals may be made, and calls started, without an exchange
that waits; or an exchange leaves its bounds behind without waiting; or an exchange starts, settles,
or the signal of a caller aborts, or a timer fires. -/
inductive Effect (before : Session) (event : Event κ) (after : Session) : Prop where
  | still (change : before.world.Still after.world)
      (waiting : ∀ id, after.traffic.exchange? id = before.traffic.exchange? id)
      (made : after.made = before.made)
      (openings : before.openings <+: after.openings)
      (fired : after.fired = before.fired)
  | makes (world : after.world = before.world.addSignal)
      (waiting : ∀ id, after.traffic.exchange? id = before.traffic.exchange? id)
      (made : after.made = before.made ++ [before.world.signals.length])
      (openings : after.openings = before.openings)
      (fired : after.fired = before.fired)
  | leaks {timeout : Value} {caller : Option SignalId} {timer merged : Option Clearable}
      (thrown : ¬ event.Truthful) (known : ∀ signal ∈ caller, signal ∈ before.made)
      (armed : before.world.arm? timeout caller = some (after.world, timer, merged))
      (waiting : ∀ id, after.traffic.exchange? id = before.traffic.exchange? id)
      (made : after.made = before.made)
      (openings : before.openings <+: after.openings)
      (fired : after.fired = before.fired)
  | starts {timeout : Value} {caller : Option SignalId} {timer merged : Option Clearable}
      {verb uri : Text} (known : ∀ signal ∈ caller, signal ∈ before.made)
      (armed : before.world.arm? timeout caller = some (after.world, timer, merged))
      (waiting : ∀ id, after.traffic.exchange? id =
        if id = before.traffic.calls.length then
          some ⟨verb, uri, merged.map Clearable.signal, timer, merged⟩
        else before.traffic.exchange? id)
      (made : after.made = before.made)
      (openings : after.openings =
        before.openings ++ [⟨caller, before.world.deadline? timeout⟩])
      (fired : after.fired = before.fired)
  | settles {id : CallId} {exchange : Exchange}
      (own : before.traffic.exchange? id = some exchange)
      (world : after.world = exchange.release before.world)
      (waiting : ∀ other, after.traffic.exchange? other =
        if id = other then none else before.traffic.exchange? other)
      (made : after.made = before.made)
      (openings : after.openings = before.openings)
      (fired : after.fired = before.fired)
  | aborts {signal : SignalId} {reason : Value} {signals : Signals}
      (cause : event = .abort signal reason) (known : signal ∈ before.made)
      (abort : before.world.signals.Aborts signal reason signals)
      (world : after.world = { before.world with signals })
      (waiting : ∀ id, after.traffic.exchange? id = before.traffic.exchange? id)
      (made : after.made = before.made)
      (openings : after.openings = before.openings)
      (fired : after.fired = before.fired)
  | fires {limit : Number} {timer : Timer} (cause : event = .elapse limit)
      (first : before.world.timers.first? limit = some timer)
      (fires : before.world.Fires after.world timer)
      (waiting : ∀ id, after.traffic.exchange? id = before.traffic.exchange? id)
      (made : after.made = before.made)
      (openings : after.openings = before.openings)
      (fired : after.fired = before.fired ++ [timer.id])

theorem effect_of_opened {before after : Session} {event : Event κ} {timeout : Value}
    {mutator : Client.Mutator} {caller : Option SignalId}
    (opened : Traffic.Opened before.traffic timeout mutator caller after.traffic)
    (truthful : event.Truthful → mutator.Truthful)
    (known : ∀ signal ∈ caller, signal ∈ before.made) (made : after.made = before.made)
    (openings : after.openings =
      before.openings ++ [⟨caller, before.world.deadline? timeout⟩])
    (fired : after.fired = before.fired) : before.Effect event after := by
  obtain ⟨⟨traffic, sent, entries⟩, made', openings', fired'⟩ := after
  simp only at opened made openings fired
  subst made openings fired
  cases opened with
  | idle still =>
      exact .still (.refl _) (Traffic.exchange?_add_of_still _ still) rfl
        (List.prefix_append ..) rfl
  | leaked still armed thrown =>
      exact .leaks (fun event => thrown (truthful event)) known armed
        (Traffic.exchange?_add_of_still _ still) rfl (List.prefix_append ..) rfl
  | waiting armed =>
      exact .starts known armed (Traffic.exchange?_add _ _) rfl rfl rfl

theorem effect_step {session : Session}
    (orderly : session.world.Orderly session.made session.fired) {event : Event κ}
    (admitted : session.Admits event) : session.Effect event (session.step event) := by
  cases event with
  | signal => exact .makes rfl (fun _ => rfl) rfl (List.append_nil _) (List.append_nil _)
  | exchange client uri verb mutator body caller =>
      exact effect_of_opened (Traffic.opened_exchange ..) id admitted (List.append_nil _) rfl
        (List.append_nil _)
  | delete client builder caller =>
      obtain ⟨mutator, truthful, opened⟩ :=
        session.traffic.opened_delete client builder caller
      exact effect_of_opened opened (fun _ => truthful) admitted (List.append_nil _) rfl
        (List.append_nil _)
  | delegate endpoint builder caller =>
      obtain ⟨call, still, added⟩ := session.traffic.delegate_still endpoint builder caller
      have traffic : (session.step (.delegate endpoint builder caller)).traffic =
          session.traffic.add call := added
      refine .still ?_ ?_ (List.append_nil _) (List.prefix_append ..) (List.append_nil _)
      · exact .ofSignals (by rw [world, traffic]; rfl) (by rw [world, traffic]; rfl)
      · rw [traffic]
        exact Traffic.exchange?_add_of_still _ still
  | watch call =>
      exact .still (.listen ..) (fun _ => rfl) (List.append_nil _) (List.prefix_append ..)
        (List.append_nil _)
  | settle call completion =>
      rcases session.traffic.settle_cases call completion with
        idle | ⟨exchange, own, world, waiting⟩
      · have traffic : (session.step (.settle call completion : Event κ)).traffic =
            session.traffic := idle
        refine .still ?_ ?_ (List.append_nil _) (List.prefix_append ..) (List.append_nil _)
        · exact .ofSignals (by rw [Session.world, traffic]) (by rw [Session.world, traffic])
        · rw [traffic]
          exact fun _ => rfl
      · exact .settles own world waiting (List.append_nil _) (List.append_nil _)
          (List.append_nil _)
  | conclude call ending =>
      obtain ⟨world, waiting⟩ := session.traffic.conclude_still call ending
      exact .still (.ofSignals (congrArg World.signals world) (congrArg World.timers world)) waiting
        (List.append_nil _) (List.prefix_append ..) (List.append_nil _)
  | readBody call =>
      obtain ⟨world, waiting⟩ := session.traffic.readBody_still call
      exact .still (.ofSignals (congrArg World.signals world) (congrArg World.timers world)) waiting
        (List.append_nil _) (List.prefix_append ..) (List.append_nil _)
  | abort signal reason =>
      have known : signal ∈ session.made := admitted signal rfl
      exact .aborts rfl known
        (Signals.abort_aborts reason orderly.ascending (orderly.inside signal known)) rfl
        (fun _ => rfl) (List.append_nil _) (List.append_nil _) (List.append_nil _)
  | elapse limit =>
      rcases World.elapse_cases orderly limit with ⟨none, signals, timers⟩ | ⟨timer, first, fires⟩
      · refine .still (.ofSignals signals timers) (fun _ => rfl) (List.append_nil _)
          (List.prefix_append ..) ?_
        simp [step, Event.fired?, none]
      · refine .fires rfl first fires (fun _ => rfl) (List.append_nil _) (List.append_nil _) ?_
        simp [step, Event.fired?, first]

end Session

end BlobStorage
