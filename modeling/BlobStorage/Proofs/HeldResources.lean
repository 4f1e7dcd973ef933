import BlobStorage.Proofs.ExchangeResult

/-!
# What waiting calls hold

The listeners of the library on the signal of a caller, and the armed timers, are those of the calls
that wait: each relay and each timer belongs to one of them (`Tidy`), and each of them has its own.
Hence both can be counted by counting calls, at every point of every session, and nothing is left
when no call waits.
-/

namespace BlobStorage

namespace Signals

/-- How many listeners of the library are on a signal: those of transports are not its own. -/
def heldOn (signals : Signals) (id : SignalId) : Nat :=
  (signals.listenersOf id).countP fun
    | .transport _ => false
    | _ => true

/-- On a signal that is not merged itself, the library has nothing but relays. -/
theorem heldOn_eq_length {signals : Signals} {id : SignalId}
    (plain : .release ∉ signals.listenersOf id) :
    signals.heldOn id = (signals.relaysOf id).length := by
  unfold heldOn relaysOf
  generalize signals.listenersOf id = listeners at plain
  induction listeners with
  | nil => rfl
  | cons listener listeners induction =>
      have rest := induction fun member => plain (List.mem_cons_of_mem _ member)
      cases listener with
      | relay target => simp [rest]
      | release => exact absurd List.mem_cons_self plain
      | transport call => simp [rest]

theorem relaysOf_tie {signals : Signals} {caller : Option SignalId}
    (inside : ∀ signal ∈ caller, signal < signals.length) (source : SignalId) :
    (signals.tie caller).relaysOf source = signals.relaysOf source ∨
      (signals.tie caller).relaysOf source =
        signals.relaysOf source ++ [signals.length + 1] := by
  unfold relaysOf
  rcases listenersOf_tie inside source with same | ⟨merged, same⟩ | ⟨-, same⟩
  · exact .inl (by rw [same])
  · rw [same, merged, listenersOf_eq_nil_of_length_le (Nat.le_succ _)]
    exact .inl rfl
  · rw [same, List.filterMap_append]
    exact .inr rfl

theorem release_tie {signals : Signals} {caller : Option SignalId}
    (inside : ∀ signal ∈ caller, signal < signals.length) {source : SignalId}
    (member : .release ∈ (signals.tie caller).listenersOf source) :
    .release ∈ signals.listenersOf source ∨ source = signals.length + 1 := by
  rcases listenersOf_tie inside source with same | ⟨merged, -⟩ | ⟨-, same⟩
  · exact .inl (same ▸ member)
  · exact .inr merged
  · rw [same] at member
    exact .inl (by simpa using member)

end Signals

/-- A change of the world in which listeners and timers can only go, and those that are `gone`
do. -/
structure World.Sheds (before after : World) (gone : Release → Prop) : Prop where
  sublist : ∀ source,
    (after.signals.listenersOf source).Sublist (before.signals.listenersOf source)
  detached : ∀ {source target}, gone (.detach target) →
    .relay target ∉ after.signals.listenersOf source
  armed : ∀ {timer}, timer ∈ after.timers.armed →
    timer ∈ before.timers.armed ∧ ¬ gone (.disarm timer.id)

namespace World.Sheds

theorem refl (world : World) : world.Sheds world fun _ => False where
  sublist _ := List.Sublist.refl _
  detached gone := gone.elim
  armed member := ⟨member, id⟩

theorem release (world : World) (release : Release) :
    world.Sheds (world.release release) (· = release) := by
  cases release with
  | nothing =>
      exact {
        sublist := fun _ => List.Sublist.refl _
        detached := by simp
        armed := fun member => ⟨member, by simp⟩ }
  | detach target =>
      exact {
        sublist := by
          intro source
          simp only [World.release, Signals.listenersOf_detach]
          exact List.filter_sublist
        detached := by
          intro source goal same
          obtain rfl : goal = target := by simpa using same
          simp [World.release]
        armed := fun member => ⟨member, by simp⟩ }
  | disarm timer =>
      exact {
        sublist := fun _ => List.Sublist.refl _
        detached := by simp
        armed := by
          intro other member
          obtain ⟨member, different⟩ := List.mem_filter.mp member
          refine ⟨member, ?_⟩
          simpa using different }

theorem trans {before after last : World} {first second : Release → Prop}
    (left : before.Sheds after first) (right : after.Sheds last second) :
    before.Sheds last fun release => first release ∨ second release where
  sublist source := (right.sublist source).trans (left.sublist source)
  detached := by
    rintro source target (gone | gone) member
    · exact left.detached gone ((right.sublist source).subset member)
    · exact right.detached gone member
  armed := by
    intro timer member
    obtain ⟨middle, later⟩ := right.armed member
    obtain ⟨member, earlier⟩ := left.armed middle
    exact ⟨member, not_or.mpr ⟨earlier, later⟩⟩

end World.Sheds

theorem Exchange.sheds_release (exchange : Exchange) (world : World) :
    world.Sheds (exchange.release world) (· ∈ exchange.releases) := by
  have folded : ∀ (releases : List Release) (world : World),
      world.Sheds (releases.foldl World.release world) (· ∈ releases) := by
    intro releases
    induction releases with
    | nil =>
        intro world
        simpa using World.Sheds.refl world
    | cons release releases induction =>
        intro world
        have both := (World.Sheds.release world release).trans (induction (world.release release))
        simpa only [List.foldl_cons, List.mem_cons] using both
  rw [release_eq_foldl]
  exact folded exchange.releases world

namespace Exchange.Bounded

variable {exchange : Exchange} {world : World} {made : List SignalId} {fired : List Nat}
  {opening : Opening}

theorem merged_of_detach (bounded : exchange.Bounded world made fired opening)
    {target : SignalId} (own : .detach target ∈ exchange.releases) :
    exchange.merged = some ⟨target, .detach target⟩ := by
  obtain ⟨verb, uri, signal, timeout, merged⟩ := exchange
  obtain ⟨caller, deadline⟩ := opening
  obtain ⟨-, -, timed, follows⟩ := bounded
  simp only at timed follows
  cases timed <;> cases follows <;> simp_all [releases]

theorem ticking_of_disarm (bounded : exchange.Bounded world made fired opening) {timer : Nat}
    (own : .disarm timer ∈ exchange.releases) :
    ∃ deadline timed, opening.deadline = some deadline ∧ deadline.timer = timer ∧
      world.Ticking made fired deadline timed := by
  obtain ⟨verb, uri, signal, timeout, merged⟩ := exchange
  obtain ⟨caller, deadline⟩ := opening
  obtain ⟨-, -, timed, follows⟩ := bounded
  simp only at timed follows
  cases timed with
  | never => cases follows <;> simp [releases] at own
  | armed ticking =>
      refine ⟨_, _, rfl, ?_, ticking⟩
      cases follows <;> simpa [releases, eq_comm] using own

theorem merged_of_both (bounded : exchange.Bounded world made fired opening)
    (caller : opening.caller.isSome) (deadline : opening.deadline.isSome) :
    ∃ target, exchange.merged = some ⟨target, .detach target⟩ := by
  obtain ⟨verb, uri, signal, timeout, merged⟩ := exchange
  obtain ⟨caller', deadline'⟩ := opening
  obtain ⟨-, -, timed, follows⟩ := bounded
  simp only at timed follows
  cases timed with
  | never => cases deadline
  | armed ticking =>
      cases follows with
      | timer => cases caller
      | both => exact ⟨_, rfl⟩

theorem disarm_of_deadline (bounded : exchange.Bounded world made fired opening)
    {deadline : Deadline} (due : opening.deadline = some deadline) :
    .disarm deadline.timer ∈ exchange.releases := by
  obtain ⟨verb, uri, signal, timeout, merged⟩ := exchange
  obtain ⟨caller, deadline'⟩ := opening
  obtain ⟨-, -, timed, -⟩ := bounded
  simp only at timed due
  subst due
  cases timed with
  | armed ticking => simp [releases]

end Exchange.Bounded

namespace Session

variable {κ : Type}

/-- Every relay and every timer belongs to an exchange that waits; no relay stands twice; and no
caller's signal is merged. -/
structure Tidy (session : Session) : Prop where
  owned : ∀ {source target}, .relay target ∈ session.world.signals.listenersOf source →
    ∃ id exchange, session.traffic.exchange? id = some exchange ∧
      .detach target ∈ exchange.releases
  single : ∀ source, (session.world.signals.relaysOf source).Nodup
  plain : ∀ signal ∈ session.made, .release ∉ session.world.signals.listenersOf signal
  armed : ∀ timer ∈ session.world.timers.armed,
    ∃ id exchange, session.traffic.exchange? id = some exchange ∧
      .disarm timer.id ∈ exchange.releases

namespace Tidy

variable {before after : Session}

/-- Nothing is added, and what goes belongs to exchanges that wait no longer. -/
theorem sheds (tidy : before.Tidy) {gone : Release → Prop}
    (change : before.world.Sheds after.world gone) (made : after.made = before.made)
    (waiting : ∀ {id exchange release}, before.traffic.exchange? id = some exchange →
      release ∈ exchange.releases → ¬ gone release →
        after.traffic.exchange? id = some exchange) : after.Tidy where
  owned := by
    intro source target member
    obtain ⟨id, exchange, waits, own⟩ := tidy.owned ((change.sublist source).subset member)
    exact ⟨id, exchange, waiting waits own fun gone => change.detached gone member, own⟩
  single source := ((change.sublist source).filterMap _).nodup (tidy.single source)
  plain := by
    intro signal own member
    exact tidy.plain signal (made ▸ own) ((change.sublist signal).subset member)
  armed := by
    intro timer member
    obtain ⟨earlier, remains⟩ := change.armed member
    obtain ⟨id, exchange, waits, own⟩ := tidy.armed timer earlier
    exact ⟨id, exchange, waiting waits own remains, own⟩

theorem still (tidy : before.Tidy) (change : before.world.Still after.world)
    (made : ∀ signal ∈ after.made, signal ∈ before.made ∨
      .release ∉ after.world.signals.listenersOf signal)
    (waiting : ∀ id, after.traffic.exchange? id = before.traffic.exchange? id) : after.Tidy where
  owned := by
    intro source target member
    rw [← Signals.mem_relaysOf, change.relaysOf_eq, Signals.mem_relaysOf] at member
    simpa only [waiting] using tidy.owned member
  single source := change.relaysOf_eq source ▸ tidy.single source
  plain := by
    intro signal own member
    rcases made signal own with earlier | new
    · exact tidy.plain signal earlier (change.releases member)
    · exact new member
  armed := by
    intro timer member
    rw [change.timers_eq] at member
    simpa only [waiting] using tidy.armed timer member

theorem starts (tidy : before.Tidy) (sound : before.Sound) {timeout : Value}
    {caller : Option SignalId} {timer merged : Option Clearable} {verb uri : Text}
    (known : ∀ signal ∈ caller, signal ∈ before.made)
    (armed : before.world.arm? timeout caller = some (after.world, timer, merged))
    (waiting : ∀ id, after.traffic.exchange? id =
      if id = before.traffic.calls.length then
        some ⟨verb, uri, merged.map Clearable.signal, timer, merged⟩
      else before.traffic.exchange? id)
    (made : after.made = before.made) : after.Tidy := by
  have inside : ∀ signal ∈ caller, signal < before.world.signals.length :=
    fun signal own => sound.orderly.inside signal (known signal own)
  have waits : ∀ {id exchange}, before.traffic.exchange? id = some exchange →
      after.traffic.exchange? id = some exchange := by
    intro id exchange own
    rw [waiting, if_neg (Nat.ne_of_lt (Traffic.lt_length_of_exchange? own)), own]
  have new := waiting before.traffic.calls.length
  rw [if_pos rfl] at new
  -- Without a timeout the world stays as it is; with one, a timer and its relays are new.
  cases truthy : timeout.isTruthy with
  | false =>
      rw [World.arm?_of_falsy truthy] at armed
      have world : before.world = after.world := (Prod.mk.inj (Option.some.inj armed)).1
      have change : before.world.Sheds after.world fun _ => False := by
        rw [← world]
        exact .refl _
      exact tidy.sheds change made fun own _ _ => waits own
  | true =>
      rw [World.arm?_of_truthy truthy _ inside] at armed
      obtain ⟨deadline, -, result⟩ := Option.map_eq_some_iff.mp armed
      obtain ⟨world, rest⟩ := Prod.mk.inj result
      obtain ⟨rfl, rfl⟩ := Prod.mk.inj rest
      refine ⟨?_, ?_, ?_, ?_⟩
      · intro source target member
        rw [← world] at member
        rcases Signals.relay_tie inside member with old | ⟨rfl, own, rfl, -⟩
        · obtain ⟨id, exchange, own, releases⟩ := tidy.owned old
          exact ⟨id, exchange, waits own, releases⟩
        · exact ⟨_, _, new, by simp [Exchange.releases, World.mergedWith]⟩
      · intro source
        rw [← world]
        rcases Signals.relaysOf_tie inside source with same | more
        · exact same.symm ▸ tidy.single source
        · have unknown :
              before.world.signals.length + 1 ∉ before.world.signals.relaysOf source := by
            intro member
            have below := (sound.orderly.ascending (Signals.mem_relaysOf.mp member)).2
            exact absurd below (Nat.not_lt_of_le (Nat.le_succ _))
          refine more.symm ▸ List.nodup_append.mpr ⟨tidy.single source, by simp, ?_⟩
          intro old member last own same
          obtain rfl := List.mem_singleton.mp own
          exact unknown (same ▸ member)
      · intro signal own member
        rw [made] at own
        rw [← world] at member
        rcases Signals.release_tie inside member with old | merged
        · exact tidy.plain signal own old
        · exact absurd (sound.orderly.inside signal own) (merged ▸ Nat.not_lt_of_le (Nat.le_succ _))
      · intro timer member
        rw [← world] at member
        rcases List.mem_append.mp member with old | last
        · obtain ⟨id, exchange, own, releases⟩ := tidy.armed timer old
          exact ⟨id, exchange, waits own, releases⟩
        · obtain rfl := List.mem_singleton.mp last
          exact ⟨_, _, new, by simp [Exchange.releases]⟩

theorem step (tidy : before.Tidy) (sound : before.Sound) {event : Event κ}
    (admitted : before.Admits event) (truthful : event.Truthful) : (before.step event).Tidy := by
  have effect := effect_step sound.orderly admitted
  generalize before.step event = after at effect
  cases effect with
  | still change waiting made openings fired =>
      exact tidy.still change (fun signal own => .inl (made ▸ own)) waiting
  | makes world waiting made openings fired =>
      refine tidy.still (world ▸ .addSignal before.world) ?_ waiting
      intro signal own
      rw [made] at own
      rcases List.mem_append.mp own with earlier | new
      · exact .inl earlier
      · right
        obtain rfl := List.mem_singleton.mp new
        simp [world, World.addSignal, Signals.create]
  | leaks thrown known armed waiting made openings fired => exact absurd truthful thrown
  | starts known armed waiting made openings fired =>
      exact tidy.starts sound known armed waiting made
  | @settles settled exchange own world waiting made openings fired =>
      refine tidy.sheds (world ▸ exchange.sheds_release before.world) made ?_
      intro id other release waits theirs remains
      rw [waiting, if_neg, waits]
      rintro rfl
      obtain rfl := Option.some.inj (own.symm.trans waits)
      exact remains theirs
  | aborts cause known abort world waiting made openings fired =>
      have change : before.world.Sheds after.world fun _ => False := by
        rw [world]
        exact ⟨abort.sublist, False.elim, fun member => ⟨member, id⟩⟩
      exact tidy.sheds change made fun own _ _ => (waiting _).trans own
  | fires cause first fires waiting made openings fired =>
      obtain ⟨timed, text, task, abort⟩ := fires.aborts
      have change : before.world.Sheds after.world fun _ => False :=
        ⟨abort.sublist, False.elim, fun member => ⟨(fires.mem_armed.mp member).1, id⟩⟩
      exact tidy.sheds change made fun own _ _ => (waiting _).trans own

end Tidy

theorem tidy_start (origin : Number) : (start origin).Tidy where
  owned := by simp [start, History.start, Traffic.start, World.start, Signals.listenersOf]
  single := by
    simp [start, History.start, Traffic.start, World.start, Signals.relaysOf, Signals.listenersOf]
  plain := by simp [start]
  armed := by simp [start, History.start, Traffic.start, World.start, Timers.none]

theorem tidy_run {session : Session} (tidy : session.Tidy) (sound : session.Sound)
    {events : List (Event κ)} (admitted : session.AdmitsAll events)
    (truthful : ∀ event ∈ events, event.Truthful) : (session.run events).Tidy := by
  induction events generalizing session with
  | nil => exact tidy
  | cons event events induction =>
      have now := truthful event List.mem_cons_self
      exact induction (tidy.step sound admitted.1 now) (sound.step admitted.1) admitted.2
        fun later member => truthful later (List.mem_cons_of_mem _ member)

/-- A call waits that was started with a signal and with a deadline, and its merged signal has not
aborted. -/
def listensOn (session : Session) (signal : SignalId) (id : CallId) : Bool :=
  match session.traffic.exchange? id, session.openings[id]? with
  | some exchange, some opening =>
      opening.caller == some signal && opening.deadline.isSome &&
        (exchange.abortReason? session.world).isNone
  | _, _ => false

/-- A call waits that was started with a deadline, and its timer has not fired. -/
def ticks (session : Session) (id : CallId) : Bool :=
  match session.traffic.exchange? id, session.openings[id]? with
  | some _, some opening =>
      opening.deadline.any fun deadline => !session.fired.contains deadline.timer
  | _, _ => false

def callIds (session : Session) : List CallId := List.range session.traffic.calls.length

end Session

/-- Things can be counted by the calls that they belong to. -/
theorem length_eq_countP {α : Type} {things : List α} {ids : List CallId} {holds : CallId → Bool}
    (held : CallId → α) (things_nodup : things.Nodup) (ids_nodup : ids.Nodup)
    (apart : ∀ id other, holds id → holds other → held id = held other → id = other)
    (mem_iff : ∀ thing, thing ∈ things ↔ ∃ id ∈ ids, holds id ∧ held id = thing) :
    things.length = ids.countP holds := by
  have mapped : ((ids.filter holds).map held).Nodup := by
    refine List.pairwise_map.mpr (List.Pairwise.imp_of_mem ?_ (ids_nodup.filter holds))
    intro id other own foreign different same
    exact different (apart id other (List.mem_filter.mp own).2 (List.mem_filter.mp foreign).2 same)
  have perm : things.Perm ((ids.filter holds).map held) := by
    refine (List.perm_ext_iff_of_nodup things_nodup mapped).mpr fun thing => ?_
    simp [mem_iff, and_assoc]
  rw [perm.length_eq, List.length_map, List.countP_eq_length_filter]

namespace Session

variable {κ : Type} {session : Session}

theorem listensOn_iff {signal : SignalId} {id : CallId} :
    session.listensOn signal id ↔ ∃ exchange opening,
      session.traffic.exchange? id = some exchange ∧ session.openings[id]? = some opening ∧
        opening.caller = some signal ∧ opening.deadline.isSome ∧
          exchange.abortReason? session.world = none := by
  unfold listensOn
  cases session.traffic.exchange? id <;> cases session.openings[id]? <;> simp [and_assoc]

theorem ticks_iff {id : CallId} :
    session.ticks id ↔ ∃ exchange opening deadline,
      session.traffic.exchange? id = some exchange ∧ session.openings[id]? = some opening ∧
        opening.deadline = some deadline ∧ deadline.timer ∉ session.fired := by
  unfold ticks
  cases session.traffic.exchange? id <;> cases session.openings[id]? <;>
    simp [Option.any_eq_true]

theorem mem_callIds {id : CallId} {exchange : Exchange}
    (waiting : session.traffic.exchange? id = some exchange) : id ∈ session.callIds :=
  List.mem_range.mpr (Traffic.lt_length_of_exchange? waiting)

theorem Sound.merged_of_listensOn (sound : session.Sound) {signal : SignalId} {id : CallId}
    (listens : session.listensOn signal id) :
    ∃ exchange target timed, session.traffic.exchange? id = some exchange ∧
      exchange.signal = some target ∧ .detach target ∈ exchange.releases ∧
      session.world.signals.Linked signal timed target ∧
      session.world.signals.reason? target = none := by
  obtain ⟨exchange, opening, waiting, opened, caller, deadline, calm⟩ := listensOn_iff.mp listens
  have bounded := sound.bounded waiting opened
  obtain ⟨target, merged⟩ := bounded.merged_of_both (by simp [caller]) deadline
  obtain ⟨own, deadline, timed, rfl, -, signal_eq, -, -, -, linked⟩ := bounded.tied merged
  obtain rfl := Option.some.inj caller
  have releases : .detach target ∈ exchange.releases := by simp [Exchange.releases, merged]
  refine ⟨exchange, target, timed, waiting, signal_eq, releases, linked, ?_⟩
  simpa [Exchange.abortReason?, signal_eq] using calm

/-- The merged signal of a call, or some signal. -/
def targetOf (session : Session) (id : CallId) : SignalId :=
  ((session.traffic.exchange? id).bind Exchange.signal).getD 0

theorem heldOn_eq_countP (sound : session.Sound) (tidy : session.Tidy) {signal : SignalId}
    (own : signal ∈ session.made) :
    session.world.signals.heldOn signal = session.callIds.countP (session.listensOn signal) := by
  rw [Signals.heldOn_eq_length (tidy.plain signal own)]
  -- Relays and exchanges correspond: each exchange listens for its own merged signal.
  refine length_eq_countP session.targetOf (tidy.single signal) List.nodup_range ?_ ?_
  · intro id other mine theirs same
    obtain ⟨exchange, target, -, waiting, signal_eq, releases, -⟩ := sound.merged_of_listensOn mine
    obtain ⟨others, target', -, waiting', signal_eq', releases', -⟩ :=
      sound.merged_of_listensOn theirs
    obtain rfl : target = target' := by
      simpa [targetOf, waiting, waiting', signal_eq, signal_eq'] using same
    exact sound.apart waiting waiting' releases releases' (by simp)
  · intro target
    rw [Signals.mem_relaysOf]
    constructor
    · intro member
      obtain ⟨id, exchange, waiting, releases⟩ := tidy.owned member
      obtain ⟨opening, opened, bounded⟩ := sound.opening_of_exchange? waiting
      obtain ⟨caller, deadline, timed, rfl, -, signal_eq, -, -, ticking, linked⟩ :=
        bounded.tied (bounded.merged_of_detach releases)
      have calm : exchange.abortReason? session.world = none := by
        rw [Exchange.abortReason?, signal_eq, Option.bind_some, ← Signals.isAborted_eq_false_iff]
        exact Bool.eq_false_iff.mpr fun aborted => linked.done aborted signal member
      obtain rfl : signal = caller := by
        rcases linked.only member with same | timer
        · exact same
        · exact absurd (timer ▸ own) ticking.unmade
      refine ⟨id, mem_callIds waiting, ?_, by simp [targetOf, waiting, signal_eq]⟩
      exact listensOn_iff.mpr ⟨exchange, _, waiting, opened, rfl, rfl, calm⟩
    · rintro ⟨id, -, listens, same⟩
      obtain ⟨exchange, target', timed, waiting, signal_eq, -, linked, calm⟩ :=
        sound.merged_of_listensOn listens
      obtain rfl : target' = target := by simpa [targetOf, waiting, signal_eq] using same
      exact ((linked.waits calm).2 signal (.inl rfl)).2

/-- The timer of a call, or some timer. -/
def timerOf (session : Session) (id : CallId) : Nat := (session.timerOf? id).getD 0

theorem armed_eq_countP (sound : session.Sound) (tidy : session.Tidy) :
    session.world.timers.armed.length = session.callIds.countP session.ticks := by
  rw [← List.length_map (f := Timer.id)]
  refine length_eq_countP session.timerOf ?_ List.nodup_range ?_ ?_
  · exact List.pairwise_map.mpr sound.orderly.apart
  · intro id other mine theirs same
    obtain ⟨exchange, opening, deadline, waiting, opened, due, -⟩ := ticks_iff.mp mine
    obtain ⟨others, opening', deadline', waiting', opened', due', -⟩ := ticks_iff.mp theirs
    have timer : deadline.timer = deadline'.timer := by
      simpa [timerOf, timerOf?, opened, opened', due, due'] using same
    have releases := (sound.bounded waiting opened).disarm_of_deadline due
    have releases' := (sound.bounded waiting' opened').disarm_of_deadline due'
    exact sound.apart waiting waiting' releases (timer ▸ releases') (by simp)
  · intro timer
    rw [List.mem_map]
    constructor
    · rintro ⟨armed, member, rfl⟩
      obtain ⟨id, exchange, waiting, releases⟩ := tidy.armed armed member
      obtain ⟨opening, opened, bounded⟩ := sound.opening_of_exchange? waiting
      obtain ⟨deadline, timed, due, timer, ticking⟩ := bounded.ticking_of_disarm releases
      have unfired : deadline.timer ∉ session.fired :=
        fun past => (ticking.expired past).1 armed member timer.symm
      refine ⟨id, mem_callIds waiting, ?_, by simp [timerOf, timerOf?, opened, due, timer]⟩
      exact ticks_iff.mpr ⟨exchange, opening, deadline, waiting, opened, due, unfired⟩
    · rintro ⟨id, -, ticking, same⟩
      obtain ⟨exchange, opening, deadline, waiting, opened, due, unfired⟩ := ticks_iff.mp ticking
      have bounded := sound.bounded waiting opened
      obtain ⟨deadline', timed, due', -, ticks⟩ :=
        bounded.ticking_of_disarm (bounded.disarm_of_deadline due)
      obtain rfl := Option.some.inj (due.symm.trans due')
      refine ⟨_, (ticks.waits unfired).1, ?_⟩
      simpa [timerOf, timerOf?, opened, due] using same

/-- What the library holds at any point of a session, as long as no mutator throws what no condition
sees: on the signal of a caller one listener for each call that waits, was started with that signal
and a deadline, and whose merged signal has not aborted; and one timer for each call that waits and
whose deadline has not passed.  A call whose header fields are refused changes nothing.  When no
call waits, nothing is held, and a call that has ended stays as it is. -/
theorem held_by_waiting_calls {origin : Number} {events : List (Event κ)}
    (admitted : (start origin).AdmitsAll events) (truthful : ∀ event ∈ events, event.Truthful) :
    let session := (start origin).run events
    (∀ signal ∈ session.made,
      session.world.signals.heldOn signal = session.callIds.countP (session.listensOn signal)) ∧
    session.world.timers.armed.length = session.callIds.countP session.ticks ∧
    (∀ client purpose uri verb mutator body caller reason,
      (client.assemble session.world.instant? mutator).guarded = .error reason →
        (session.traffic.exchange client purpose uri verb mutator body caller).1.world =
          session.world) ∧
    ((∀ id, session.traffic.exchange? id = none) →
      (∀ signal ∈ session.made, session.world.signals.heldOn signal = 0) ∧
        session.world.timers.armed = []) ∧
    ∀ (later : List (Event κ)) id stage, session.traffic.stage? id = some stage → stage.isEnded →
      (session.run later).traffic.stage? id = some stage := by
  intro session
  have sound : session.Sound := (sound_start origin).run admitted
  have tidy : session.Tidy := tidy_run (tidy_start origin) (sound_start origin) admitted truthful
  have listeners : ∀ signal ∈ session.made, _ := fun signal own => heldOn_eq_countP sound tidy own
  refine ⟨listeners, armed_eq_countP sound tidy, ?_, ?_, ?_⟩
  · intro client purpose uri verb mutator body caller reason refused
    rw [Traffic.exchange_eq, refused]
    rfl
  · intro idle
    constructor
    · intro signal own
      rw [listeners signal own, List.countP_eq_zero]
      intro id _ listens
      obtain ⟨exchange, -, waiting, -⟩ := listensOn_iff.mp listens
      cases (idle id).symm.trans waiting
    · rw [← List.length_eq_zero_iff, armed_eq_countP sound tidy, List.countP_eq_zero]
      intro id _ ticking
      obtain ⟨exchange, -, -, waiting, -⟩ := ticks_iff.mp ticking
      cases (idle id).symm.trans waiting
  · intro later id stage found ended
    rw [toHistory_run]
    exact History.stage?_run_of_isEnded found ended later

/-- Two calls share a signal, and the timer of the first one fires. -/
theorem held_by_waiting_calls_shared :
    let exchange : Event Unit :=
      .exchange sampleClient "https://account1.example" "GET" .returned .null (some 0)
    let session := (start .zero).run [.signal, exchange, exchange, .elapse (Number.ofInt 1000)]
    session.world.signals.heldOn 0 = 1 ∧ session.world.timers.armed.length = 1 ∧
      session.callIds = [0, 1] := by
  intro exchange session
  have admitted : (start .zero).AdmitsAll [.signal, exchange, exchange,
      .elapse (Number.ofInt 1000)] := by
    have known : ∀ session : Session, session.made = [0] → session.Admits exchange := by
      intro session made
      simp [exchange, Admits, Event.named?, made]
    exact ⟨by simp [Admits, Event.named?], known _ (by decide +kernel),
      known _ (by decide +kernel), by simp [Admits, Event.named?],
      trivial⟩
  have truthful : ∀ event ∈ [.signal, exchange, exchange, .elapse (Number.ofInt 1000)],
      event.Truthful := by
    simp [exchange, Event.Truthful, Client.Mutator.Truthful]
  have held := held_by_waiting_calls admitted truthful
  have made : 0 ∈ session.made := by decide +kernel
  have listening : session.callIds.countP (session.listensOn 0) = 1 := by decide +kernel
  have ticking : session.callIds.countP session.ticks = 1 := by decide +kernel
  exact ⟨(held.1 0 made).trans listening, held.2.1.trans ticking, by decide +kernel⟩

/-- A mutator that throws what no condition sees leaves a listener and a timer behind: its call has
ended, and both are there. -/
theorem held_by_no_call :
    let meddling : Client.Mutator := fun _ => .threw .null
    let session := (start .zero).run ([.signal, .exchange sampleClient "https://account1.example"
      "GET" meddling .null (some 0)] : List (Event Unit))
    (session.traffic.stage? 0).map Stage.isEnded = some true ∧
      session.world.signals.heldOn 0 = 1 ∧ session.world.timers.armed.length = 1 :=
  ⟨by decide +kernel, by decide +kernel, by decide +kernel⟩

end Session

end BlobStorage
