import BlobStorage.Proofs.ExchangeStart
import BlobStorage.Proofs.GatheredSignal

/-!
# What bounds an exchange

As long as the transport of an exchange has not settled, its signal hangs on the signal of its
caller and on the signal of its timer (`Bounded`).  Nothing that happens to other calls changes
that: signals of callers, signals of timers and merged signals are kept apart, and so are the timers
(`World.Orderly`).
-/

namespace BlobStorage

namespace Signals

/-- A merged signal hangs on two others, and only on these: while it has not aborted, neither have
they, and it is told when one of them does; once it has aborted, it listens to nobody. -/
structure Linked (signals : Signals) (caller timed target : SignalId) : Prop where
  inside : target < signals.length
  only : ∀ {source}, .relay target ∈ signals.listenersOf source → source = caller ∨ source = timed
  waits : signals.reason? target = none → .release ∈ signals.listenersOf target ∧
    ∀ source, source = caller ∨ source = timed →
      signals.reason? source = none ∧ .relay target ∈ signals.listenersOf source
  done : signals.isAborted target → ∀ source, .relay target ∉ signals.listenersOf source

namespace Linked

variable {before after : Signals} {caller timed target : SignalId}

theorem iff_gathers :
    Linked before caller timed target ↔ Gathers before [caller, timed] target := by
  constructor
  · rintro ⟨inside, only, waits, done⟩
    exact ⟨inside, fun member => by simpa using only member, by simpa using waits, done⟩
  · rintro ⟨inside, only, waits, done⟩
    exact ⟨inside, fun member => by simpa using only member, by simpa using waits, done⟩

theorem quiet {gone : SignalId → Prop} (linked : Linked before caller timed target)
    (change : Quiet before after gone) (here : ¬ gone target)
    (known : caller < before.length) (made : timed < before.length) :
    Linked after caller timed target :=
  iff_gathers.mpr ((iff_gathers.mp linked).quiet change here (by simp [known, made]))

theorem spread {first : SignalId} {reason : Value}
    (linked : Linked before caller timed target)
    (change : Spread before after before.listenersOf first reason) :
    Linked after caller timed target :=
  iff_gathers.mpr ((iff_gathers.mp linked).spread change)

end Linked

/-- What the merged signal of an exchange is, beside the signals of its caller and of its timer. -/
inductive Follows (signals : Signals) (made : List SignalId) :
    Option SignalId → Option SignalId → Option Clearable → Prop where
  | nobody : Follows signals made none none none
  | caller (caller : SignalId) : Follows signals made (some caller) none (some ⟨caller, .nothing⟩)
  | timer (timed : SignalId) : Follows signals made none (some timed) (some ⟨timed, .nothing⟩)
  | both {caller timed target : SignalId} (linked : Linked signals caller timed target)
      (unmade : target ∉ made) :
      Follows signals made (some caller) (some timed) (some ⟨target, .detach target⟩)

theorem Follows.quiet {before after : Signals} {gone : SignalId → Prop}
    {made later : List SignalId} {caller timed : Option SignalId} {merged : Option Clearable}
    (follows : Follows before made caller timed merged) (change : Quiet before after gone)
    (here : ∀ {target}, merged = some ⟨target, .detach target⟩ → ¬ gone target)
    (known : ∀ signal ∈ caller, signal < before.length)
    (armed : ∀ signal ∈ timed, signal < before.length)
    (madeLater : ∀ signal ∈ later, signal ∈ made ∨ before.length ≤ signal) :
    Follows after later caller timed merged := by
  cases follows with
  | nobody => exact .nobody
  | caller caller => exact .caller caller
  | timer timed => exact .timer timed
  | both linked unmade =>
      refine .both (linked.quiet change (here rfl) (known _ rfl) (armed _ rfl)) ?_
      intro member
      rcases madeLater _ member with earlier | new
      · exact unmade earlier
      · exact absurd linked.inside (Nat.not_lt_of_le new)

theorem Follows.aborts {before after : Signals} {first : SignalId} {reason : Value}
    {made : List SignalId} {caller timed : Option SignalId} {merged : Option Clearable}
    (follows : Follows before made caller timed merged)
    (abort : Aborts before first reason after) :
    Follows after made caller timed merged := by
  cases abort with
  | already => exact follows
  | spread spread =>
      cases follows with
      | nobody => exact .nobody
      | caller caller => exact .caller caller
      | timer timed => exact .timer timed
      | both linked unmade => exact .both (linked.spread spread) unmade

end Signals

/-- A timer with a deadline aborts a signal that nobody else aborts: it is armed as long as it has
not fired, and the signal has aborted if and only if it has. -/
structure World.Ticking (world : World) (made : List SignalId) (fired : List Nat)
    (deadline : Deadline) (timed : SignalId) : Prop where
  inside : timed < world.signals.length
  unmade : timed ∉ made
  unrelayed : ∀ source, .relay timed ∉ world.signals.listenersOf source
  allotted : deadline.timer < world.timers.next
  only : ∀ {other}, other ∈ world.timers.armed →
    (other.id = deadline.timer ∨ ∃ text, other.task = .expire timed text) →
      other = ⟨deadline.timer, deadline.due, .expire timed deadline.milliseconds⟩
  waits : deadline.timer ∉ fired →
    ⟨deadline.timer, deadline.due, .expire timed deadline.milliseconds⟩ ∈ world.timers.armed ∧
      world.signals.reason? timed = none
  expired : deadline.timer ∈ fired → (∀ other ∈ world.timers.armed, other.id ≠ deadline.timer) ∧
    world.signals.reason? timed = some (.failure (Failure.timeout deadline.milliseconds))

/-- The timer of an exchange, if it has a deadline. -/
inductive World.Timed (world : World) (made : List SignalId) (fired : List Nat) :
    Option Deadline → Option Clearable → Prop where
  | never : Timed world made fired none none
  | armed {deadline : Deadline} {timed : SignalId}
      (ticking : world.Ticking made fired deadline timed) :
      Timed world made fired (some deadline) (some ⟨timed, .disarm deadline.timer⟩)

/-- What bounds an exchange that waits for its transport. -/
structure Exchange.Bounded (exchange : Exchange) (world : World) (made : List SignalId)
    (fired : List Nat) (opening : Opening) : Prop where
  caller_made : ∀ signal ∈ opening.caller, signal ∈ made
  signal_eq : exchange.signal = exchange.merged.map Clearable.signal
  timed : world.Timed made fired opening.deadline exchange.timeout
  follows : world.signals.Follows made opening.caller (exchange.timeout.map Clearable.signal)
    exchange.merged

/-- Signals of callers, signals of timers and merged signals are kept apart, and no two timers are
the same. -/
structure World.Orderly (world : World) (made : List SignalId) (fired : List Nat) : Prop where
  ascending : world.signals.Ascending
  unmade : ∀ signal ∈ made, ∀ source, .relay signal ∉ world.signals.listenersOf source
  inside : ∀ signal ∈ made, signal < world.signals.length
  allotted : ∀ timer ∈ world.timers.armed, timer.id < world.timers.next
  apart : world.timers.armed.Pairwise (·.id ≠ ·.id)
  expiring : ∀ timer ∈ world.timers.armed, ∃ timed text, timer.task = .expire timed text ∧
    timed < world.signals.length ∧ timed ∉ made ∧
      ∀ source, .relay timed ∉ world.signals.listenersOf source
  past : ∀ timer ∈ fired, timer < world.timers.next

theorem World.Orderly.of_expire {world : World} {made : List SignalId} {fired : List Nat}
    (orderly : world.Orderly made fired) {timer : Timer} (member : timer ∈ world.timers.armed)
    {signal : SignalId} {text : Text} (task : timer.task = .expire signal text) :
    signal < world.signals.length ∧ signal ∉ made ∧
      ∀ source, .relay signal ∉ world.signals.listenersOf source := by
  obtain ⟨timed, text', task', known⟩ := orderly.expiring timer member
  obtain ⟨rfl, -⟩ := Task.expire.inj (task.symm.trans task')
  exact known

section Quiet

variable {before after : World} {gone : Release → Prop} {made later : List SignalId}
  {fired : List Nat}

theorem World.Ticking.quiet {deadline : Deadline} {timed : SignalId}
    (ticking : before.Ticking made fired deadline timed) (change : before.Quiet after gone)
    (here : ¬ gone (.disarm deadline.timer))
    (madeLater : ∀ signal ∈ later, signal ∈ made ∨ before.signals.length ≤ signal) :
    after.Ticking later fired deadline timed where
  inside := change.signals.lt_length ticking.inside
  unmade := by
    intro member
    rcases madeLater timed member with earlier | new
    · exact ticking.unmade earlier
    · exact absurd ticking.inside (Nat.not_lt_of_le new)
  unrelayed source member :=
    ticking.unrelayed source (change.signals.relay_old ticking.inside member)
  allotted := Nat.lt_of_lt_of_le ticking.allotted change.next_le
  only := by
    intro other member own
    rcases change.armed member with old | ⟨new, -, target, text, task, room, -⟩
    · exact ticking.only old own
    · rcases own with same | ⟨text', task'⟩
      · exact absurd ticking.allotted (Nat.not_lt_of_le (same ▸ new))
      · rw [task, Task.expire.injEq] at task'
        exact absurd (task'.1 ▸ ticking.inside) (Nat.not_lt_of_le room)
  waits := by
    intro waiting
    obtain ⟨armed, unaborted⟩ := ticking.waits waiting
    exact ⟨change.stays armed here, by rw [change.signals.reason?_eq ticking.inside, unaborted]⟩
  expired := by
    intro past
    obtain ⟨stopped, aborted⟩ := ticking.expired past
    refine ⟨?_, by rw [change.signals.reason?_eq ticking.inside, aborted]⟩
    intro other member
    rcases change.armed member with old | ⟨new, -⟩
    · exact stopped other old
    · exact Nat.ne_of_gt (Nat.lt_of_lt_of_le ticking.allotted new)

theorem World.Timed.inside {deadline : Option Deadline} {timeout : Option Clearable}
    (timed : before.Timed made fired deadline timeout) :
    ∀ signal ∈ timeout.map Clearable.signal, signal < before.signals.length := by
  cases timed with
  | never => simp
  | armed ticking => simpa using ticking.inside

theorem World.Timed.quiet {deadline : Option Deadline} {timeout : Option Clearable}
    (timed : before.Timed made fired deadline timeout) (change : before.Quiet after gone)
    (here : ∀ {timed timer}, timeout = some ⟨timed, .disarm timer⟩ → ¬ gone (.disarm timer))
    (madeLater : ∀ signal ∈ later, signal ∈ made ∨ before.signals.length ≤ signal) :
    after.Timed later fired deadline timeout := by
  cases timed with
  | never => exact .never
  | armed ticking => exact .armed (ticking.quiet change (here rfl) madeLater)

theorem Exchange.Bounded.quiet {exchange : Exchange} {opening : Opening}
    (bounded : exchange.Bounded before made fired opening)
    (orderly : before.Orderly made fired) (change : before.Quiet after gone)
    (here : ∀ release ∈ exchange.releases, release ≠ .nothing → ¬ gone release)
    (kept : ∀ signal ∈ made, signal ∈ later)
    (madeLater : ∀ signal ∈ later, signal ∈ made ∨ before.signals.length ≤ signal) :
    exchange.Bounded after later fired opening where
  caller_made signal own := kept signal (bounded.caller_made signal own)
  signal_eq := bounded.signal_eq
  timed := by
    refine bounded.timed.quiet change ?_ madeLater
    intro timed timer own
    exact here _ (by simp [releases, own]) (by simp)
  follows := by
    refine bounded.follows.quiet change.signals ?_ ?_ bounded.timed.inside madeLater
    · intro target own
      exact here _ (by simp [releases, own]) (by simp)
    · intro signal own
      exact orderly.inside signal (bounded.caller_made signal own)

theorem World.Orderly.quiet (orderly : before.Orderly made fired)
    (change : before.Quiet after gone) : after.Orderly made fired where
  ascending := by
    intro source target member
    rcases change.signals.relays member with old | ⟨-, inside, above⟩
    · obtain ⟨above, inside⟩ := orderly.ascending old
      exact ⟨above, change.signals.lt_length inside⟩
    · exact ⟨above, inside⟩
  unmade := by
    intro signal own source member
    exact orderly.unmade signal own source
      (change.signals.relay_old (orderly.inside signal own) member)
  inside signal own := change.signals.lt_length (orderly.inside signal own)
  allotted := change.allotted orderly.allotted
  apart := change.apart orderly.allotted orderly.apart
  expiring := by
    intro timer member
    rcases change.armed member with old | ⟨-, -, timed, text, task, new, inside, free⟩
    · obtain ⟨timed, text, task, inside, unmade, free⟩ := orderly.expiring timer old
      refine ⟨timed, text, task, change.signals.lt_length inside, unmade, ?_⟩
      intro source relayed
      exact free source (change.signals.relay_old inside relayed)
    · refine ⟨timed, text, task, inside, ?_, ?_⟩
      · intro own
        exact absurd (orderly.inside timed own) (Nat.not_lt_of_le new)
      · intro source relayed
        exact absurd (orderly.ascending (free source relayed)).2 (Nat.not_lt_of_le new)
  past timer member := Nat.lt_of_lt_of_le (orderly.past timer member) change.next_le

end Quiet

theorem World.Orderly.addSignal {world : World} {made : List SignalId} {fired : List Nat}
    (orderly : world.Orderly made fired) :
    world.addSignal.Orderly (made ++ [world.signals.length]) fired := by
  have change : world.Quiet world.addSignal fun _ => False :=
    .ofSignals rfl (.append world.signals _ (by simp))
  have room : world.signals.length < world.addSignal.signals.length := by
    simp [World.addSignal, Signals.create]
  have quiet := orderly.quiet change
  -- Nothing relays to the new signal, and no timer aborts it.
  have unrelayed : ∀ source,
      .relay world.signals.length ∉ world.addSignal.signals.listenersOf source := by
    intro source member
    simp only [World.addSignal, Signals.create, Signals.listenersOf_append_singleton] at member
    split at member
    · cases member
    · exact absurd (orderly.ascending member).2 (Nat.lt_irrefl _)
  exact {
    quiet with
    unmade := by
      intro signal own
      rcases List.mem_append.mp own with earlier | new
      · exact quiet.unmade signal earlier
      · exact List.mem_singleton.mp new ▸ unrelayed
    inside := by
      intro signal own
      rcases List.mem_append.mp own with earlier | new
      · exact quiet.inside signal earlier
      · exact List.mem_singleton.mp new ▸ room
    expiring := by
      intro timer member
      obtain ⟨timed, text, task, inside, unmade, free⟩ := orderly.expiring timer member
      obtain ⟨inside', -, free'⟩ := quiet.of_expire member task
      refine ⟨timed, text, task, inside', ?_, free'⟩
      intro own
      rcases List.mem_append.mp own with earlier | new
      · exact unmade earlier
      · exact absurd inside (List.mem_singleton.mp new ▸ Nat.lt_irrefl _) }

section Abort

variable {world : World} {made : List SignalId} {fired : List Nat} {after : Signals}
  {first : SignalId} {reason : Value}

theorem World.Orderly.aborts (orderly : world.Orderly made fired)
    (abort : world.signals.Aborts first reason after) :
    { world with signals := after }.Orderly made fired where
  ascending := by
    intro source target member
    obtain ⟨above, inside⟩ := orderly.ascending ((abort.sublist source).subset member)
    exact ⟨above, abort.length_eq ▸ inside⟩
  unmade signal own source member :=
    orderly.unmade signal own source ((abort.sublist source).subset member)
  inside signal own := abort.length_eq ▸ orderly.inside signal own
  allotted := orderly.allotted
  apart := orderly.apart
  expiring := by
    intro timer member
    obtain ⟨timed, text, task, inside, unmade, free⟩ := orderly.expiring timer member
    exact ⟨timed, text, task, abort.length_eq ▸ inside, unmade,
      fun source relayed => free source ((abort.sublist source).subset relayed)⟩
  past := orderly.past

theorem World.Ticking.aborts {deadline : Deadline} {timed : SignalId}
    (ticking : world.Ticking made fired deadline timed)
    (abort : world.signals.Aborts first reason after) (other : timed ≠ first) :
    { world with signals := after }.Ticking made fired deadline timed := by
  have same := abort.reason?_of_unrelayed other ticking.unrelayed
  exact {
    inside := abort.length_eq ▸ ticking.inside
    unmade := ticking.unmade
    unrelayed := fun source relayed =>
      ticking.unrelayed source ((abort.sublist source).subset relayed)
    allotted := ticking.allotted
    only := ticking.only
    waits := fun waiting => ⟨(ticking.waits waiting).1, same.trans (ticking.waits waiting).2⟩
    expired := fun past => ⟨(ticking.expired past).1, same.trans (ticking.expired past).2⟩ }

theorem World.Timed.aborts {deadline : Option Deadline} {timeout : Option Clearable}
    (timed : world.Timed made fired deadline timeout)
    (abort : world.signals.Aborts first reason after) (own : first ∈ made) :
    { world with signals := after }.Timed made fired deadline timeout := by
  cases timed with
  | never => exact .never
  | armed ticking => exact .armed (ticking.aborts abort fun same => ticking.unmade (same ▸ own))

theorem Exchange.Bounded.aborts {exchange : Exchange} {opening : Opening}
    (bounded : exchange.Bounded world made fired opening)
    (abort : world.signals.Aborts first reason after) (own : first ∈ made) :
    exchange.Bounded { world with signals := after } made fired opening where
  caller_made := bounded.caller_made
  signal_eq := bounded.signal_eq
  timed := bounded.timed.aborts abort own
  follows := bounded.follows.aborts abort

end Abort

/-- A timer fires: it is armed no longer, and its signal aborts. -/
structure World.Fires (before after : World) (timer : Timer) : Prop where
  armed : timer ∈ before.timers.armed
  aborts : ∃ timed text, timer.task = .expire timed text ∧
    before.signals.Aborts timed (.failure (Failure.timeout text)) after.signals
  timers : after.timers = before.timers.disarm timer.id

section Fires

variable {before after : World} {made : List SignalId} {fired : List Nat} {timer : Timer}

theorem World.Fires.mem_armed (fires : before.Fires after timer) {other : Timer} :
    other ∈ after.timers.armed ↔ other ∈ before.timers.armed ∧ other.id ≠ timer.id := by
  rw [fires.timers, Timers.disarm, List.mem_filter, bne_iff_ne]

theorem World.Orderly.fires (orderly : before.Orderly made fired)
    (fires : before.Fires after timer) : after.Orderly made (fired ++ [timer.id]) := by
  obtain ⟨timed, text, task, abort⟩ := fires.aborts
  have quiet := orderly.aborts abort
  have next : after.timers.next = before.timers.next := by
    rw [fires.timers]
    rfl
  exact {
    ascending := quiet.ascending
    unmade := quiet.unmade
    inside := quiet.inside
    allotted := by
      intro other member
      rw [next]
      exact orderly.allotted other (fires.mem_armed.mp member).1
    apart := by
      rw [fires.timers]
      exact orderly.apart.filter _
    expiring := fun other member => quiet.expiring other (fires.mem_armed.mp member).1
    past := by
      intro other member
      rw [next]
      rcases List.mem_append.mp member with earlier | now
      · exact orderly.past other earlier
      · exact List.mem_singleton.mp now ▸ orderly.allotted timer fires.armed }

theorem World.Ticking.fires {deadline : Deadline} {timed : SignalId}
    (ticking : before.Ticking made fired deadline timed) (fires : before.Fires after timer) :
    after.Ticking made (fired ++ [timer.id]) deadline timed := by
  obtain ⟨target, text, task, abort⟩ := fires.aborts
  have unrelayed : ∀ source, .relay timed ∉ after.signals.listenersOf source :=
    fun source relayed => ticking.unrelayed source ((abort.sublist source).subset relayed)
  have next : after.timers.next = before.timers.next := by
    rw [fires.timers]
    rfl
  exact {
    inside := abort.length_eq ▸ ticking.inside
    unmade := ticking.unmade
    unrelayed := unrelayed
    allotted := next ▸ ticking.allotted
    only := fun member => ticking.only (fires.mem_armed.mp member).1
    waits := by
      intro waiting
      have other : deadline.timer ≠ timer.id := by simp_all
      obtain ⟨armed, unaborted⟩ := ticking.waits (by simp_all)
      refine ⟨fires.mem_armed.mpr ⟨armed, other⟩, ?_⟩
      rw [abort.reason?_of_unrelayed ?_ ticking.unrelayed, unaborted]
      rintro rfl
      have same := ticking.only fires.armed (.inr ⟨text, task⟩)
      exact other (by rw [same])
    expired := by
      intro past
      by_cases now : deadline.timer = timer.id
      · have same := ticking.only fires.armed (.inl now.symm)
        subst same
        obtain ⟨rfl, rfl⟩ := Task.expire.inj task
        refine ⟨fun other member => (fires.mem_armed.mp member).2, ?_⟩
        have unfired : deadline.timer ∉ fired :=
          fun earlier => (ticking.expired earlier).1 _ fires.armed rfl
        rw [abort.marks, (ticking.waits unfired).2]
        rfl
      · have earlier : deadline.timer ∈ fired := by simpa [now] using past
        obtain ⟨stopped, aborted⟩ := ticking.expired earlier
        exact ⟨fun other member => stopped other (fires.mem_armed.mp member).1, abort.keeps aborted⟩ }

theorem World.Timed.fires {deadline : Option Deadline} {timeout : Option Clearable}
    (timed : before.Timed made fired deadline timeout) (fires : before.Fires after timer) :
    after.Timed made (fired ++ [timer.id]) deadline timeout := by
  cases timed with
  | never => exact .never
  | armed ticking => exact .armed (ticking.fires fires)

theorem Exchange.Bounded.fires {exchange : Exchange} {opening : Opening}
    (bounded : exchange.Bounded before made fired opening) (fires : before.Fires after timer) :
    exchange.Bounded after made (fired ++ [timer.id]) opening where
  caller_made := bounded.caller_made
  signal_eq := bounded.signal_eq
  timed := bounded.timed.fires fires
  follows := by
    obtain ⟨target, text, task, abort⟩ := fires.aborts
    exact bounded.follows.aborts abort

end Fires

section Start

variable {world : World} {made : List SignalId} {fired : List Nat}

theorem World.Orderly.ticking_tether (orderly : world.Orderly made fired) {deadline : Deadline}
    (next : deadline.timer = world.timers.next) {caller : Option SignalId}
    (known : ∀ signal ∈ caller, signal ∈ made) :
    (world.tether deadline caller).Ticking made fired deadline world.signals.length where
  inside := Signals.length_lt_length_tie ..
  unmade own := absurd (orderly.inside _ own) (Nat.lt_irrefl _)
  unrelayed := by
    intro source member
    have inside : ∀ signal ∈ caller, signal < world.signals.length :=
      fun signal own => orderly.inside signal (known signal own)
    rcases Signals.relay_tie inside member with old | ⟨merged, -⟩
    · exact absurd (orderly.ascending old).2 (Nat.lt_irrefl _)
    · exact absurd merged (Nat.ne_of_lt (Nat.lt_succ_self _))
  allotted := next ▸ Nat.lt_succ_self _
  only := by
    intro other member own
    rcases List.mem_append.mp member with old | new
    · rcases own with same | ⟨text, task⟩
      · exact absurd same (next ▸ Nat.ne_of_lt (orderly.allotted other old))
      · exact absurd (orderly.of_expire old task).1 (Nat.lt_irrefl _)
    · rw [List.mem_singleton.mp new, next]
  waits _ := by
    rw [next]
    exact ⟨List.mem_append_right _ (List.mem_singleton_self _), Signals.reason?_tie_timed ..⟩
  expired past := absurd (orderly.past _ past) (next ▸ Nat.lt_irrefl _)

theorem World.Orderly.linked_tether (orderly : world.Orderly made fired) (deadline : Deadline)
    {caller : SignalId} (known : caller ∈ made) :
    (world.tether deadline (some caller)).signals.Linked caller world.signals.length
      (world.signals.length + 1) := by
  have room := orderly.inside caller known
  have inside : ∀ signal ∈ some caller, signal < world.signals.length := by
    rintro signal ⟨⟩
    exact room
  have old : ∀ {source}, .relay (world.signals.length + 1) ∉ world.signals.listenersOf source :=
    fun member => absurd (orderly.ascending member).2 (Nat.not_lt_of_le (Nat.le_succ _))
  have marked := Signals.reason?_tie_merged world.signals caller
  exact {
    inside := by
      simp [World.tether, Signals.length_tie]
    only := by
      intro source member
      rcases Signals.relay_tie inside member with earlier | ⟨-, own, ⟨⟩, sources⟩
      · exact absurd earlier old
      · exact sources
    waits := by
      intro waiting
      have unaborted : world.signals.reason? caller = none := by
        simpa [World.tether, marked] using waiting
      have listeners := Signals.listenersOf_tie_waiting room unaborted
      refine ⟨by simp [World.tether, listeners], ?_⟩
      rintro source (rfl | rfl)
      · have quiet := Signals.quiet_tie world.signals inside fun _ => False
        refine ⟨(quiet.reason?_eq room).trans unaborted, ?_⟩
        have notMerged : source ≠ world.signals.length + 1 := Nat.ne_of_lt (Nat.lt_succ_of_lt room)
        have notTimed : source ≠ world.signals.length := Nat.ne_of_lt room
        simp [World.tether, listeners, notMerged, notTimed]
      · have timed := Signals.reason?_tie_timed world.signals (some caller)
        exact ⟨timed, by simp [World.tether, listeners]⟩
    done := by
      intro aborted source member
      obtain ⟨reason, aborted⟩ : ∃ reason, world.signals.reason? caller = some reason := by
        simpa [World.tether, Signals.isAborted, marked, Option.isSome_iff_exists] using aborted
      simp only [World.tether, Signals.tie, aborted, Signals.listenersOf_append_singleton] at member
      split at member
      · cases member
      · split at member
        · cases member
        · exact old member }

theorem World.timer_of_deadline? {timeout : Value} {deadline : Deadline}
    (due : world.deadline? timeout = some deadline) : deadline.timer = world.timers.next := by
  unfold World.deadline? at due
  split at due
  · obtain ⟨delay, -, rfl⟩ := Option.map_eq_some_iff.mp due
    rfl
  · cases due

theorem World.Orderly.bounded_arm (orderly : world.Orderly made fired) {timeout : Value}
    {caller : Option SignalId} (known : ∀ signal ∈ caller, signal ∈ made) {next : World}
    {timer merged : Option Clearable}
    (armed : world.arm? timeout caller = some (next, timer, merged)) (verb uri : Text) :
    Exchange.Bounded ⟨verb, uri, merged.map Clearable.signal, timer, merged⟩ next made fired
      ⟨caller, world.deadline? timeout⟩ := by
  cases truthy : timeout.isTruthy with
  | false =>
      rw [World.arm?_of_falsy truthy] at armed
      obtain ⟨rfl, rfl, rfl⟩ := armed
      have never : world.deadline? timeout = none := by simp [World.deadline?, truthy]
      refine ⟨known, rfl, ?_, ?_⟩
      · rw [never]
        exact .never
      · cases caller with
        | none => exact .nobody
        | some caller => exact .caller caller
  | true =>
      rw [World.arm?_of_truthy truthy world
        fun signal own => orderly.inside signal (known signal own)] at armed
      obtain ⟨deadline, due, result⟩ := Option.map_eq_some_iff.mp armed
      obtain ⟨rfl, rfl, rfl⟩ := result
      refine ⟨known, rfl, ?_, ?_⟩
      · have newest := World.timer_of_deadline? due
        rw [due, ← newest]
        exact .armed (orderly.ticking_tether newest known)
      · cases caller with
        | none => exact .timer _
        | some caller =>
            have caller_made := known caller rfl
            refine .both (orderly.linked_tether deadline caller_made) ?_
            intro own
            exact absurd (orderly.inside _ own) (Nat.not_lt_of_le (Nat.le_succ _))

/-- The start of an exchange aborts nothing and stops no timer. -/
theorem World.quiet_arm {timeout : Value} {caller : Option SignalId}
    (inside : ∀ signal ∈ caller, signal < world.signals.length) {next : World}
    {timer merged : Option Clearable}
    (armed : world.arm? timeout caller = some (next, timer, merged)) (gone : Release → Prop) :
    world.Quiet next gone := by
  cases truthy : timeout.isTruthy with
  | false =>
      rw [World.arm?_of_falsy truthy] at armed
      obtain ⟨rfl, rfl, rfl⟩ := armed
      exact .refl ..
  | true =>
      rw [World.arm?_of_truthy truthy world inside] at armed
      obtain ⟨deadline, -, result⟩ := Option.map_eq_some_iff.mp armed
      obtain ⟨rfl, rfl, rfl⟩ := result
      exact .tether world deadline inside gone

end Start

end BlobStorage
