import BlobStorage.Proofs.ExchangeResult

/-!
# Signals that nothing reaches any more

When a transport settles, the timer of its exchange is stopped and its merged signal is taken from
its two sources.  The signal that the transport was given is loose from then on: it has aborted
already, or it never will (`Session.loose_run`).
-/

namespace BlobStorage

/-- No caller holds a signal, no other signal relays to it, and no armed timer aborts it. -/
structure World.OutOfReach (world : World) (made : List SignalId) (signal : SignalId) : Prop where
  inside : signal < world.signals.length
  unmade : signal ∉ made
  unrelayed : ∀ source, .relay signal ∉ world.signals.listenersOf source
  untimed : ∀ timer ∈ world.timers.armed, ∀ text, timer.task ≠ .expire signal text

/-- A signal that has aborted, or that nothing reaches. -/
def World.Loose (world : World) (made : List SignalId) (signal : SignalId) : Prop :=
  (∃ reason, world.signals.reason? signal = some reason) ∨ world.OutOfReach made signal

namespace World.OutOfReach

variable {before after : World} {made : List SignalId} {signal : SignalId}

/-- Timers and relays that come later are for signals that come later. -/
theorem quiet {gone : Release → Prop} (free : before.OutOfReach made signal)
    (change : before.Quiet after gone) : after.OutOfReach made signal where
  inside := change.signals.lt_length free.inside
  unmade := free.unmade
  unrelayed source member :=
    free.unrelayed source (change.signals.relay_old free.inside member)
  untimed timer member text task :=
    free.untimed timer (change.armed_of_expire free.inside member task) text task

theorem aborts {signals : Signals} {first : SignalId} {reason : Value}
    (free : before.OutOfReach made signal) (abort : before.signals.Aborts first reason signals) :
    { before with signals }.OutOfReach made signal where
  inside := abort.length_eq ▸ free.inside
  unmade := free.unmade
  unrelayed source member := free.unrelayed source ((abort.sublist source).subset member)
  untimed := free.untimed

theorem fires {timer : Timer} (free : before.OutOfReach made signal)
    (fires : before.Fires after timer) : after.OutOfReach made signal := by
  obtain ⟨target, text, -, abort⟩ := fires.aborts
  exact {
    inside := abort.length_eq ▸ free.inside
    unmade := free.unmade
    unrelayed := fun source member =>
      free.unrelayed source ((abort.sublist source).subset member)
    untimed := fun other member => free.untimed other (fires.mem_armed.mp member).1 }

end World.OutOfReach

namespace Session

variable {κ : Type} {session : Session} {signal : SignalId}

theorem outOfReach_step (sound : session.Sound) {event : Event κ} (admitted : session.Admits event)
    (free : session.world.OutOfReach session.made signal) :
    (session.step event).world.OutOfReach (session.step event).made signal ∧
      (session.step event).world.signals.reason? signal = session.world.signals.reason? signal := by
  have unmade : signal ∉ (session.step event).made := by
    intro own
    rcases List.mem_append.mp own with earlier | now
    · exact free.unmade earlier
    · cases event with
      | signal =>
          obtain rfl := List.mem_singleton.mp now
          exact Nat.lt_irrefl _ free.inside
      | _ => cases now
  rcases (effect_step sound.orderly admitted).quiet_or_stops sound with ⟨gone, quiet⟩ |
    ⟨first, reason, signals, -, known, abort, world, -⟩ | ⟨timer, -, fires, -⟩
  · exact ⟨{ free.quiet quiet with unmade }, quiet.signals.reason?_eq free.inside⟩
  · have other : signal ≠ first := fun same => free.unmade (same ▸ known)
    rw [world]
    exact ⟨{ free.aborts abort with unmade }, abort.reason?_of_unrelayed other free.unrelayed⟩
  · obtain ⟨target, text, task, abort⟩ := fires.aborts
    have other : signal ≠ target :=
      fun same => free.untimed timer fires.armed text (same ▸ task)
    exact ⟨{ free.fires fires with unmade }, abort.reason?_of_unrelayed other free.unrelayed⟩

theorem loose_step (sound : session.Sound) {event : Event κ} (admitted : session.Admits event)
    (loose : session.world.Loose session.made signal) :
    (session.step event).world.Loose (session.step event).made signal ∧
      (session.step event).world.signals.reason? signal = session.world.signals.reason? signal := by
  rcases loose with ⟨reason, aborted⟩ | free
  · have stays := (effect_step sound.orderly admitted).reason?_eq sound aborted
    exact ⟨.inl ⟨reason, stays⟩, stays.trans aborted.symm⟩
  · obtain ⟨later, same⟩ := outOfReach_step sound admitted free
    exact ⟨.inr later, same⟩

/-- Whatever happens, a loose signal aborts no more. -/
theorem loose_run (sound : session.Sound) {events : List (Event κ)}
    (admitted : session.AdmitsAll events) (loose : session.world.Loose session.made signal) :
    (session.run events).world.signals.reason? signal = session.world.signals.reason? signal := by
  induction events generalizing session with
  | nil => rfl
  | cons event events induction =>
      obtain ⟨later, same⟩ := loose_step sound admitted.1 loose
      exact (induction (sound.step admitted.1) admitted.2 later).trans same

end Session

namespace Exchange.Bounded

variable {exchange : Exchange} {world : World} {made : List SignalId} {fired : List Nat}
  {opening : Opening}

theorem signal_of_never (bounded : exchange.Bounded world made fired opening)
    (never : opening.deadline = none) : exchange.signal = opening.caller := by
  obtain ⟨verb, uri, signal, timeout, merged⟩ := exchange
  obtain ⟨caller, deadline⟩ := opening
  obtain ⟨-, signal_eq, timed, follows⟩ := bounded
  simp only at never signal_eq timed follows ⊢
  subst never signal_eq
  cases timed with
  | never =>
      cases follows with
      | nobody => rfl
      | caller caller => rfl

theorem outOfReach_of_timer {deadline : Deadline} {timed : SignalId}
    (ticking : world.Ticking made fired deadline timed) :
    { world with timers := world.timers.disarm deadline.timer }.OutOfReach made timed where
  inside := ticking.inside
  unmade := ticking.unmade
  unrelayed := ticking.unrelayed
  untimed := by
    intro timer member text task
    obtain ⟨armed, other⟩ := List.mem_filter.mp member
    have same := ticking.only armed (.inr ⟨text, task⟩)
    rw [bne_iff_ne] at other
    exact other (by rw [same])

/-- A merged signal that has not aborted is taken from its two sources, and nothing else reaches
it. -/
theorem outOfReach_of_merged {caller timed target : SignalId}
    (linked : world.signals.Linked caller timed target) (unmade : target ∉ made)
    (orderly : world.Orderly made fired) (waiting : world.signals.reason? target = none)
    (timers : Timers) (fewer : ∀ timer ∈ timers.armed, timer ∈ world.timers.armed) :
    { world with timers, signals := world.signals.detach target }.OutOfReach made target where
  inside := by simpa using linked.inside
  unmade := unmade
  unrelayed := by
    intro source
    simp
  untimed := by
    intro timer member text task
    obtain ⟨-, -, free⟩ := orderly.of_expire (fewer timer member) task
    obtain ⟨-, sources⟩ := linked.waits waiting
    exact free caller (sources caller (.inl rfl)).2

theorem loose_release (bounded : exchange.Bounded world made fired opening)
    (orderly : world.Orderly made fired) {deadline : Deadline}
    (due : opening.deadline = some deadline) :
    ∃ signal, exchange.signal = some signal ∧ (exchange.release world).Loose made signal := by
  have kept := exchange.abortReason?_release world
  obtain ⟨verb, uri, signal, timeout, merged⟩ := exchange
  obtain ⟨caller, deadline'⟩ := opening
  obtain ⟨-, signal_eq, timed, follows⟩ := bounded
  simp only at due signal_eq timed follows
  subst due signal_eq
  cases timed with
  | armed ticking =>
      cases follows with
      | timer => exact ⟨_, rfl, .inr (outOfReach_of_timer ticking)⟩
      | @both caller timed target linked unmade =>
          refine ⟨target, rfl, ?_⟩
          cases aborted : world.signals.reason? target with
          | some reason => exact .inl ⟨reason, kept.trans aborted⟩
          | none =>
              right
              exact outOfReach_of_merged linked unmade orderly aborted _
                fun timer member => (List.mem_filter.mp member).1

end Exchange.Bounded

end BlobStorage
