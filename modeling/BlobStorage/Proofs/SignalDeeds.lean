import BlobStorage.Proofs.LooseSignal
import BlobStorage.Proofs.MergedSignal

/-!
# Derived signals over time

Those who hold signals make and derive them, listen to them, abort and clear them, and time passes
(`Deed`).  `effect_step` opens the deeds once: a deed aborts nothing and takes away no more than it
says, or a signal aborts, or a timer fires.  What holds of a world in which such deeds have happened
is proved along these three cases.
-/

namespace BlobStorage

/-- What happens to the signals of a world: a new one is made, or one that is derived from a timeout
or from others; a transport listens; a derived one is cleared; one aborts; time passes, or a timer
fires however early or late the platform is with it. -/
inductive Deed where
  | signal
  | timeout (milliseconds : Value)
  | merge (sources : List (Option SignalId))
  | listen (signal : SignalId) (call : CallId)
  | clear (release : Release)
  | abort (signal : SignalId) (reason : Value)
  | elapse (limit : Number)
  | strike (timer : Nat)

/-- The signals that a deed names. -/
def Deed.named : Deed → List SignalId
  | .merge sources => sources.filterMap id
  | .abort first _ => [first]
  | _ => []

namespace World

/-- An armed timer fires. -/
def strike (world : World) (id : Nat) : World :=
  let stopped := { world with timers := world.timers.disarm id }
  match world.timers.armed.find? (·.id == id) with
  | some ⟨_, _, .expire signal milliseconds⟩ => (stopped.expire signal milliseconds).1
  | some ⟨_, _, .reply _⟩ => stopped
  | none => world

def step (world : World) : Deed → World
  | .signal => world.addSignal
  | .timeout milliseconds => ((world.timeoutSignal? milliseconds).map Prod.fst).getD world
  | .merge sources => (world.merge sources).1
  | .listen signal call => world.listen (some signal) call
  | .clear release => world.release release
  | .abort signal reason => (world.abort signal reason).1
  | .elapse limit => world.elapse limit
  | .strike timer => world.strike timer

def run (world : World) (deeds : List Deed) : World := deeds.foldl step world

/-- A deed names only signals that exist. -/
def Admits (world : World) (deed : Deed) : Prop :=
  ∀ signal ∈ deed.named, signal < world.signals.length

def AdmitsAll (world : World) : List Deed → Prop
  | [] => True
  | deed :: deeds => world.Admits deed ∧ (world.step deed).AdmitsAll deeds

/-- A world in which nothing but such deeds has happened. -/
def Reachable (world : World) : Prop :=
  ∃ origin deeds, (start origin).AdmitsAll deeds ∧ (start origin).run deeds = world

instance (world : World) (deed : Deed) : Decidable (world.Admits deed) :=
  inferInstanceAs (Decidable (∀ signal ∈ deed.named, signal < world.signals.length))

instance decidableAdmitsAll : (world : World) → (deeds : List Deed) →
    Decidable (world.AdmitsAll deeds)
  | _, [] => inferInstanceAs (Decidable True)
  | world, deed :: deeds =>
      have := decidableAdmitsAll (world.step deed) deeds
      inferInstanceAs (Decidable (world.Admits deed ∧ (world.step deed).AdmitsAll deeds))

section Run

variable {world : World} {deed : Deed} {deeds later : List Deed}

@[simp] theorem run_nil : world.run [] = world := rfl

@[simp] theorem run_cons : world.run (deed :: deeds) = (world.step deed).run deeds := rfl

theorem run_append : world.run (deeds ++ later) = (world.run deeds).run later :=
  List.foldl_append ..

theorem admitsAll_append :
    world.AdmitsAll (deeds ++ later) ↔
      world.AdmitsAll deeds ∧ (world.run deeds).AdmitsAll later := by
  induction deeds generalizing world with
  | nil => simp [AdmitsAll]
  | cons deed deeds induction => simp [AdmitsAll, induction, and_assoc]

end Run

theorem timeoutSignal?_eq (world : World) (milliseconds : Value) :
    world.timeoutSignal? milliseconds =
      if milliseconds.isTruthy then
        (world.deadline? milliseconds).map fun deadline =>
          (world.tether deadline none, some ⟨world.signals.length, .disarm world.timers.next⟩)
      else some (world, none) := by
  unfold timeoutSignal? deadline?
  cases milliseconds.isTruthy with
  | false => rfl
  | true => cases milliseconds.toNumber? <;> rfl

theorem merge_of_many {world : World} {sources : List (Option SignalId)}
    (many : 2 ≤ (sources.filterMap id).length)
    (known : ∀ source ∈ sources.filterMap id, source < world.signals.length) :
    world.merge sources =
      ({ world with signals := world.signals.gather (sources.filterMap id) },
        some ⟨world.signals.length, .detach world.signals.length⟩) := by
  unfold merge
  rw [Signals.merge_of_many many known]

/-- What a deed does: it aborts nothing and fires nothing, and stops only what it clears; or it
aborts a signal; or a timer fires. -/
inductive Effect (before : World) (deed : Deed) (after : World) : Prop where
  | quiet {gone : Release → Prop} (change : before.Quiet after gone)
      (own : ∀ {release}, gone release → deed = .clear release)
  | aborts {first : SignalId} {reason : Value} {signals : Signals}
      (cause : deed = .abort first reason)
      (abort : before.signals.Aborts first reason signals)
      (world : after = { before with signals })
  | fires {timer : Timer} (fires : before.Fires after timer)

theorem Effect.calm {before after : World} {deed : Deed}
    (change : before.Quiet after fun _ => False) : before.Effect deed after :=
  .quiet change fun nothing => nothing.elim

theorem quiet_merge {world : World} {sources : List (Option SignalId)}
    (known : ∀ source ∈ sources.filterMap id, source < world.signals.length)
    (gone : Release → Prop) : world.Quiet (world.merge sources).1 gone := by
  rcases few : sources.filterMap id with _ | ⟨only, _ | ⟨second, rest⟩⟩
  · simp only [merge, Signals.merge, few]
    exact .refl ..
  · simp only [merge, Signals.merge, few]
    exact .refl ..
  · have many : 2 ≤ (sources.filterMap id).length := by
      rw [few]
      exact Nat.le_add_left 2 rest.length
    rw [merge_of_many many known]
    exact .ofSignals rfl (Signals.quiet_gather known _)

theorem fires_or_eq_of_strike {world : World} (orderly : world.Orderly [] []) (id : Nat) :
    world.strike id = world ∨ ∃ timer, world.Fires (world.strike id) timer := by
  unfold strike
  cases found : world.timers.armed.find? (·.id == id) with
  | none => exact .inl rfl
  | some timer =>
      obtain ⟨timed, text, task, inside, -⟩ :=
        orderly.expiring timer (List.mem_of_find?_eq_some found)
      have own : timer.id = id := by simpa using List.find?_some found
      obtain ⟨name, due, _⟩ := timer
      subst task own
      refine .inr ⟨_, List.mem_of_find?_eq_some found, ⟨timed, text, rfl, ?_⟩, rfl⟩
      exact Signals.abort_aborts _ orderly.ascending inside

theorem effect_step {world : World} {deed : Deed} (orderly : world.Orderly [] [])
    (admitted : world.Admits deed) : world.Effect deed (world.step deed) := by
  cases deed with
  | signal => exact .calm (Still.addSignal world).quiet
  | timeout milliseconds =>
      simp only [step, timeoutSignal?_eq]
      split
      · cases world.deadline? milliseconds with
        | none => exact .calm (.refl ..)
        | some deadline => exact .calm (.tether world deadline (by simp) _)
      · exact .calm (.refl ..)
  | merge sources => exact .calm (quiet_merge admitted _)
  | listen signal call => exact .calm (Still.listen world (some signal) call).quiet
  | clear release => exact .quiet (.release world release) fun own => congrArg Deed.clear own.symm
  | abort signal reason =>
      refine .aborts rfl (Signals.abort_aborts reason orderly.ascending ?_) rfl
      exact admitted signal (List.mem_singleton_self signal)
  | elapse limit =>
      rcases elapse_cases orderly limit with ⟨-, signals, timers⟩ | ⟨timer, -, fires⟩
      · exact .calm (Still.ofSignals signals timers).quiet
      · exact .fires fires
  | strike timer =>
      rcases fires_or_eq_of_strike orderly timer with same | ⟨timer, fires⟩
      · rw [step, same]
        exact .calm (.refl ..)
      · exact .fires fires

namespace Orderly

/-- What is known of the timers that have fired may be forgotten. -/
theorem forget {world : World} {fired : List Nat} (orderly : world.Orderly [] fired) :
    world.Orderly [] [] :=
  { orderly with past := by simp }

theorem start (origin : Number) : (World.start origin).Orderly [] [] where
  ascending source target member := by
    simp [World.start, Signals.listenersOf] at member
  unmade := by simp
  inside := by simp
  allotted := by simp [World.start, Timers.none]
  apart := by simp [World.start, Timers.none]
  expiring := by simp [World.start, Timers.none]
  past := by simp

theorem step {world : World} {deed : Deed} (orderly : world.Orderly [] [])
    (admitted : world.Admits deed) : (world.step deed).Orderly [] [] := by
  cases effect_step orderly admitted with
  | quiet change => exact orderly.quiet change
  | aborts cause abort after => exact after ▸ orderly.aborts abort
  | fires fires => exact (orderly.fires fires).forget

theorem run {world : World} {deeds : List Deed} (orderly : world.Orderly [] [])
    (admitted : world.AdmitsAll deeds) : (world.run deeds).Orderly [] [] := by
  induction deeds generalizing world with
  | nil => exact orderly
  | cons deed deeds induction => exact induction (orderly.step admitted.1) admitted.2

end Orderly

theorem Reachable.orderly {world : World} (reachable : world.Reachable) : world.Orderly [] [] := by
  obtain ⟨origin, deeds, admitted, rfl⟩ := reachable
  exact (Orderly.start origin).run admitted

namespace Effect

variable {before after : World} {deed : Deed}

theorem keeps (effect : before.Effect deed after) {signal : SignalId} {reason : Value}
    (aborted : before.signals.reason? signal = some reason) :
    after.signals.reason? signal = some reason := by
  cases effect with
  | quiet change =>
      rw [change.signals.reason?_eq (Signals.lt_length_of_reason? aborted), aborted]
  | aborts cause abort world =>
      subst world
      exact abort.keeps aborted
  | fires fires =>
      obtain ⟨timed, text, -, abort⟩ := fires.aborts
      exact abort.keeps aborted

/-- What a deed does to a signal that it does not abort itself and that no timer aborts: nothing, or
another signal aborts. -/
theorem quiet_or_aborts (effect : before.Effect deed after) {signal : SignalId}
    (spared : ∀ reason, deed ≠ .abort signal reason)
    (untimed : ∀ timer ∈ before.timers.armed, ∀ text, timer.task ≠ .expire signal text) :
    (∃ gone, before.Quiet after gone ∧ ∀ release, gone release → deed = .clear release) ∨
      ∃ first reason, signal ≠ first ∧ before.signals.Aborts first reason after.signals ∧
        ∀ timer ∈ after.timers.armed, timer ∈ before.timers.armed := by
  cases effect with
  | quiet change own => exact .inl ⟨_, change, fun _ => own⟩
  | @aborts first reason signals cause abort world =>
      subst world
      refine .inr ⟨first, reason, ?_, abort, fun timer member => member⟩
      rintro rfl
      exact spared reason cause
  | fires fires =>
      obtain ⟨timed, text, task, abort⟩ := fires.aborts
      refine .inr ⟨timed, _, ?_, abort, fun timer member => (fires.mem_armed.mp member).1⟩
      rintro rfl
      exact untimed _ fires.armed text task

end Effect

section Keeps

variable {world : World} {deeds : List Deed} {signal : SignalId}

theorem keeps_run (orderly : world.Orderly [] []) (admitted : world.AdmitsAll deeds)
    {reason : Value} (aborted : world.signals.reason? signal = some reason) :
    (world.run deeds).signals.reason? signal = some reason := by
  induction deeds generalizing world with
  | nil => exact aborted
  | cons deed deeds induction =>
      exact induction (orderly.step admitted.1) admitted.2
        ((effect_step orderly admitted.1).keeps aborted)

theorem isAborted_run (orderly : world.Orderly [] []) (admitted : world.AdmitsAll deeds)
    (aborted : world.signals.isAborted signal) : (world.run deeds).signals.isAborted signal := by
  obtain ⟨reason, marked⟩ := Signals.isAborted_iff.mp aborted
  exact Signals.isAborted_iff.mpr ⟨reason, keeps_run orderly admitted marked⟩

end Keeps

namespace OutOfReach

variable {world : World} {signal : SignalId}

/-- Nobody but its holder aborts a signal that is out of reach. -/
theorem step {deed : Deed} (free : world.OutOfReach [] signal) (orderly : world.Orderly [] [])
    (admitted : world.Admits deed) (spared : ∀ reason, deed ≠ .abort signal reason) :
    (world.step deed).OutOfReach [] signal ∧
      (world.step deed).signals.reason? signal = world.signals.reason? signal := by
  rcases (effect_step orderly admitted).quiet_or_aborts spared free.untimed with
    ⟨gone, change, -⟩ | ⟨first, reason, other, abort, fewer⟩
  · exact ⟨free.quiet change, change.signals.reason?_eq free.inside⟩
  · have later := free.aborts abort
    refine ⟨⟨later.inside, later.unmade, later.unrelayed, ?_⟩, ?_⟩
    · exact fun timer member => free.untimed timer (fewer timer member)
    · exact abort.reason?_of_unrelayed other free.unrelayed

theorem run {deeds : List Deed} (free : world.OutOfReach [] signal)
    (orderly : world.Orderly [] []) (admitted : world.AdmitsAll deeds)
    (spared : ∀ reason, .abort signal reason ∉ deeds) :
    (world.run deeds).OutOfReach [] signal ∧
      (world.run deeds).signals.reason? signal = world.signals.reason? signal := by
  induction deeds generalizing world with
  | nil => exact ⟨free, rfl⟩
  | cons deed deeds induction =>
      obtain ⟨later, same⟩ := free.step orderly admitted.1
        fun reason own => spared reason (own ▸ List.mem_cons_self)
      obtain ⟨last, kept⟩ := induction later (orderly.step admitted.1) admitted.2
        fun reason member => spared reason (List.mem_cons_of_mem _ member)
      exact ⟨last, kept.trans same⟩

end OutOfReach

end World

end BlobStorage
