import BlobStorage.Proofs.SignalDeeds

/-!
# Derived signals that are cleared

A derived signal is reached only by what its release takes away: the timer that it was made for, or
the relays of its own merge (`Tied`).  Once it is cleared nothing reaches it any more, and if it has
not aborted by then, it never will (`derived_stays_cleared`).  A merge of a single signal derives
nothing: it is that signal, and to clear it is no deed.
-/

namespace BlobStorage

namespace World

/-- Whatever reaches a derived signal is what its release takes away. -/
structure Tied (world : World) (derived : Clearable) : Prop where
  inside : derived.signal < world.signals.length
  relayed : ∀ {source}, .relay derived.signal ∈ world.signals.listenersOf source →
    derived.release = .detach derived.signal
  timed : ∀ {timer}, timer ∈ world.timers.armed → ∀ {text},
    timer.task = .expire derived.signal text → derived.release = .disarm timer.id

/-- A signal is derived from a timeout, or from at least two signals that exist. -/
inductive Derives (world next : World) (derived : Clearable) : Prop where
  | timeout {milliseconds : Value}
      (made : world.timeoutSignal? milliseconds = some (next, some derived))
  | merge {sources : List (Option SignalId)} (many : 2 ≤ (sources.filterMap id).length)
      (known : ∀ source ∈ sources.filterMap id, source < world.signals.length)
      (made : world.merge sources = (next, some derived))

variable {world next : World} {derived : Clearable}

theorem Orderly.derives (orderly : world.Orderly [] []) (derives : world.Derives next derived) :
    next.Orderly [] [] := by
  cases derives with
  | @timeout milliseconds made =>
      have step : world.step (.timeout milliseconds) = next := by
        rw [World.step, made]
        rfl
      exact step ▸ orderly.step (by simp [Admits, Deed.named])
  | @merge sources many known made =>
      have step : world.step (.merge sources) = next := by
        rw [World.step, made]
      exact step ▸ orderly.step known

namespace Tied

theorem timeout (orderly : world.Orderly [] []) (deadline : Deadline) :
    (world.tether deadline none).Tied ⟨world.signals.length, .disarm world.timers.next⟩ where
  inside := Signals.length_lt_length_tie world.signals none
  relayed := by
    intro source member
    rcases @Signals.relay_tie world.signals none (by simp) _ _ member with old | ⟨-, own, ⟨⟩, -⟩
    exact absurd (orderly.ascending old).2 (Nat.lt_irrefl _)
  timed := by
    intro timer member text task
    rcases List.mem_append.mp member with old | new
    · exact absurd (orderly.of_expire old task).1 (Nat.lt_irrefl _)
    · rw [List.mem_singleton.mp new]

theorem merge (orderly : world.Orderly [] []) (sources : List SignalId) :
    Tied { world with signals := world.signals.gather sources }
      ⟨world.signals.length, .detach world.signals.length⟩ where
  inside := Signals.length_gather ▸ Nat.lt_succ_self _
  relayed _ := rfl
  timed member _ task :=
    absurd (orderly.of_expire member task).1 (Nat.lt_irrefl _)

theorem of_derives (orderly : world.Orderly [] []) (derives : world.Derives next derived) :
    next.Tied derived := by
  cases derives with
  | @timeout milliseconds made =>
      rw [timeoutSignal?_eq] at made
      split at made
      · obtain ⟨deadline, due, same⟩ := Option.map_eq_some_iff.mp made
        obtain ⟨rfl, rfl⟩ := same
        exact timeout orderly deadline
      · cases made
  | merge many known made =>
      rw [merge_of_many many known] at made
      obtain ⟨rfl, rfl⟩ := made
      exact merge orderly _

theorem step {deed : Deed} (tied : world.Tied derived) (orderly : world.Orderly [] [])
    (admitted : world.Admits deed) : (world.step deed).Tied derived := by
  cases effect_step orderly admitted with
  | quiet change =>
      exact {
        inside := change.signals.lt_length tied.inside
        relayed := fun member => tied.relayed (change.signals.relay_old tied.inside member)
        timed := fun member text task =>
          tied.timed (change.armed_of_expire tied.inside member task) task }
  | aborts cause abort after =>
      rw [after]
      exact {
        inside := abort.length_eq ▸ tied.inside
        relayed := fun member => tied.relayed ((abort.sublist _).subset member)
        timed := tied.timed }
  | fires fires =>
      obtain ⟨timed, text, -, abort⟩ := fires.aborts
      exact {
        inside := abort.length_eq ▸ tied.inside
        relayed := fun member => tied.relayed ((abort.sublist _).subset member)
        timed := fun member => tied.timed (fires.mem_armed.mp member).1 }

theorem run {deeds : List Deed} (tied : world.Tied derived) (orderly : world.Orderly [] [])
    (admitted : world.AdmitsAll deeds) : (world.run deeds).Tied derived := by
  induction deeds generalizing world with
  | nil => exact tied
  | cons deed deeds induction =>
      exact induction (tied.step orderly admitted.1) (orderly.step admitted.1) admitted.2

theorem outOfReach_release (tied : world.Tied derived) :
    (world.release derived.release).OutOfReach [] derived.signal := by
  have change := Quiet.release world derived.release
  refine ⟨change.signals.lt_length tied.inside, by simp, ?_, ?_⟩
  · intro source member
    have own := tied.relayed (change.signals.relay_old tied.inside member)
    rw [own] at member
    simp [release] at member
  · intro timer member text task
    rw [tied.timed (change.armed_of_expire tied.inside member task) task] at member
    simp [release, Timers.disarm] at member

end Tied

theorem merge_of_single {sources : List (Option SignalId)} {only : SignalId}
    (single : sources.filterMap id = [only]) :
    world.merge sources = (world, some ⟨only, .nothing⟩) := by
  unfold merge Signals.merge
  rw [single]

/-- A derived signal that is cleared before it has aborted never does: not when its sources abort,
not when a timer fires, and not when it is cleared again.  Nobody else can abort it, for it is its
maker's own.  A merge of a single signal is that signal, and the run goes on as if it had not been
cleared. -/
theorem derived_stays_cleared (reachable : world.Reachable) :
    (∀ next derived, world.Derives next derived → ∀ past later,
      next.AdmitsAll (past ++ .clear derived.release :: later) →
      (next.run past).signals.isAborted derived.signal = false →
      (∀ reason, .abort derived.signal reason ∉ later) →
      (next.run (past ++ .clear derived.release :: later)).signals.isAborted derived.signal =
        false) ∧
    ∀ sources only, sources.filterMap id = [only] →
      world.merge sources = (world, some ⟨only, .nothing⟩) ∧
      ∀ past later, world.run (past ++ .clear .nothing :: later) = world.run (past ++ later) := by
  have orderly := reachable.orderly
  refine ⟨?_, ?_⟩
  · intro next derived derives past later admitted waiting spared
    obtain ⟨admittedPast, -, admittedLater⟩ := admitsAll_append.mp admitted
    have orderlyNext : next.Orderly [] [] := orderly.derives derives
    have orderlyPast := orderlyNext.run admittedPast
    have tied := (Tied.of_derives orderly derives).run orderlyNext admittedPast
    have cleared := tied.outOfReach_release
    obtain ⟨-, same⟩ := cleared.run (orderlyPast.quiet (.release ..)) admittedLater spared
    rw [run_append, run_cons, Signals.isAborted, step, same, reason?_release]
    exact waiting
  · intro sources only single
    refine ⟨merge_of_single single, ?_⟩
    intro past later
    rw [run_append, run_append]
    rfl

/-- Two signals are merged and a timeout is made; both are cleared, and then both sources abort and
the timer would fire. -/
theorem derived_stays_cleared_sample :
    ((start .zero).run [.signal, .signal, .merge [some 0, none, some 1], .clear (.detach 2),
        .abort 1 .null, .abort 0 (.boolean true), .clear (.detach 2)]).signals.isAborted 2 = false ∧
      ((start .zero).run [.signal, .signal, .timeout (.number (.ofInt 50)), .abort 1 .null,
        .clear (.disarm 0), .strike 0, .clear (.disarm 0)]).signals.isAborted 2 = false := by
  obtain ⟨cleared, -⟩ := @derived_stays_cleared _ ⟨.zero, [.signal, .signal], by decide, rfl⟩
  refine ⟨?_, ?_⟩
  · exact cleared _ ⟨2, .detach 2⟩
      (@Derives.merge _ _ _ [some 0, none, some 1] (by decide) (by decide) rfl)
      [] [.abort 1 .null, .abort 0 (.boolean true), .clear (.detach 2)] (by decide) rfl (by simp)
  · exact cleared _ ⟨2, .disarm 0⟩
      (@Derives.timeout _ _ _ (.number (.ofInt 50)) rfl)
      [.abort 1 .null] [.strike 0, .clear (.disarm 0)] (by decide) rfl (by simp)

/-- A merge of one signal still aborts with it once it is cleared. -/
theorem single_merge_aborts_once_cleared :
    (start .zero).run [.signal, .merge [some 0]] = (start .zero).run [.signal] ∧
      ((start .zero).run [.signal]).merge [some 0] =
        ((start .zero).run [.signal], some ⟨0, .nothing⟩) ∧
      ((start .zero).run [.signal, .merge [some 0], .clear .nothing]).signals.isAborted 0 = false ∧
      ((start .zero).run [.signal, .merge [some 0], .clear .nothing,
        .abort 0 (.boolean true)]).signals.isAborted 0 = true :=
  ⟨rfl, rfl, rfl, rfl⟩

end World

end BlobStorage
