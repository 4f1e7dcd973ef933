import BlobStorage.Proofs.ClearedSignal

/-!
# What becomes of a merged signal

A merged signal that is not cleared has aborted if and only if one of its sources has
(`Gathered.isAborted_iff`), and every deed but its own clear keeps that.  Once it is cleared,
nothing reaches it.  `merge_follows_sources` puts the two together for every later course of deeds:
when a merged signal aborts, for which reason, and that it leaves no listener behind.  That a merge
registers with its sources one after another is `Signals.merge_eq_register`.
-/

namespace BlobStorage

namespace Deed

/-- Whether a deed clears a derived signal, as its release says. -/
def clears (release : Release) : Deed → Bool
  | .clear other => other == release
  | _ => false

theorem clears_iff {release : Release} {deed : Deed} :
    deed.clears release = true ↔ deed = .clear release := by
  cases deed with
  | clear other => simp [clears]
  | _ => simp [clears]

/-- The deeds before a derived signal is cleared for the first time. -/
def beforeClear (release : Release) (deeds : List Deed) : List Deed :=
  deeds.takeWhile fun deed => !deed.clears release

@[simp] theorem beforeClear_cons_self (release : Release) (deeds : List Deed) :
    beforeClear release (.clear release :: deeds) = [] := by
  simp [beforeClear, clears]

theorem beforeClear_cons_of_ne {release : Release} {deed : Deed} (other : deed ≠ .clear release)
    (deeds : List Deed) :
    beforeClear release (deed :: deeds) = deed :: beforeClear release deeds := by
  refine List.takeWhile_cons_of_pos ?_
  rw [Bool.not_eq_true', Bool.eq_false_iff]
  exact fun own => other (clears_iff.mp own)

end Deed

namespace World

/-- A merged signal that has not been cleared hangs on its sources, no timer aborts it, and if it
has aborted, so has one of them. -/
structure Gathered (world : World) (sources : List SignalId) (target : SignalId) : Prop where
  gathers : world.signals.Gathers sources target
  known : ∀ source ∈ sources, source < world.signals.length
  untimed : ∀ timer ∈ world.timers.armed, ∀ text, timer.task ≠ .expire target text
  caused : world.signals.isAborted target → ∃ source ∈ sources, world.signals.isAborted source

namespace Gathered

variable {world after : World} {sources : List SignalId} {target : SignalId}

theorem isAborted_iff (gathered : world.Gathered sources target) :
    world.signals.isAborted target ↔ ∃ source ∈ sources, world.signals.isAborted source := by
  refine ⟨gathered.caused, ?_⟩
  rintro ⟨source, own, aborted⟩
  cases waiting : world.signals.reason? target with
  | some reason => exact Signals.isAborted_iff.mpr ⟨reason, waiting⟩
  | none =>
      obtain ⟨-, told⟩ := gathered.gathers.waits waiting
      rw [Signals.isAborted, (told source own).1] at aborted
      cases aborted

theorem merge (orderly : world.Orderly [] [])
    (known : ∀ source ∈ sources, source < world.signals.length) :
    Gathered { world with signals := world.signals.gather sources } sources
      world.signals.length where
  gathers := Signals.gathers_gather orderly.ascending known
  known source own := (Signals.quiet_gather known fun _ => False).lt_length (known source own)
  untimed timer member text task :=
    absurd (orderly.of_expire member task).1 (Nat.lt_irrefl _)
  caused := by
    intro aborted
    rw [Signals.isAborted, Signals.reason?_gather, Option.isSome_map] at aborted
    obtain ⟨source, own, earlier⟩ := List.findSome?_isSome_iff.mp aborted
    refine ⟨source, own, ?_⟩
    rwa [Signals.isAborted, Signals.reason?_gather_of_lt (known source own)]

theorem quiet {gone : Release → Prop} (gathered : world.Gathered sources target)
    (change : world.Quiet after gone) (here : ¬ gone (.detach target)) :
    after.Gathered sources target where
  gathers := gathered.gathers.quiet change.signals here gathered.known
  known source own := change.signals.lt_length (gathered.known source own)
  untimed timer member text task :=
    gathered.untimed timer (change.armed_of_expire gathered.gathers.inside member task) text task
  caused := by
    intro aborted
    rw [Signals.isAborted, change.signals.reason?_eq gathered.gathers.inside] at aborted
    obtain ⟨source, own, earlier⟩ := gathered.caused aborted
    refine ⟨source, own, ?_⟩
    rwa [Signals.isAborted, change.signals.reason?_eq (gathered.known source own)]

section Aborts

variable {first : SignalId} {reason : Value}

theorem aborts (gathered : world.Gathered sources target)
    (abort : world.signals.Aborts first reason after.signals) (other : target ≠ first)
    (fewer : ∀ timer ∈ after.timers.armed, timer ∈ world.timers.armed) :
    after.Gathered sources target where
  gathers := by
    generalize after.signals = signals at abort
    cases abort with
    | already => exact gathered.gathers
    | spread spread => exact gathered.gathers.spread spread
  known source own := abort.length_eq ▸ gathered.known source own
  untimed timer member := gathered.untimed timer (fewer timer member)
  caused := by
    intro aborted
    generalize after.signals = signals at abort aborted
    cases abort with
    | already => exact gathered.caused aborted
    | spread spread =>
        cases earlier : world.signals.reason? target with
        | some taken =>
            obtain ⟨source, own, marked⟩ :=
              gathered.caused (Signals.isAborted_iff.mpr ⟨taken, earlier⟩)
            exact ⟨source, own, spread.isAborted marked⟩
        | none =>
            obtain ⟨source, own, newly⟩ :=
              gathered.gathers.exists_newly spread other ⟨earlier, aborted⟩
            exact ⟨source, own, newly.2⟩

theorem reason?_of_aborts (gathered : world.Gathered sources target)
    (orderly : world.Orderly [] []) (waiting : world.signals.reason? target = none)
    (abort : world.signals.Aborts first reason after.signals) (other : target ≠ first)
    {source : SignalId} (own : source ∈ sources) {taken : Value}
    (aborted : after.signals.reason? source = some taken) :
    after.signals.reason? target = some (Signals.relayedReason taken) := by
  generalize after.signals = signals at abort aborted
  cases abort with
  | already =>
      obtain ⟨-, told⟩ := gathered.gathers.waits waiting
      cases (told source own).1.symm.trans aborted
  | spread spread =>
      exact gathered.gathers.reason?_of_newly spread orderly.ascending other waiting own aborted

end Aborts

section Step

variable {deed : Deed}

theorem step (gathered : world.Gathered sources target) (orderly : world.Orderly [] [])
    (admitted : world.Admits deed) (spared : ∀ reason, deed ≠ .abort target reason)
    (kept : deed ≠ .clear (.detach target)) : (world.step deed).Gathered sources target := by
  rcases (effect_step orderly admitted).quiet_or_aborts spared gathered.untimed with
    ⟨gone, change, own⟩ | ⟨first, reason, other, abort, fewer⟩
  · exact gathered.quiet change fun gone => kept (own _ gone)
  · exact gathered.aborts abort other fewer

theorem reason?_step (gathered : world.Gathered sources target) (orderly : world.Orderly [] [])
    (admitted : world.Admits deed) (spared : ∀ reason, deed ≠ .abort target reason)
    (waiting : world.signals.reason? target = none) {source : SignalId} (own : source ∈ sources)
    {taken : Value} (aborted : (world.step deed).signals.reason? source = some taken) :
    (world.step deed).signals.reason? target = some (Signals.relayedReason taken) := by
  rcases (effect_step orderly admitted).quiet_or_aborts spared gathered.untimed with
    ⟨gone, change, -⟩ | ⟨first, reason, other, abort, -⟩
  · obtain ⟨-, told⟩ := gathered.gathers.waits waiting
    rw [change.signals.reason?_eq (gathered.known source own), (told source own).1] at aborted
    cases aborted
  · exact gathered.reason?_of_aborts orderly waiting abort other own aborted

end Step

section Run

variable {deeds : List Deed}

theorem run (gathered : world.Gathered sources target) (orderly : world.Orderly [] [])
    (admitted : world.AdmitsAll deeds) (spared : ∀ reason, .abort target reason ∉ deeds)
    (kept : .clear (.detach target) ∉ deeds) : (world.run deeds).Gathered sources target := by
  induction deeds generalizing world with
  | nil => exact gathered
  | cons deed deeds induction =>
      have next := gathered.step orderly admitted.1
        (fun reason own => spared reason (own ▸ List.mem_cons_self))
        (fun own => kept (own ▸ List.mem_cons_self))
      exact induction next (orderly.step admitted.1) admitted.2
        (fun reason member => spared reason (List.mem_cons_of_mem _ member))
        (fun member => kept (List.mem_cons_of_mem _ member))

/-- A merged signal has aborted if and only if one of its sources had when it was first cleared. -/
theorem isAborted_run_iff (gathered : world.Gathered sources target)
    (tied : world.Tied ⟨target, .detach target⟩) (orderly : world.Orderly [] [])
    (admitted : world.AdmitsAll deeds) (spared : ∀ reason, .abort target reason ∉ deeds) :
    (world.run deeds).signals.isAborted target ↔ ∃ source ∈ sources,
      (world.run (Deed.beforeClear (.detach target) deeds)).signals.isAborted source := by
  induction deeds generalizing world with
  | nil => exact gathered.isAborted_iff
  | cons deed deeds induction =>
      have sparedLater : ∀ reason, .abort target reason ∉ deeds :=
        fun reason member => spared reason (List.mem_cons_of_mem _ member)
      by_cases cleared : deed = .clear (.detach target)
      · subst cleared
        obtain ⟨-, same⟩ := tied.outOfReach_release.run (orderly.quiet (.release ..))
          admitted.2 sparedLater
        rw [Deed.beforeClear_cons_self, run_nil, ← gathered.isAborted_iff, run_cons,
          Signals.isAborted, World.step, same, reason?_release, Signals.isAborted]
      · have next := gathered.step orderly admitted.1
          (fun reason own => spared reason (own ▸ List.mem_cons_self)) cleared
        rw [Deed.beforeClear_cons_of_ne cleared, run_cons, run_cons]
        exact induction next (tied.step orderly admitted.1) (orderly.step admitted.1) admitted.2
          sparedLater

/-- A merged signal that has aborted or was cleared listens to nobody. -/
theorem unrelayed_run (gathered : world.Gathered sources target)
    (tied : world.Tied ⟨target, .detach target⟩) (orderly : world.Orderly [] [])
    (admitted : world.AdmitsAll deeds) (spared : ∀ reason, .abort target reason ∉ deeds)
    (ended : (world.run deeds).signals.isAborted target ∨ .clear (.detach target) ∈ deeds)
    (source : SignalId) : .relay target ∉ (world.run deeds).signals.listenersOf source := by
  by_cases cleared : .clear (.detach target) ∈ deeds
  · obtain ⟨past, rest, rfl⟩ := List.append_of_mem cleared
    obtain ⟨admittedPast, -, admittedRest⟩ := admitsAll_append.mp admitted
    have free := (tied.run orderly admittedPast).outOfReach_release
    obtain ⟨last, -⟩ := free.run ((orderly.run admittedPast).quiet (.release ..)) admittedRest
      fun reason member => spared reason (List.mem_append_right _ (List.mem_cons_of_mem _ member))
    rw [run_append]
    exact last.unrelayed source
  · have last := gathered.run orderly admitted spared cleared
    exact last.gathers.done (ended.resolve_right cleared) source

end Run

end Gathered

/-- How a merged signal fares while deeds follow its merge, which has led from one world to the
next: when it has aborted; its reason if one of its sources had aborted already, which is that of
the first of them, and else that of a source that aborts with the first deed by which one does; that
it keeps this reason; and when none of the signals holds a listener of its merge. -/
structure FollowsSources (world next : World) (sources : List SignalId) (merged : Clearable)
    (later : List Deed) : Prop where
  aborted_iff : (next.run later).signals.isAborted merged.signal ↔
    (∃ source ∈ sources, world.signals.isAborted source) ∨
      ∃ source ∈ sources,
        (next.run (Deed.beforeClear merged.release later)).signals.isAborted source
  earlier : ∀ {reason}, sources.findSome? world.signals.reason? = some reason →
    (next.run later).signals.reason? merged.signal = some (Signals.relayedReason reason)
  first : ∀ {past deed rest}, later = past ++ deed :: rest → .clear merged.release ∉ past →
    (∀ source ∈ sources, (next.run past).signals.isAborted source = false) →
    ∀ {source reason}, source ∈ sources →
      ((next.run past).step deed).signals.reason? source = some reason →
      (next.run later).signals.reason? merged.signal = some (Signals.relayedReason reason)
  stays : ∀ {past rest reason}, later = past ++ rest →
    (next.run past).signals.reason? merged.signal = some reason →
    (next.run later).signals.reason? merged.signal = some reason
  unheard : (next.run later).signals.isAborted merged.signal ∨ .clear merged.release ∈ later →
    ∀ source, .relay merged.signal ∉ (next.run later).signals.listenersOf source

theorem Gathered.follows {world next : World} {sources : List SignalId} {target : SignalId}
    {later : List Deed} (gathered : next.Gathered sources target)
    (tied : next.Tied ⟨target, .detach target⟩) (orderly : next.Orderly [] [])
    (same : ∀ source ∈ sources, next.signals.reason? source = world.signals.reason? source)
    (marked : next.signals.reason? target =
      (sources.findSome? world.signals.reason?).map Signals.relayedReason)
    (admitted : next.AdmitsAll later) (spared : ∀ reason, .abort target reason ∉ later) :
    world.FollowsSources next sources ⟨target, .detach target⟩ later where
  aborted_iff := by
    rw [gathered.isAborted_run_iff tied orderly admitted spared]
    refine ⟨.inr, ?_⟩
    rintro (⟨source, own, aborted⟩ | aborted)
    · rw [Signals.isAborted, ← same source own] at aborted
      -- A source that aborts before the merged signal is cleared has aborted at the end too.
      obtain ⟨rest, whole⟩ : Deed.beforeClear (.detach target) later <+: later :=
        List.takeWhile_prefix _
      rw [← whole] at admitted
      exact ⟨source, own, isAborted_run orderly (admitsAll_append.mp admitted).1 aborted⟩
    · exact aborted
  earlier := by
    intro reason found
    refine keeps_run orderly admitted ?_
    rw [marked, found]
    rfl
  first := by
    rintro past deed rest rfl uncleared waiting source reason own aborted
    obtain ⟨admittedPast, admittedDeed, admittedRest⟩ := admitsAll_append.mp admitted
    have orderlyPast := orderly.run admittedPast
    have gatheredPast := gathered.run orderly admittedPast
      (fun reason member => spared reason (List.mem_append_left _ member)) uncleared
    have unaborted : (next.run past).signals.reason? target = none := by
      rw [← Signals.isAborted_eq_false_iff, Bool.eq_false_iff, ne_eq, gatheredPast.isAborted_iff]
      rintro ⟨source, own, aborted⟩
      rw [waiting source own] at aborted
      cases aborted
    have told := gatheredPast.reason?_step orderlyPast admittedDeed
      (fun reason own => spared reason (own ▸ List.mem_append_right _ List.mem_cons_self))
      unaborted own aborted
    rw [run_append]
    exact keeps_run (orderlyPast.step admittedDeed) admittedRest told
  stays := by
    rintro past rest reason rfl aborted
    obtain ⟨admittedPast, admittedRest⟩ := admitsAll_append.mp admitted
    rw [run_append]
    exact keeps_run (orderly.run admittedPast) admittedRest aborted
  unheard := gathered.unrelayed_run tied orderly admitted spared

/-- A merge of no signal gives none, and that of one gives this one.  A merge of more gives a new
signal that follows them, whatever happens later: they abort, they or others are derived and
cleared, and timers fire. -/
theorem merge_follows_sources {world : World} (reachable : world.Reachable)
    {sources : List (Option SignalId)}
    (known : ∀ source ∈ sources.filterMap id, source < world.signals.length) :
    (sources.filterMap id = [] → world.merge sources = (world, none)) ∧
    (∀ only, sources.filterMap id = [only] →
      world.merge sources = (world, some ⟨only, .nothing⟩)) ∧
    (2 ≤ (sources.filterMap id).length → ∃ next target,
      world.merge sources = (next, some ⟨target, .detach target⟩) ∧
      world.signals.length ≤ target ∧
      ∀ later, next.AdmitsAll later → (∀ reason, .abort target reason ∉ later) →
        world.FollowsSources next (sources.filterMap id) ⟨target, .detach target⟩ later) := by
  have orderly := reachable.orderly
  refine ⟨?_, fun only single => merge_of_single single, ?_⟩
  · intro nobody
    unfold merge Signals.merge
    rw [nobody]
  · intro many
    have made := merge_of_many many known
    have derives := Derives.merge many known made
    refine ⟨_, _, made, Nat.le_refl _, ?_⟩
    intro later admitted spared
    refine (Gathered.merge orderly known).follows (.of_derives orderly derives)
      (orderly.derives derives) ?_ Signals.reason?_gather admitted spared
    exact fun source own => Signals.reason?_gather_of_lt (known source own)

/-- Of two signals, one of which is named twice, the second aborts first and without a reason; then
the first aborts, and the merged signal is cleared. -/
theorem merge_follows_sources_repeated :
    ((start .zero).run [.signal, .signal, .merge [some 0, none, some 1, some 0], .abort 1 .null,
        .abort 0 (.boolean true), .clear (.detach 2)]).signals.reason? 2 =
      some (.failure (Failure.abort "error signal triggered with unknown reason" none)) ∧
    ∀ source, .relay 2 ∉ ((start .zero).run [.signal, .signal,
      .merge [some 0, none, some 1, some 0], .abort 1 .null]).signals.listenersOf source := by
  obtain ⟨-, -, several⟩ := @merge_follows_sources _ ⟨.zero, [.signal, .signal], by decide, rfl⟩
    [some 0, none, some 1, some 0] (by decide)
  obtain ⟨next, target, made, -, follows⟩ := several (by decide)
  cases made
  refine ⟨?_, ?_⟩
  · have whole := follows [.abort 1 .null, .abort 0 (.boolean true), .clear (.detach 2)] (by decide)
      (show ∀ reason, Deed.abort 2 reason ∉ _ by simp)
    exact @whole.first [] (.abort 1 .null) _ rfl (by simp) (by decide) 1 .null (by decide) rfl
  · have part := follows [.abort 1 .null] (by decide)
      (show ∀ reason, Deed.abort 2 reason ∉ _ by simp)
    exact part.unheard (.inl rfl)

end World

end BlobStorage
