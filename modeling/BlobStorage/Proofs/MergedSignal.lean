import BlobStorage.Proofs.ExchangeStart
import BlobStorage.Proofs.GatheredSignal

/-!
# Merges

A merge of several signals makes a new one that hangs on all of them (`gathers_gather`), and aborts
nothing that was there (`quiet_gather`).  Sources are registered one after another, and the first
that has aborted already ends that and takes back what was registered before it; `merge_eq_register`
says that this comes to what `merge` does at once.
-/

namespace BlobStorage

namespace Signals

/-- A merged signal listens to some signals, as often as they are named. -/
def attach (signals : Signals) (target : SignalId) (sources : List SignalId) : Signals :=
  sources.foldl (fun signals source => signals.listen source (.relay target)) signals

section Attach

variable {signals : Signals} {target id : SignalId} {sources : List SignalId}

@[simp] theorem attach_nil : signals.attach target [] = signals := rfl

@[simp] theorem attach_cons (source : SignalId) :
    signals.attach target (source :: sources) =
      (signals.listen source (.relay target)).attach target sources := rfl

@[simp] theorem length_attach : (signals.attach target sources).length = signals.length := by
  induction sources generalizing signals with
  | nil => rfl
  | cons source sources induction => rw [attach_cons, induction, length_listen]

@[simp] theorem reason?_attach :
    (signals.attach target sources).reason? id = signals.reason? id := by
  induction sources generalizing signals with
  | nil => rfl
  | cons source sources induction => rw [attach_cons, induction, reason?_listen]

theorem mem_listenersOf_attach {listener : Listener} :
    listener ∈ (signals.attach target sources).listenersOf id ↔
      listener ∈ signals.listenersOf id ∨
        (id ∈ sources ∧ id < signals.length) ∧ listener = .relay target := by
  induction sources generalizing signals with
  | nil => simp
  | cons source sources induction =>
      rw [attach_cons, induction, listenersOf_listen, length_listen]
      by_cases own : source = id ∧ source < signals.length
      · obtain ⟨rfl, inside⟩ := own
        rw [if_pos ⟨rfl, inside⟩, List.mem_append, List.mem_singleton]
        grind
      · rw [if_neg own]
        grind

theorem listenersOf_attach_of_notMem (other : id ∉ sources) :
    (signals.attach target sources).listenersOf id = signals.listenersOf id := by
  induction sources generalizing signals with
  | nil => rfl
  | cons source sources induction =>
      simp only [List.mem_cons, not_or] at other
      obtain ⟨different, other⟩ := other
      rw [attach_cons, induction other, listenersOf_listen,
        if_neg fun own => different own.1.symm]

theorem attach_append (more : Signals) (known : ∀ source ∈ sources, source < signals.length) :
    signals.attach target sources ++ more = attach (signals ++ more) target sources := by
  induction sources generalizing signals with
  | nil => rfl
  | cons source sources induction =>
      rw [attach_cons, attach_cons, induction ?_, append_listen (known source List.mem_cons_self)]
      intro other member
      rw [length_listen]
      exact known other (List.mem_cons_of_mem _ member)

theorem detach_attach : (signals.attach target sources).detach target = signals.detach target := by
  have once : ∀ (signals : Signals) (source : SignalId),
      (signals.listen source (.relay target)).detach target = signals.detach target := by
    intro signals source
    apply List.ext_getElem?
    intro place
    unfold detach listen
    rw [List.getElem?_map, List.getElem?_map, List.getElem?_modify]
    by_cases own : source = place
    · cases signals[place]? <;> simp [own]
    · simp [own]
  induction sources generalizing signals with
  | nil => rfl
  | cons source sources induction => rw [attach_cons, induction, once]

theorem detach_eq_self (unrelayed : ∀ source, .relay target ∉ signals.listenersOf source) :
    signals.detach target = signals := by
  apply List.ext_getElem?
  intro place
  unfold detach
  rw [List.getElem?_map]
  cases present : signals[place]? with
  | none => rfl
  | some signal =>
      obtain ⟨reason, listeners⟩ := signal
      have own : signals.listenersOf place = listeners := by simp [listenersOf, present]
      simp only [Option.map_some, Option.some.injEq, Signal.mk.injEq, true_and]
      refine List.filter_eq_self.mpr fun listener member => ?_
      rw [bne_iff_ne]
      rintro rfl
      exact unrelayed place (own ▸ member)

end Attach

/-- A new signal that takes its relays away when it aborts. -/
def addPending (signals : Signals) : Signals := signals ++ [⟨none, [.release]⟩]

section Pending

variable {signals : Signals} {sources : List SignalId}

@[simp] theorem length_addPending : signals.addPending.length = signals.length + 1 := by
  simp [addPending]

theorem reason?_addPending : signals.addPending.reason? signals.length = none :=
  reason?_append_length _

theorem reason?_addPending_of_lt {id : SignalId} (inside : id < signals.length) :
    signals.addPending.reason? id = signals.reason? id :=
  reason?_append_left _ inside

theorem mem_listenersOf_addPending {id : SignalId} {listener : Listener} :
    listener ∈ signals.addPending.listenersOf id ↔
      listener ∈ signals.listenersOf id ∨ id = signals.length ∧ listener = .release := by
  rw [addPending, listenersOf_append_singleton]
  split
  · rename_i last
    simp [last, listenersOf_eq_nil_of_length_le (Nat.le_refl signals.length)]
  · rename_i other
    simp [other]

end Pending

/-- The table when a merged signal is added for at least two sources. -/
def gather (signals : Signals) (sources : List SignalId) : Signals :=
  match sources.findSome? signals.reason? with
  | some reason => signals ++ [⟨some (relayedReason reason), []⟩]
  | none => signals.addPending.attach signals.length sources

section Gather

variable {signals : Signals} {sources : List SignalId}

theorem merge_of_many {sources : List (Option SignalId)}
    (many : 2 ≤ (sources.filterMap id).length)
    (known : ∀ source ∈ sources.filterMap id, source < signals.length) :
    signals.merge sources = (signals.gather (sources.filterMap id),
      some ⟨signals.length, .detach signals.length⟩) := by
  unfold merge gather
  split
  · rename_i nobody
    rw [nobody] at many
    exact absurd many (by decide)
  · rename_i single
    rw [single] at many
    exact absurd many (Nat.not_le_of_lt (Nat.lt_succ_self 1))
  · cases (sources.filterMap id).findSome? signals.reason? with
    | some reason => rfl
    | none =>
        simp only [Prod.mk.injEq, and_true]
        exact attach_append _ known

@[simp] theorem length_gather : (signals.gather sources).length = signals.length + 1 := by
  unfold gather
  split
  · simp
  · simp

/-- A merged signal has aborted from the start if one of its sources had, for the reason of the
first of them. -/
theorem reason?_gather : (signals.gather sources).reason? signals.length =
    (sources.findSome? signals.reason?).map relayedReason := by
  unfold gather
  split
  · rename_i reason found
    rw [reason?_append_length, found]
    rfl
  · rename_i nobody
    rw [reason?_attach, reason?_addPending, nobody]
    rfl

theorem reason?_gather_of_lt {id : SignalId} (inside : id < signals.length) :
    (signals.gather sources).reason? id = signals.reason? id := by
  unfold gather
  split
  · exact reason?_append_left _ inside
  · rw [reason?_attach, reason?_addPending_of_lt inside]

theorem relay_gather {source target : SignalId}
    (member : .relay target ∈ (signals.gather sources).listenersOf source) :
    .relay target ∈ signals.listenersOf source ∨ target = signals.length ∧ source ∈ sources := by
  unfold gather at member
  split at member
  · rw [listenersOf_append_singleton] at member
    split at member
    · cases member
    · exact .inl member
  · rw [mem_listenersOf_attach, mem_listenersOf_addPending] at member
    grind

/-- A merge aborts none of the signals that were there, and takes no listener from them. -/
theorem quiet_gather (known : ∀ source ∈ sources, source < signals.length)
    (gone : SignalId → Prop) : Quiet signals (signals.gather sources) gone := by
  unfold gather
  split
  · exact .append _ _ (by simp)
  · have pending : Quiet signals signals.addPending gone := .append _ _ (by simp)
    have attached : ∀ (sources : List SignalId) (current : Signals),
        (∀ source ∈ sources, source < signals.length) → signals.length < current.length →
        Quiet signals current gone →
          Quiet signals (current.attach signals.length sources) gone := by
      intro sources
      induction sources with
      | nil => exact fun current _ _ quiet => quiet
      | cons source sources induction =>
          intro current known inside quiet
          refine induction _ (fun other member => known other (List.mem_cons_of_mem _ member))
            (by simpa using inside) ?_
          exact quiet.listen_relay (Nat.le_refl _) inside (known source List.mem_cons_self)
    exact attached sources _ known (by simp) pending

theorem gathers_gather (ascending : signals.Ascending)
    (known : ∀ source ∈ sources, source < signals.length) :
    Gathers (signals.gather sources) sources signals.length where
  inside := length_gather ▸ Nat.lt_succ_self _
  only := by
    intro source member
    rcases relay_gather member with old | ⟨-, own⟩
    · exact absurd (ascending old).2 (Nat.lt_irrefl _)
    · exact own
  waits := by
    intro waiting
    have nobody : sources.findSome? signals.reason? = none := by
      rw [reason?_gather] at waiting
      exact Option.map_eq_none_iff.mp waiting
    have unaborted := List.findSome?_eq_none_iff.mp nobody
    simp only [gather, nobody]
    refine ⟨?_, ?_⟩
    · rw [mem_listenersOf_attach, mem_listenersOf_addPending]
      exact .inl (.inr ⟨rfl, rfl⟩)
    · intro source own
      have inside := known source own
      rw [reason?_attach, reason?_addPending_of_lt inside, mem_listenersOf_attach]
      exact ⟨unaborted source own, .inr ⟨⟨own, by simpa using Nat.lt_succ_of_lt inside⟩, rfl⟩⟩
  done := by
    intro aborted source member
    obtain ⟨reason, found⟩ : ∃ reason, sources.findSome? signals.reason? = some reason := by
      rw [isAborted, reason?_gather, Option.isSome_map] at aborted
      exact Option.isSome_iff_exists.mp aborted
    simp only [gather, found, listenersOf_append_singleton] at member
    split at member
    · cases member
    · exact absurd (ascending member).2 (Nat.lt_irrefl _)

end Gather

/-- A merged signal is registered with its sources one after another.  The first one that has
aborted already aborts it, which takes away what was registered, and the others are left out. -/
def register (target : SignalId) : List SignalId → Signals → Signals
  | [], signals => signals
  | source :: sources, signals =>
      match signals.reason? source with
      | some reason => (signals.abort target (relayedReason reason)).1
      | none => register target sources (signals.listen source (.relay target))

section Register

variable {signals : Signals} {sources : List SignalId}

/-- A merged signal that aborts during its registration leaves nothing behind on its sources. -/
theorem abort_attach (ascending : signals.Ascending)
    (known : ∀ source ∈ sources, source < signals.length) (reason : Value) :
    ((signals.addPending.attach signals.length sources).abort signals.length reason).1 =
      signals ++ [⟨some reason, []⟩] := by
  have unnamed : signals.length ∉ sources := fun own => Nat.lt_irrefl _ (known _ own)
  have unrelayed : ∀ source, .relay signals.length ∉ signals.addPending.listenersOf source := by
    intro source member
    rcases mem_listenersOf_addPending.mp member with old | ⟨-, wrong⟩
    · exact Nat.lt_irrefl _ (ascending old).2
    · cases wrong
  have own : (signals.addPending.attach signals.length sources).listenersOf signals.length =
      [.release] := by
    rw [listenersOf_attach_of_notMem unnamed]
    exact listenersOf_append_length _
  have waiting :
      (signals.addPending.attach signals.length sources).reason? signals.length = none := by
    rw [reason?_attach, reason?_addPending]
  rw [abort, length_attach, length_addPending, abortWithin_succ (by simp) waiting, own]
  simp only [List.foldl_cons, List.foldl_nil, tell]
  calc
    detach ((signals.addPending.attach signals.length sources).set signals.length
        ⟨some reason, []⟩) signals.length =
        ((signals.addPending.attach signals.length sources).detach signals.length).set
          signals.length ⟨some reason, []⟩ := by
      unfold detach
      rw [List.map_set]
      rfl
    _ = signals.addPending.set signals.length ⟨some reason, []⟩ := by
      rw [detach_attach, detach_eq_self unrelayed]
    _ = signals ++ [⟨some reason, []⟩] := by
      unfold addPending
      simp

theorem register_attach (ascending : signals.Ascending) {before sources : List SignalId}
    (earlier : ∀ source ∈ before, source < signals.length)
    (known : ∀ source ∈ sources, source < signals.length) :
    register signals.length sources (signals.addPending.attach signals.length before) =
      match sources.findSome? signals.reason? with
      | some reason => signals ++ [⟨some (relayedReason reason), []⟩]
      | none => signals.addPending.attach signals.length (before ++ sources) := by
  induction sources generalizing before with
  | nil => simp [register]
  | cons source sources induction =>
      have inside := known source List.mem_cons_self
      rw [register, reason?_attach, reason?_addPending_of_lt inside, List.findSome?_cons]
      cases signals.reason? source with
      | some reason => exact abort_attach ascending earlier _
      | none =>
          have next : (signals.addPending.attach signals.length before).listen source
              (.relay signals.length) =
                signals.addPending.attach signals.length (before ++ [source]) := by
            simp [attach]
          simp only [next]
          rw [induction, List.append_assoc]
          · rfl
          · intro other member
            rcases List.mem_append.mp member with old | now
            · exact earlier other old
            · exact List.mem_singleton.mp now ▸ inside
          · exact fun other member => known other (List.mem_cons_of_mem _ member)

/-- A merge is the registration of its sources one after another. -/
theorem merge_eq_register {sources : List (Option SignalId)} (ascending : signals.Ascending)
    (many : 2 ≤ (sources.filterMap id).length)
    (known : ∀ source ∈ sources.filterMap id, source < signals.length) :
    signals.merge sources =
      (register signals.length (sources.filterMap id) signals.addPending,
        some ⟨signals.length, .detach signals.length⟩) := by
  rw [merge_of_many many known]
  exact congrArg (·, _) (@register_attach _ ascending [] _ (by simp) known).symm

end Register

end Signals

end BlobStorage
