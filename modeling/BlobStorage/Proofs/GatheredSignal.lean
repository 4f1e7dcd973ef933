import BlobStorage.Proofs.SignalSpread

/-!
# Signals that hang on others

A merged signal hangs on its sources: as long as it waits, it listens to all of them, and it aborts
with the first of them that does (`Gathers`).  No change of the table that leaves its relays alone
breaks that, and no abort of another signal does.  Signals that abort one behind another all pass on
the same reason (`Spread.relayedReason_eq`), so it does not matter which of the sources told it.
-/

namespace BlobStorage

namespace Signals

/-- A merged signal hangs on some others, and only on these: while it has not aborted, neither have
they, and it is told when one of them does; once it has aborted, it listens to nobody. -/
structure Gathers (signals : Signals) (sources : List SignalId) (target : SignalId) : Prop where
  inside : target < signals.length
  only : ∀ {source}, .relay target ∈ signals.listenersOf source → source ∈ sources
  waits : signals.reason? target = none → .release ∈ signals.listenersOf target ∧
    ∀ source ∈ sources,
      signals.reason? source = none ∧ .relay target ∈ signals.listenersOf source
  done : signals.isAborted target → ∀ source, .relay target ∉ signals.listenersOf source

@[simp] theorem relayedReason_relayedReason (reason : Value) :
    relayedReason (relayedReason reason) = relayedReason reason := by
  unfold relayedReason
  split
  · rfl
  · rfl

namespace Spread

variable {before after : Signals} {first : SignalId} {reason : Value}

/-- A signal that aborts is the first one, or it takes over what the first one passes on.  The proof
goes along the relays, which only ever lead to signals that were made later. -/
theorem reason_of_newly (change : Spread before after before.listenersOf first reason)
    (ascending : before.Ascending) {id : SignalId} {taken : Value}
    (waiting : before.reason? id = none) (aborted : after.reason? id = some taken) :
    (id = first ∧ taken = reason) ∨ taken = relayedReason reason := by
  induction id using Nat.strongRecOn generalizing taken with
  | ind id earlier =>
      rcases change.traced waiting aborted with own | ⟨source, told, waited, marked, relay, rfl⟩
      · exact .inl own
      · right
        rcases earlier source (ascending relay).1 waited marked with ⟨-, rfl⟩ | rfl
        · rfl
        · exact relayedReason_relayedReason reason

theorem relayedReason_eq (change : Spread before after before.listenersOf first reason)
    (ascending : before.Ascending) {id : SignalId} {taken : Value}
    (waiting : before.reason? id = none) (aborted : after.reason? id = some taken) :
    relayedReason taken = relayedReason reason := by
  rcases change.reason_of_newly ascending waiting aborted with ⟨-, rfl⟩ | rfl
  · rfl
  · exact relayedReason_relayedReason reason

theorem reason?_eq_none (change : Spread before after before.listenersOf first reason)
    {id : SignalId} (waiting : after.reason? id = none) : before.reason? id = none := by
  cases aborted : before.reason? id with
  | none => rfl
  | some taken => cases waiting.symm.trans (change.keeps aborted)

end Spread

namespace Gathers

variable {before after : Signals} {sources : List SignalId} {target : SignalId}

theorem quiet {gone : SignalId → Prop} (gathers : Gathers before sources target)
    (change : Quiet before after gone) (here : ¬ gone target)
    (known : ∀ source ∈ sources, source < before.length) : Gathers after sources target where
  inside := change.lt_length gathers.inside
  only member := gathers.only (change.relay_old gathers.inside member)
  waits := by
    intro waiting
    rw [change.reason?_eq gathers.inside] at waiting
    obtain ⟨release, told⟩ := gathers.waits waiting
    refine ⟨change.stays release (by simp), ?_⟩
    intro source own
    obtain ⟨unaborted, relay⟩ := told source own
    refine ⟨by rw [change.reason?_eq (known source own), unaborted], change.stays relay ?_⟩
    rintro goal ⟨⟩
    exact here
  done := by
    intro aborted source member
    rw [isAborted, change.reason?_eq gathers.inside] at aborted
    exact gathers.done aborted source (change.relay_old gathers.inside member)

section Spread

variable {first : SignalId} {reason : Value}

theorem spread (gathers : Gathers before sources target)
    (change : Spread before after before.listenersOf first reason) :
    Gathers after sources target where
  inside := by
    rw [change.length_eq]
    exact gathers.inside
  only member := gathers.only ((change.sublist _).subset member)
  waits := by
    intro waiting
    have unmoved : ¬ Newly before after target := by
      intro newly
      obtain ⟨taken, aborted⟩ := isAborted_iff.mp newly.2
      cases waiting.symm.trans aborted
    have earlier := change.reason?_eq_none waiting
    obtain ⟨release, told⟩ := gathers.waits earlier
    refine ⟨change.stays unmoved release (by simp), ?_⟩
    intro source own
    obtain ⟨unaborted, relay⟩ := told source own
    -- Had the source aborted, its relay would have moved the target.
    have calm : ¬ Newly before after source := by
      intro newly
      exact unmoved ⟨earlier, change.reaches newly relay⟩
    refine ⟨?_, change.stays calm relay ?_⟩
    · cases aborted : after.reason? source with
      | none => rfl
      | some taken => exact absurd ⟨unaborted, isAborted_iff.mpr ⟨taken, aborted⟩⟩ calm
    · rintro goal ⟨⟩
      exact unmoved
  done := by
    intro aborted source member
    cases earlier : before.reason? target with
    | some taken =>
        exact gathers.done (isAborted_iff.mpr ⟨taken, earlier⟩) source
          ((change.sublist source).subset member)
    | none =>
        exact change.leaves ⟨earlier, aborted⟩ (gathers.waits earlier).1 source member

/-- The merged signal aborts with one of its sources, unless somebody aborts it directly. -/
theorem exists_newly (gathers : Gathers before sources target)
    (change : Spread before after before.listenersOf first reason) (other : target ≠ first)
    (newly : Newly before after target) : ∃ source ∈ sources, Newly before after source := by
  obtain ⟨taken, aborted⟩ := isAborted_iff.mp newly.2
  rcases change.traced newly.1 aborted with ⟨same, -⟩ | ⟨source, told, waited, marked, relay, -⟩
  · exact absurd same other
  · exact ⟨source, gathers.only relay, waited, isAborted_iff.mpr ⟨told, marked⟩⟩

theorem reason?_of_newly (gathers : Gathers before sources target)
    (change : Spread before after before.listenersOf first reason) (ascending : before.Ascending)
    (other : target ≠ first) (waiting : before.reason? target = none) {source : SignalId}
    (own : source ∈ sources) {taken : Value} (aborted : after.reason? source = some taken) :
    after.reason? target = some (relayedReason taken) := by
  obtain ⟨-, told⟩ := gathers.waits waiting
  obtain ⟨unaborted, relay⟩ := told source own
  have newly : Newly before after source := ⟨unaborted, isAborted_iff.mpr ⟨taken, aborted⟩⟩
  obtain ⟨reached, marked⟩ := isAborted_iff.mp (change.reaches newly relay)
  rcases change.reason_of_newly ascending waiting marked with ⟨same, -⟩ | passed
  · exact absurd same other
  · rw [marked, passed, change.relayedReason_eq ascending unaborted aborted]

end Spread

end Gathers

end Signals

end BlobStorage
