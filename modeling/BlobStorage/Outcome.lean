import BlobStorage.Value.Basic

/-!
# How computations end

A caller's computation returns or throws.  An operation of this library delivers a value or reports
a failure; that it throws itself is a third ending, which callers who hand over values of the
declared kinds should never meet.
-/

namespace BlobStorage

/-- The ending of a caller's computation, which may throw anything. -/
inductive Completion (α : Type) where
  | returned (value : α)
  | threw (reason : Value)

/-- The ending of an operation. -/
inductive Outcome (α : Type) where
  | ok (value : α)
  | failed (failure : Failure)
  | raised (reason : Value)

namespace Completion

/-- What a reader of the pair of error and data goes by: an error only if it is truthy.  Without
one the data is that of the computation, which is missing when it threw. -/
def guarded : Completion α → Except Value (Option α)
  | returned value => .ok (some value)
  | threw reason => if reason.isTruthy then .error reason else .ok none

def map (f : α → β) : Completion α → Completion β
  | returned value => returned (f value)
  | threw reason => threw reason

end Completion

namespace Outcome

def map (f : α → β) : Outcome α → Outcome β
  | ok value => ok (f value)
  | failed failure => failed failure
  | raised reason => raised reason

def bind (outcome : Outcome α) (next : α → Outcome β) : Outcome β :=
  match outcome with
  | ok value => next value
  | failed failure => failed failure
  | raised reason => raised reason

instance : Monad Outcome where
  pure := ok
  bind := bind

theorem bind_eq_ok_iff {outcome : Outcome α} {next : α → Outcome β} {result : β} :
    outcome.bind next = ok result ↔ ∃ value, outcome = ok value ∧ next value = ok result := by
  cases outcome <;> simp [bind]

theorem map_eq_ok_iff {outcome : Outcome α} {f : α → β} {result : β} :
    outcome.map f = ok result ↔ ∃ value, outcome = ok value ∧ f value = result := by
  cases outcome <;> simp [map]

/-- What holds of results, and of a computation behind another one if it holds of both, holds of a
computation on each of several items. -/
theorem mapM_induction {α β : Type} (holds : ∀ {γ : Type}, Outcome γ → Prop)
    (result : ∀ {γ : Type} (value : γ), holds (ok value))
    (behind : ∀ {γ δ : Type} {outcome : Outcome γ} {next : γ → Outcome δ}, holds outcome →
      (∀ value, holds (next value)) → holds (outcome.bind next))
    {compute : α → Outcome β} (each : ∀ item, holds (compute item)) (items : List α) :
    holds (items.mapM compute) := by
  have loop : ∀ items done, holds (List.mapM.loop compute items done) := by
    intro items
    induction items with
    | nil => exact fun _ => result _
    | cons item items induction =>
        exact fun done => behind (each item) fun value => induction (value :: done)
  exact loop items []

end Outcome

end BlobStorage
