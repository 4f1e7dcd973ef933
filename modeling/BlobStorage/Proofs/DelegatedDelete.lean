import BlobStorage.Proofs.DeleteOutcome
import BlobStorage.Proofs.SentRequest

/-!
# Deletes whose exchange others carry out

A delete may leave its exchange to others.  It waits until they are done: an error that they report
becomes a failure of the transport, and a reply is read.  If they break off, the delete breaks off
with them, for their own reason.
-/

namespace BlobStorage

namespace History

variable {κ : Type}

theorem stage?_run_of_delegated {history : History} {id : CallId}
    {parameters : DeleteBlob.Parameters}
    (found : history.traffic.stage? id = some (.delegated parameters)) {events : List (Event κ)}
    (pending : ∀ ending, .conclude id ending ∉ events) :
    (history.run events).traffic.stage? id = some (.delegated parameters) := by
  induction events generalizing history with
  | nil => exact found
  | cons event events induction =>
      have same : (Stage.delegated parameters).after history.traffic.world id event =
          .delegated parameters := by
        cases event with
        | conclude call ending =>
            have different : call ≠ id := by
              rintro rfl
              exact pending ending List.mem_cons_self
            simp [Stage.after, different]
        | _ => rfl
      exact induction (same ▸ stage?_step found event)
        fun ending member => pending ending (List.mem_cons_of_mem _ member)

end History

namespace DeleteBlob

section Delegated

variable {κ : Type} {builder : Builder κ} {endpoint : Text} {request : Request}

theorem delegate_waits (described : builder.toRequest (.string endpoint) = .ok request)
    (traffic : Traffic) (caller : Option SignalId) :
    (traffic.delegate endpoint builder caller).2.2 = some request ∧
      (traffic.delegate endpoint builder caller).1.stage? traffic.calls.length =
        some (.delegated builder.heldParameters) := by
  unfold Traffic.delegate
  rw [prepare_of_toRequest described]
  exact ⟨rfl, stage?_add traffic traffic.world _⟩

/-- What the others end with decides how the delete goes on. -/
theorem delegate_goes_on (described : builder.toRequest (.string endpoint) = .ok request)
    (before : History) (caller : Option SignalId) (early : List (Event κ))
    (pending : ∀ other, .conclude before.traffic.calls.length other ∉ early)
    (ending : Performed) :
    ((before.run (.delegate endpoint builder caller ::
        (early ++ [.conclude before.traffic.calls.length ending]))).traffic.stage?
          before.traffic.calls.length) =
      some (.afterPerformed builder.heldParameters ending) := by
  have waits : (before.step (.delegate endpoint builder caller)).traffic.stage?
      before.traffic.calls.length = some (.delegated builder.heldParameters) :=
    (delegate_waits described before.traffic caller).2
  have still := History.stage?_run_of_delegated waits pending
  have concluded := History.stage?_step still
    (.conclude before.traffic.calls.length ending : Event κ)
  simp only [Stage.after, if_true] at concluded
  rw [History.run_cons, History.run_append]
  exact concluded

/-- What a delete ends with when the exchange that it left to others ends without a reply.  An error
that they report is the failure of the delete if it is one of the transport, and else the cause of
one.  If they break off, the delete raises their reason as it is. -/
theorem delegated_exchange_fails
    (described : builder.toRequest (.string endpoint) = .ok request) (before : History)
    (caller : Option SignalId) (early : List (Event κ))
    (pending : ∀ other, .conclude before.traffic.calls.length other ∉ early) (ending : Performed)
    (later : List (Event κ)) :
    let ended := before.run (.delegate endpoint builder caller ::
      (early ++ .conclude before.traffic.calls.length ending :: later))
    (∀ error : Failure, ending = .failed (.failure error) →
      ∃ failure, ended.traffic.stage? before.traffic.calls.length =
          some (.deleted (.failed failure)) ∧
        (error.kind.isA (.request .transport) → failure = error) ∧
        (¬ error.kind.isA (.request .transport) → failure =
          Failure.transport "error performing delete blob request" (some (.failure error)))) ∧
    ∀ reason, ending = .broke reason →
      ended.traffic.stage? before.traffic.calls.length = some (.deleted (.raised reason)) := by
  intro ended
  have goesOn := delegate_goes_on described before caller early pending ending
  have stays : ∀ outcome : Outcome Response,
      Stage.afterPerformed builder.heldParameters ending = .deleted outcome →
        ended.traffic.stage? before.traffic.calls.length = some (.deleted outcome) := by
    intro outcome settled
    rw [settled] at goesOn
    have last := History.stage?_run_of_isEnded goesOn rfl later
    rw [← History.run_append, List.cons_append, List.append_assoc] at last
    exact last
  constructor
  · rintro error rfl
    refine ⟨exchangeFailure (.failure error), stays _ rfl, ?_, ?_⟩
    · intro own
      simp [exchangeFailure, own]
    · intro other
      simp [exchangeFailure, other]
  · rintro reason rfl
    exact stays _ rfl

end Delegated

/-- An error as transports throw it when a connection is lost. -/
def lostConnection : Failure := Failure.plain (.platform .error) "socket hang up"

theorem described_sampleBuilder : ∃ request,
    sampleBuilder.toRequest (.string "https://account1.example") = .ok request := by
  have made :
      (sampleBuilder.toRequest (.string "https://account1.example")).toOption.isSome := by
    decide +kernel
  obtain ⟨request, described⟩ := Option.isSome_iff_exists.mp made
  exact ⟨request, Outcome.toOption_eq_some_iff.mp described⟩

theorem delegated_exchange_fails_reported :
    ((History.start .zero).run (.delegate "https://account1.example" sampleBuilder none ::
        ([.signal] ++ .conclude 0 (.failed (.failure lostConnection)) ::
          [.readBody 0]))).traffic.stage? 0 =
      some (.deleted (.failed (Failure.transport "error performing delete blob request"
        (some (.failure lostConnection))))) := by
  obtain ⟨request, described⟩ := described_sampleBuilder
  obtain ⟨failure, ended, -, wrapped⟩ :=
    (delegated_exchange_fails described (History.start .zero) none [.signal] (by simp)
      (.failed (.failure lostConnection)) [.readBody 0]).1 lostConnection rfl
  rw [← wrapped (by decide)]
  exact ended

/-- Others break off with an error that they should have reported: the delete raises it, and there
is no failure of the transport. -/
theorem delegated_exchange_breaks_off :
    (∃ request, sampleBuilder.toRequest (.string "https://account1.example") = .ok request) ∧
      ((History.start .zero).run [.delegate "https://account1.example" sampleBuilder none,
          .conclude 0 (.broke (.failure lostConnection))]).traffic.stage? 0 =
        some (.deleted (.raised (.failure lostConnection))) := by
  obtain ⟨request, described⟩ := described_sampleBuilder
  exact ⟨⟨request, described⟩, delegate_goes_on described (History.start .zero) none [] (by simp) _⟩

end DeleteBlob

end BlobStorage
