import BlobStorage.Proofs.BuilderAnswers
import BlobStorage.Proofs.ExchangeStart

/-!
# Which outcomes report a missing parameter

`missing?` is what an outcome says of a missing parameter, whether it reports it or raises it.  Only
the check of the parameters says anything of that kind: no address, no header field, no exchange and
no response does.  So a delete whose parameters are there never ends with such a report, unless
others who carry out its exchange break off with one.
-/

namespace BlobStorage

namespace ErrorClass

theorem isA_request_iff {kind : ErrorClass} {which : RequestClass} :
    kind.isA (.request which) ↔ kind.request? = some which := by
  induction kind with
  | platform platform => simp [isA, request?]
  | request own => simp [isA, request?]
  | custom identity name parent induction => simpa [isA, request?] using induction

theorem isA_missingParameter_eq_false {kind : ErrorClass} {which : RequestClass}
    (own : kind.request? = some which) (other : which ≠ .missingParameter) :
    kind.isA (.request .missingParameter) = false := by
  rw [Bool.eq_false_iff, ne_eq, isA_request_iff, own]
  exact fun same => other (Option.some.inj same)

end ErrorClass

namespace Outcome

variable {α β : Type}

/-- The report of a missing parameter that an outcome is. -/
def missing? : Outcome α → Option Failure
  | .failed failure | .raised (.failure failure) =>
      if failure.kind.isA (.request .missingParameter) then some failure else none
  | _ => none

@[simp] theorem missing?_ok (value : α) : (ok value).missing? = none := rfl

theorem missing?_failed {failure : Failure} {which : RequestClass}
    (own : failure.kind.request? = some which) (other : which ≠ .missingParameter) :
    (failed failure : Outcome α).missing? = none := by
  rw [missing?, ErrorClass.isA_missingParameter_eq_false own other]
  rfl

/-- A reason that is raised is the same report whatever was to be computed. -/
theorem missing?_raised (reason : Value) :
    (raised reason : Outcome α).missing? = (raised reason : Outcome β).missing? := by
  cases reason <;> rfl

theorem missing?_bind {outcome : Outcome α} {next : α → Outcome β}
    (first : outcome.missing? = none) (rest : ∀ value, (next value).missing? = none) :
    (outcome.bind next).missing? = none := by
  cases outcome with
  | ok value => exact rest value
  | failed failure => exact first
  | raised reason => exact (missing?_raised reason).trans first

theorem missing?_map {outcome : Outcome α} (first : outcome.missing? = none) (next : α → β) :
    (outcome.map next).missing? = none := by
  cases outcome with
  | ok value => rfl
  | failed failure => exact first
  | raised reason => exact (missing?_raised reason).trans first

theorem missing?_mapM {compute : α → Outcome β} (each : ∀ item, (compute item).missing? = none)
    (items : List α) : (items.mapM compute).missing? = none :=
  mapM_induction (·.missing? = none) missing?_ok missing?_bind each items

end Outcome

namespace Resource

theorem missing?_emptyBlobUrl (endpoint container : Value) :
    (emptyBlobUrl endpoint container).missing? = none := by
  unfold emptyBlobUrl
  split <;> rfl

theorem missing?_nameSegments (container blob : Value) :
    (nameSegments container blob).missing? = none := by
  unfold nameSegments
  extract_lets first
  split
  · rfl
  · rfl
  · rfl
  · split <;> rfl

theorem missing?_searchPairs (search : List (Text × Value)) :
    (searchPairs search).missing? = none := by
  refine Outcome.missing?_bind (Outcome.missing?_mapM ?_ _) fun _ => rfl
  intro entry
  split <;> rfl

end Resource

namespace DeleteBlob

theorem missing?_uri (endpoint : Value) (parameters : Parameters) :
    (uri endpoint parameters).missing? = none := by
  unfold uri Resource.uri
  split
  · rfl
  · split
    · rfl
    · split
      · rfl
      · split
        · exact Outcome.missing?_bind (Resource.missing?_emptyBlobUrl ..) fun _ => rfl
        · refine Outcome.missing?_bind (Resource.missing?_nameSegments ..) fun segments => ?_
          split
          · rfl
          · split
            · rfl
            · exact Outcome.missing?_map (Resource.missing?_searchPairs _) _

theorem missing?_addHeaders (parameters : Parameters) (headers : Headers) :
    (addHeaders parameters headers).missing? = none := by
  have field : ∀ name value headers, (setField name value headers).missing? = none := by
    intro name value headers
    rcases setField_raised name value headers with ⟨next, same⟩ | same <;> rw [same] <;> rfl
  have optional : ∀ name value headers, (setOptionalField name value headers).missing? = none := by
    intro name value headers
    rcases setOptionalField_raised name value headers with ⟨next, same⟩ | same <;> rw [same] <;> rfl
  exact Outcome.missing?_bind (field ..) fun _ =>
    Outcome.missing?_bind (optional ..) fun _ => optional ..

theorem missing?_request (endpoint : Value) (parameters : Parameters) :
    (request endpoint parameters).missing? = none :=
  Outcome.missing?_bind (missing?_uri ..) fun _ =>
    Outcome.missing?_bind (missing?_addHeaders ..) fun _ => rfl

namespace Builder

variable {κ : Type}

theorem resolve_of_resolved {builder : Builder κ} (resolved : builder.unresolved? = none) :
    builder.resolve = .ok builder.heldParameters := by
  unfold resolve
  rw [resolved]
  rfl

theorem missing?_toRequest (builder : Builder κ) (endpoint : Value) :
    (builder.toRequest endpoint).missing? =
      builder.unresolved?.map fun field => Failure.missingParameter field.name := by
  cases unresolved : builder.unresolved? with
  | some field =>
      rw [toRequest_of_unresolved unresolved]
      rfl
  | none =>
      unfold toRequest
      rw [resolve_of_resolved unresolved]
      exact missing?_request ..

end Builder

theorem request?_exchangeFailure (error : Value) :
    (exchangeFailure error).kind.request? = some .transport := by
  unfold exchangeFailure
  split
  · split
    · rename_i failure own
      exact ErrorClass.isA_request_iff.mp own
    · rfl
  · rfl

theorem missing?_exchangeFailure (error : Value) :
    (.failed (exchangeFailure error) : Outcome Response).missing? = none :=
  Outcome.missing?_failed (request?_exchangeFailure error) (by decide)

theorem missing?_checkReply (reply : Option Reply) : (checkReply reply).missing? = none := by
  unfold checkReply
  split
  · unfold BlobStorage.Response.checkStatus
    split
    · rfl
    · dsimp only
      split
      · rfl
      · unfold BlobStorage.Response.unexpected
        split <;> rfl
  · rfl

theorem missing?_afterBody (parameters : Parameters) (reply : Option Reply) :
    (afterBody parameters reply).2.missing? = none := by
  have checked := missing?_checkReply reply
  unfold afterBody
  cases same : checkReply reply with
  | ok extracted =>
      rcases Response.ofHeaders_total extracted.headers with
        ⟨response, decoded⟩ | ⟨failure, kind, undecoded⟩
      · simp only [decoded, Outcome.missing?_ok]
      · simp only [undecoded]
        have own : failure.kind.request? = some .responseParse := by rw [kind]; rfl
        exact Outcome.missing?_failed own (by decide)
  | failed failure =>
      rw [same] at checked
      exact checked
  | raised reason =>
      rw [same] at checked
      exact (Outcome.missing?_raised reason).trans checked

end DeleteBlob

namespace Stage

variable {κ : Type}

/-- The report of a missing parameter that a delete has ended with. -/
def missing? : Stage → Option Failure
  | .deleted outcome => outcome.missing?
  | _ => none

theorem missing?_afterPerformed {ending : DeleteBlob.Performed}
    (honest : ∀ reason, ending = .broke reason →
      (.raised reason : Outcome DeleteBlob.Response).missing? = none)
    (parameters : DeleteBlob.Parameters) : (afterPerformed parameters ending).missing? = none := by
  cases ending with
  | replied reply => rfl
  | failed error => exact DeleteBlob.missing?_exchangeFailure error
  | broke reason => exact honest reason rfl

theorem missing?_afterConclusion (purpose : Purpose) (conclusion : Conclusion) :
    (afterConclusion purpose conclusion).missing? = none := by
  cases purpose with
  | exchange => cases conclusion <;> rfl
  | delete parameters =>
      refine missing?_afterPerformed ?_ parameters
      intro reason same
      cases conclusion <;> cases same

/-- A delete comes to such a report by itself at no event. -/
theorem missing?_after {stage : Stage} (clean : stage.missing? = none) (world : World) (id : CallId)
    (event : Event κ)
    (honest : ∀ parameters reason, stage = .delegated parameters →
      event = .conclude id (.broke reason) →
        (.raised reason : Outcome DeleteBlob.Response).missing? = none) :
    (stage.after world id event).missing? = none := by
  cases event with
  | settle call completion =>
      simp only [after]
      split
      · split
        · exact missing?_afterConclusion ..
        · exact clean
      · exact clean
  | conclude call ending =>
      simp only [after]
      split
      · rename_i parameters
        split
        · rename_i own
          refine missing?_afterPerformed ?_ parameters
          rintro reason rfl
          exact honest parameters reason rfl (own ▸ rfl)
        · exact clean
      · exact clean
  | readBody call =>
      simp only [after]
      split
      · split
        · exact DeleteBlob.missing?_afterBody ..
        · exact clean
      · exact clean
  | _ => exact clean

theorem eq_delegated_of_after {stage : Stage} {world : World} {id : CallId} {event : Event κ}
    {parameters : DeleteBlob.Parameters}
    (delegated : stage.after world id event = .delegated parameters) :
    stage = .delegated parameters := by
  have performed : ∀ parameters' ending,
      afterPerformed parameters' ending ≠ .delegated parameters := by
    intro parameters' ending
    unfold afterPerformed
    split <;> simp
  have concluded : ∀ purpose conclusion,
      afterConclusion purpose conclusion ≠ .delegated parameters := by
    intro purpose conclusion
    cases purpose with
    | exchange => cases conclusion <;> simp [afterConclusion]
    | delete parameters' => exact performed parameters' _
  cases event with
  | settle call completion =>
      simp only [after] at delegated
      split at delegated
      · split at delegated
        · exact absurd delegated (concluded _ _)
        · exact delegated
      · exact delegated
  | conclude call ending =>
      simp only [after] at delegated
      split at delegated
      · split at delegated
        · exact absurd delegated (performed _ _)
        · exact delegated
      · exact delegated
  | readBody call =>
      simp only [after] at delegated
      split at delegated
      · split at delegated
        · cases delegated
        · exact delegated
      · exact delegated
  | _ => exact delegated

end Stage

namespace History

variable {κ : Type}

/-- A delete that has not ended with such a report does not come to one along a run. -/
theorem missing?_run {history : History} {id : CallId} {stage : Stage}
    (found : history.traffic.stage? id = some stage) (clean : stage.missing? = none)
    {events : List (Event κ)}
    (honest : ∀ parameters reason, stage = .delegated parameters →
      .conclude id (.broke reason) ∈ events →
        (.raised reason : Outcome DeleteBlob.Response).missing? = none) :
    ((history.run events).traffic.stage? id).bind Stage.missing? = none := by
  induction events generalizing history stage with
  | nil =>
      change (history.traffic.stage? id).bind Stage.missing? = none
      rw [found]
      exact clean
  | cons event events induction =>
      have next := Stage.missing?_after clean history.traffic.world id event
        fun parameters reason delegated same =>
          honest parameters reason delegated (same ▸ List.mem_cons_self)
      refine induction (stage?_step found event) next ?_
      intro parameters reason delegated member
      exact honest parameters reason (Stage.eq_delegated_of_after delegated)
        (List.mem_cons_of_mem _ member)

end History

end BlobStorage
