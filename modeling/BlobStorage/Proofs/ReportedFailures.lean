import BlobStorage.Proofs.DeleteOutcome
import BlobStorage.Proofs.ExchangeStart

/-!
# The failures that a delete reports

`Reported` lists the failures that the delete of a client can end with, with the class of each: one
for each stage that a delete goes through.  Every operation on the way reports nothing else, so no
run does (`reportable_of_deleted`), whatever the transport replies and whatever happens to others.
-/

namespace BlobStorage

namespace Outcome

variable {α β : Type} {kind : Failure → Prop}

/-- Every failure that an outcome reports is of a kind. -/
def Reports (kind : Failure → Prop) (outcome : Outcome α) : Prop :=
  ∀ failure, outcome = .failed failure → kind failure

theorem reports_ok (value : α) : (ok value).Reports kind := fun _ same => nomatch same

theorem reports_raised (reason : Value) : (raised reason : Outcome α).Reports kind :=
  fun _ same => nomatch same

theorem reports_failed {failure : Failure} (own : kind failure) :
    (failed failure : Outcome α).Reports kind := by
  rintro _ ⟨⟩
  exact own

theorem reports_bind {outcome : Outcome α} {next : α → Outcome β} (first : outcome.Reports kind)
    (rest : ∀ value, (next value).Reports kind) : (outcome.bind next).Reports kind := by
  cases outcome with
  | ok value => exact rest value
  | failed failure => exact reports_failed (first failure rfl)
  | raised reason => exact reports_raised reason

theorem reports_map {outcome : Outcome α} (first : outcome.Reports kind) (next : α → β) :
    (outcome.map next).Reports kind := by
  cases outcome with
  | ok value => exact reports_ok _
  | failed failure => exact reports_failed (first failure rfl)
  | raised reason => exact reports_raised reason

theorem reports_mapM {compute : α → Outcome β} (each : ∀ item, (compute item).Reports kind)
    (items : List α) : (items.mapM compute).Reports kind :=
  mapM_induction (·.Reports kind) reports_ok reports_bind each items

end Outcome

section Errors

variable {ε α β : Type} {error : ε}

theorem bind_eq_error {first : Except ε α} {next : α → Except ε β} :
    first >>= next = .error error ↔
      first = .error error ∨ ∃ value, first = .ok value ∧ next value = .error error := by
  cases first <;> simp [bind, Except.bind]

theorem exists_mapM_error {compute : α → Except ε β} {items : List α}
    (failed : items.mapM compute = .error error) :
    ∃ item ∈ items, compute item = .error error := by
  induction items with
  | nil => cases failed
  | cons item items induction =>
      rw [List.mapM_cons] at failed
      obtain own | ⟨value, -, later⟩ := bind_eq_error.mp failed
      · exact ⟨item, List.mem_cons_self, own⟩
      · obtain rest | ⟨values, -, done⟩ := bind_eq_error.mp later
        · obtain ⟨other, member, own⟩ := induction rest
          exact ⟨other, List.mem_cons_of_mem _ member, own⟩
        · cases done

end Errors

open Outcome

namespace Resource

theorem reports_emptyBlobUrl {kind : Failure → Prop} (endpoint container : Value) :
    (emptyBlobUrl endpoint container).Reports kind := by
  unfold emptyBlobUrl
  split
  · exact reports_ok _
  · exact reports_raised _

theorem reports_nameSegments {kind : Failure → Prop} (container blob : Value) :
    (nameSegments container blob).Reports kind := by
  unfold nameSegments
  extract_lets first
  split
  · exact reports_ok _
  · exact reports_ok _
  · exact reports_ok _
  · split
    · exact reports_ok _
    · exact reports_raised _

theorem reports_searchPairs {kind : Failure → Prop} (search : List (Text × Value)) :
    (searchPairs search).Reports kind := by
  refine reports_bind (reports_mapM ?_ _) fun _ => reports_ok _
  intro entry
  split
  · exact reports_ok _
  · exact reports_raised _

/-- A name that cannot be encoded makes the platform raise one of two errors. -/
theorem encodeName_error {name : Value} {failure : Failure}
    (unencodable : encodeName name = .error failure) :
    failure = Failure.ofPlatform .typeError ∨ failure = Failure.ofPlatform .uriError := by
  unfold encodeName at unencodable
  split at unencodable
  · cases unencodable
    exact .inl rfl
  · split at unencodable
    · cases unencodable
    · cases unencodable
      exact .inr rfl

theorem encodeNames_error {container blob : Value} {failure : Failure}
    (unencodable : encodeNames container blob = .error failure) :
    failure = Failure.ofPlatform .typeError ∨ failure = Failure.ofPlatform .uriError := by
  unfold encodeNames at unencodable
  obtain own | ⟨encoded, -, rest⟩ := bind_eq_error.mp unencodable
  · exact encodeName_error own
  · split at rest
    · cases rest
    · obtain segments | ⟨_, -, joined⟩ := bind_eq_error.mp rest
      · obtain ⟨segment, -, own⟩ := exists_mapM_error segments
        exact encodeName_error own
      · cases joined
    · cases rest
      exact .inl rfl

end Resource

namespace DeleteBlob

/-- The failures that a delete reports by itself.  An address fails without a cause, or for an error
of the platform about a text; a response that could not be decoded has the issues as its cause; and
anything can be the cause of a transport that failed. -/
inductive Reported : RequestClass → Failure → Prop where
  | missing (field : Field) : Reported .missingParameter (Failure.missingParameter field.name)
  | address {problem : Resource.Problem} (url : Value)
      (worded : ∀ cause ∈ problem.cause,
        cause = .typeError ∨ cause = .failure (Failure.ofPlatform .uriError)) :
      Reported .constructUrl (Failure.constructUrl problem.message url problem.cause)
  | exchange (message : Text) (cause : Option Value) :
      Reported .transport (Failure.transport message cause)
  | status (text : Text) (status body : Value) (headers : Headers) :
      Reported .unexpectedStatus (Failure.unexpectedStatus text status body headers)
  | response {issues : Value} {invalid : Failure}
      (listed : Failure.validation? Validation.invalidData issues none = some invalid) :
      Reported .responseParse
        (Failure.responseParse Response.unreadableHeaders (some (.failure invalid)))

def Reportable (failure : Failure) : Prop := ∃ own, Reported own failure

theorem reports_report {α : Type} {problem : Resource.Problem} (url : Value)
    (worded : ∀ cause ∈ problem.cause,
      cause = .typeError ∨ cause = .failure (Failure.ofPlatform .uriError)) :
    (problem.report url : Outcome α).Reports Reportable :=
  reports_failed ⟨_, .address url worded⟩

theorem reports_uri (endpoint : Value) (parameters : Parameters) :
    (uri endpoint parameters).Reports Reportable := by
  unfold uri Resource.uri
  split
  · exact reports_report _ (by simp [Resource.Problem.cause])
  · rename_i url parsed
    split
    · rename_i problem found
      refine reports_report _ ?_
      unfold Resource.endpointProblem? at found
      split at found
      · cases found
        simp [Resource.Problem.cause]
      · split at found
        · cases found
          simp [Resource.Problem.cause]
        · cases found
    · split
      · exact reports_report _ (by simp [Resource.Problem.cause])
      · split
        · refine reports_bind (Resource.reports_emptyBlobUrl _ _) fun _ => ?_
          exact reports_report _ (by simp [Resource.Problem.cause])
        · refine reports_bind (Resource.reports_nameSegments _ _) fun segments => ?_
          split
          · exact reports_report _ (by simp [Resource.Problem.cause])
          · split
            · rename_i failure unencodable
              refine reports_report _ ?_
              rintro _ ⟨⟩
              rcases Resource.encodeNames_error unencodable with rfl | rfl
              · exact .inl rfl
              · exact .inr rfl
            · exact reports_map (Resource.reports_searchPairs _) _

theorem reports_addHeaders {kind : Failure → Prop} (parameters : Parameters) (headers : Headers) :
    (addHeaders parameters headers).Reports kind := by
  have field : ∀ name value headers, (setField name value headers).Reports kind := by
    intro name value headers
    rcases setField_raised name value headers with ⟨next, same⟩ | same
    · exact same ▸ reports_ok _
    · exact same ▸ reports_raised _
  have optional : ∀ name value headers, (setOptionalField name value headers).Reports kind := by
    intro name value headers
    rcases setOptionalField_raised name value headers with ⟨next, same⟩ | same
    · exact same ▸ reports_ok _
    · exact same ▸ reports_raised _
  exact reports_bind (field _ _ _) fun _ =>
    reports_bind (optional _ _ _) fun _ => optional _ _ _

theorem reports_resolve {κ : Type} (builder : Builder κ) : builder.resolve.Reports Reportable := by
  unfold Builder.resolve
  split
  · rename_i field unresolved
    exact reports_failed ⟨_, .missing field⟩
  · exact reports_ok _

theorem reports_prepare {κ : Type} (builder : Builder κ) (endpoint : Text) :
    (prepare builder endpoint).Reports Reportable := by
  refine reports_bind (reports_resolve builder) fun parameters => ?_
  have request : (request (.string endpoint) parameters).Reports Reportable :=
    reports_bind (reports_uri _ _) fun _ => reports_bind (reports_addHeaders _ _) fun _ =>
      reports_ok _
  exact reports_bind request fun _ => reports_ok _

theorem reports_checkReply (reply : Option Reply) : (checkReply reply).Reports Reportable := by
  unfold checkReply
  split
  · unfold BlobStorage.Response.checkStatus
    split
    · exact reports_failed ⟨_, .exchange ..⟩
    · dsimp only
      split
      · exact reports_ok _
      · unfold BlobStorage.Response.unexpected
        split
        · exact reports_failed ⟨_, .status ..⟩
        · exact reports_raised _
  · exact reports_failed ⟨_, .exchange ..⟩

theorem reports_ofHeaders (headers : Headers) :
    (Response.ofHeaders headers).Reports Reportable := by
  have listed : ∀ (value : Value) failure,
      Validation.read Response.reader value = .failed failure →
        ∃ issues, Failure.validation? Validation.invalidData issues none = some failure := by
    intro value failure broken
    unfold Validation.read Validation.failWith at broken
    split at broken
    · cases broken
    all_goals
      split at broken
      · rename_i invalid found
        cases broken
        exact ⟨_, found⟩
      · cases broken
  unfold Response.ofHeaders
  dsimp only
  split
  · exact reports_ok _
  · rename_i failure broken
    obtain ⟨issues, found⟩ := listed _ _ broken
    exact reports_failed ⟨_, .response found⟩
  · exact reports_raised _

theorem reports_afterBody (parameters : Parameters) (reply : Option Reply) :
    (afterBody parameters reply).2.Reports Reportable := by
  have checked := reports_checkReply reply
  unfold afterBody
  cases same : checkReply reply with
  | ok extracted => exact reports_ofHeaders _
  | failed failure => exact reports_failed (checked failure same)
  | raised reason => exact reports_raised _

end DeleteBlob

namespace Stage

variable {κ : Type}

/-- A stage of a delete that leaves nothing to others and has reported nothing else. -/
def Reports (kind : Failure → Prop) : Stage → Prop
  | .delegated _ => False
  | .deleted outcome => outcome.Reports kind
  | _ => True

theorem reports_afterConclusion {kind : Failure → Prop} {conclusion : Conclusion}
    (transport : ∀ failure, conclusion = .failed failure →
      failure.kind = .request .transport ∧ kind failure) (purpose : Purpose) :
    (afterConclusion purpose conclusion).Reports kind := by
  cases purpose with
  | exchange => cases conclusion <;> trivial
  | delete parameters =>
      cases conclusion with
      | replied reply => trivial
      | failed failure =>
          obtain ⟨own, reported⟩ := transport failure rfl
          have same : DeleteBlob.exchangeFailure (.failure failure) = failure := by
            simp [DeleteBlob.exchangeFailure, own, ErrorClass.isA]
          exact reports_failed (same.symm ▸ reported)

theorem reports_concluded (exchange : Exchange) (world : World) (completion : Completion Reply)
    (purpose : Purpose) :
    (afterConclusion purpose (exchange.conclude world completion).2.2).Reports
      DeleteBlob.Reportable := by
  refine reports_afterConclusion ?_ purpose
  unfold Exchange.conclude
  intro failure failed
  cases guarded : completion.guarded with
  | ok reply =>
      rw [guarded] at failed
      cases failed
  | error reason =>
      rw [guarded] at failed
      cases failed
      exact ⟨rfl, _, .exchange ..⟩

/-- No event makes a delete report anything else. -/
theorem reports_after {stage : Stage} (clean : stage.Reports DeleteBlob.Reportable) (world : World)
    (id : CallId) (event : Event κ) :
    (stage.after world id event).Reports DeleteBlob.Reportable := by
  cases event with
  | settle call completion =>
      simp only [after]
      split
      · split
        · exact reports_concluded ..
        · exact clean
      · exact clean
  | conclude call ending =>
      simp only [after]
      split
      · exact clean.elim
      · exact clean
  | readBody call =>
      simp only [after]
      split
      · split
        · exact DeleteBlob.reports_afterBody _ _
        · exact clean
      · exact clean
  | _ => exact clean

end Stage

namespace DeleteBlob

variable {κ : Type}

theorem reports_delete (traffic : Traffic) (client : Client) (builder : Builder κ)
    (caller : Option SignalId) :
    ∃ stage : Stage, (traffic.delete client builder caller).1.stage? traffic.calls.length =
        some stage ∧ stage.Reports Reportable := by
  have prepared := reports_prepare builder client.blobEndpoint
  unfold Traffic.delete
  split
  · rename_i failure refused
    exact ⟨_, stage?_add traffic traffic.world _, reports_failed (prepared failure refused)⟩
  · exact ⟨_, stage?_add traffic traffic.world _, reports_raised _⟩
  · rename_i parameters request described
    simp only [Traffic.exchange_eq]
    split
    · rename_i reason refused
      have reports : Stage.Reports Reportable (.afterConclusion (.delete parameters) (.failed
          (Failure.transport (Exchange.refusedMessage request.verb) (some reason)))) := by
        refine Stage.reports_afterConclusion ?_ _
        rintro _ ⟨⟩
        exact ⟨rfl, _, .exchange ..⟩
      exact ⟨_, stage?_add traffic traffic.world _, reports⟩
    · exact ⟨_, stage?_add traffic traffic.world _, reports_raised _⟩
    · exact ⟨_, stage?_add traffic _ _, reports_raised _⟩
    · exact ⟨_, stage?_add traffic _ _, trivial⟩

/-- The failures that a delete of a client ends with. -/
theorem reportable_of_deleted (before : History) (client : Client) (builder : Builder κ)
    (caller : Option SignalId) (later : List (Event κ)) {failure : Failure}
    (ended : (before.run (.delete client builder caller :: later)).traffic.stage?
      before.traffic.calls.length = some (.deleted (.failed failure))) : Reportable failure := by
  have along : ∀ (events : List (Event κ)) (history : History) (stage : Stage),
      history.traffic.stage? before.traffic.calls.length = some stage →
      stage.Reports Reportable →
        ∃ last : Stage, (history.run events).traffic.stage? before.traffic.calls.length =
          some last ∧ last.Reports Reportable := by
    intro events
    induction events with
    | nil => exact fun history stage found clean => ⟨stage, found, clean⟩
    | cons event events induction =>
        intro history stage found clean
        exact induction _ _ (History.stage?_step found event) (Stage.reports_after clean ..)
  obtain ⟨first, found, clean⟩ := reports_delete before.traffic client builder caller
  have started : (before.step (.delete client builder caller)).traffic.stage?
      before.traffic.calls.length = some first := found
  obtain ⟨last, same, reports⟩ := along later _ first started clean
  rw [History.run_cons, same] at ended
  cases ended
  exact reports failure rfl

end DeleteBlob

end BlobStorage
