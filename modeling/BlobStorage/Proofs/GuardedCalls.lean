import BlobStorage.Response.Basic
import BlobStorage.Schema.Validation

/-!
# What becomes of what a caller's computation throws

The body of a response and the call of a validator are guarded: what they throw is looked at as a
condition before it is reported.  A reason that is truthy is reported as the cause of a failure.
One that is not passes for a computation that went well and gave nothing: the body counts as `null`,
and the answer of the validator counts as one of the wrong type.
-/

namespace BlobStorage

namespace Completion

variable {α : Type} {reason : Value}

@[simp] theorem guarded_returned (value : α) : (returned value).guarded = .ok (some value) := rfl

theorem guarded_threw_of_truthy (truthy : reason.isTruthy) :
    (threw reason : Completion α).guarded = .error reason := if_pos truthy

theorem guarded_threw_of_falsy (falsy : ¬reason.isTruthy) :
    (threw reason : Completion α).guarded = .ok none := if_neg falsy

end Completion

namespace Response

variable {response : Response} {status expected : Number}

/-- What the check of a status is to say: a body that was read goes with the header fields if the
status is the expected one, and with status and header fields into the failure if it is not; and a
body that was not read is a failure with the reason as its cause. -/
def told (status expected : Number) (response : Response) : Outcome Extracted :=
  match response.body with
  | .returned body =>
      if status.equal expected then .ok { headers := response.headers, body }
      else .failed
        (Failure.unexpectedStatus status.toText (.number status) body response.headers)
  | .threw reason => .failed (Failure.transport unreadableBody (some reason))

theorem told_of_returned {read : Value} (body : response.body = .returned read) :
    response.told status expected =
      if status.equal expected then .ok { headers := response.headers, body := read }
      else .failed
        (Failure.unexpectedStatus status.toText (.number status) read response.headers) := by
  rw [told, body]

theorem told_eq_ok_iff {extracted : Extracted} :
    response.told status expected = .ok extracted ↔
      status.equal expected ∧ extracted.headers = response.headers ∧
        response.body = .returned extracted.body := by
  obtain ⟨headers, body⟩ := extracted
  cases read : response.body with
  | returned other =>
      rw [told_of_returned read]
      split
      · rename_i same
        simp [same, eq_comm]
      · rename_i other
        simp [other]
  | threw reason => simp [told, read]

theorem checkStatus_of_seen (answered : response.status = .number status)
    (seen : ∀ reason, response.body = .threw reason → reason.isTruthy) :
    response.checkStatus (.number expected) = response.told status expected := by
  cases body : response.body with
  | returned read =>
      rw [told_of_returned body, checkStatus, body, answered]
      rfl
  | threw reason =>
      rw [checkStatus, body, Completion.guarded_threw_of_truthy (seen reason body), told, body]

theorem checkStatus_of_unseen (answered : response.status = .number status) {reason : Value}
    (threw : response.body = .threw reason) (falsy : ¬reason.isTruthy) :
    response.checkStatus (.number expected) =
      ({ response with body := .returned .null } : Response).told status expected := by
  rw [checkStatus, threw, Completion.guarded_threw_of_falsy falsy, told, answered]
  rfl

/-- The check says what it is to say unless the reading of the body threw a reason that is not
truthy.  Then it says what it would say of a body of `null`; so a response can pass the check
although its body was not read. -/
theorem checkStatus_told (answered : response.status = .number status) (expected : Number) :
    (response.checkStatus (.number expected) = response.told status expected ↔
      ∀ reason, response.body = .threw reason → reason.isTruthy) ∧
    (∀ reason, response.body = .threw reason → ¬reason.isTruthy →
      response.checkStatus (.number expected) =
        ({ response with body := .returned .null } : Response).told status expected) ∧
    ∀ extracted, response.checkStatus (.number expected) = .ok extracted →
      status.equal expected ∧ extracted.headers = response.headers ∧
        (response.body = .returned extracted.body ∨
          extracted.body = .null ∧ ∃ reason, response.body = .threw reason ∧ ¬reason.isTruthy) := by
  refine ⟨⟨?_, checkStatus_of_seen answered⟩, fun reason => checkStatus_of_unseen answered, ?_⟩
  · intro agrees reason threw
    apply Decidable.byContradiction
    intro falsy
    rw [checkStatus_of_unseen answered threw falsy, told_of_returned rfl, told, threw] at agrees
    split at agrees
    · cases agrees
    · have kinds := congrArg FailureOf.kind (Outcome.failed.inj agrees)
      cases kinds
  · intro extracted passed
    by_cases seen : ∀ reason, response.body = .threw reason → reason.isTruthy
    · rw [checkStatus_of_seen answered seen, told_eq_ok_iff] at passed
      obtain ⟨same, headers, body⟩ := passed
      exact ⟨same, headers, .inl body⟩
    · obtain ⟨reason, threw, falsy⟩ : ∃ reason, response.body = .threw reason ∧
          ¬reason.isTruthy := by simpa using seen
      rw [checkStatus_of_unseen answered threw falsy, told_eq_ok_iff] at passed
      obtain ⟨same, headers, body⟩ := passed
      exact ⟨same, headers, .inr ⟨(Completion.returned.inj body).symm, reason, threw, falsy⟩⟩

/-- A body whose reading was aborted with an empty text leaves the answer of one that was `null`,
here with another status than the expected one. -/
theorem checkStatus_told_unread :
    let response : Response :=
      { status := .ofNat 500, headers := .empty, body := .threw (.string []) }
    response.status = .number (.ofInt 500) ∧
      response.checkStatus (.number (.ofInt 202)) =
        ({ response with body := .returned .null } : Response).told (.ofInt 500) (.ofInt 202) := by
  intro response
  have told := @checkStatus_told response (.ofInt 500) rfl (.ofInt 202)
  exact ⟨rfl, told.2.1 (.string []) rfl (by decide)⟩

/-- A response with the expected status whose body was not read, for a reason that is `false`,
passes the check, with no failure to hold that reason. -/
theorem unread_body_passes :
    let response : Response :=
      { status := .ofNat 202, headers := .empty, body := .threw (.boolean false) }
    response.checkStatus (.ofNat 202) = .ok { headers := .empty, body := .null } ∧
      response.checkStatus (.ofNat 202) ≠
        .failed (Failure.transport unreadableBody (some (.boolean false))) := by
  intro response
  have passes : response.checkStatus (.ofNat 202) = .ok { headers := .empty, body := .null } :=
    rfl
  exact ⟨passes, by simp [passes]⟩

end Response

namespace Validation

variable {ending : Ending} {reason result : Value} {outcome : Outcome Value}

/-- What an ending throws, at once or through a promise. -/
def Ending.reason? : Ending → Option Value
  | threw reason | rejected reason => some reason
  | answered _ | resolved _ => none

/-- What an ending yields, at once or through a promise. -/
def Ending.result? : Ending → Option Value
  | answered result | resolved result => some result.value
  | threw _ | rejected _ => none

/-- A validation ends with a failure that holds these issues and this cause. -/
def Reports (outcome : Outcome Value) (issues : List Value) (cause : Option Value) : Prop :=
  ∃ failure : Failure, outcome = .failed failure ∧ failure.kind = .request .validation ∧
    failure.detail = .issues (.list issues) ∧ failure.cause = cause

theorem Reports.cause_unique {issues others : List Value} {cause other : Option Value}
    (first : Reports outcome issues cause) (second : Reports outcome others other) :
    cause = other := by
  obtain ⟨failure, ends, -, -, caused⟩ := first
  obtain ⟨same, alike, -, -, byOther⟩ := second
  cases ends.symm.trans alike
  exact caused.symm.trans byOther

theorem reports_failWith {issues : List Value} (written : Json.write? (.list issues) ≠ none)
    (message : Text) (cause : Option Value) :
    Reports (failWith message issues cause) issues cause := by
  obtain ⟨json, found⟩ := Option.ne_none_iff_exists'.mp written
  simp [Reports, failWith, Failure.validation?, Failure.validationMessage?, found,
    Failure.ofRequest, Failure.withCause, Failure.plain]

theorem reports_failWith_nil (message : Text) (cause : Option Value) :
    Reports (failWith message [] cause) [] cause :=
  reports_failWith (by decide) message cause

theorem concludeAnswer_of_issues {issues : List Value} (answer : isAnswer result)
    (listed : issuesOf result = .list issues) :
    concludeAnswer result = failWith invalidData issues none := by
  simp [concludeAnswer, answer, listed, Value.isTruthy, items?]

theorem concludeAnswer_of_falsy (answer : isAnswer result) (none : ¬(issuesOf result).isTruthy) :
    concludeAnswer result = .ok (valueOf result) := by
  simp [concludeAnswer, answer, none]

theorem reports_concludeAnswer (wrong : ¬isAnswer result) :
    Reports (concludeAnswer result) [] none := by
  rw [concludeAnswer, if_pos (by simpa using wrong)]
  exact reports_failWith_nil _ _

/-- Whether an answer had to be waited for makes no difference. -/
theorem conclude_of_yields (yields : ending.result? = some result) :
    conclude ending = concludeAnswer result := by
  cases ending <;> cases yields <;> rfl

theorem conclude_of_seen (throws : ending.reason? = some reason) (truthy : reason.isTruthy) :
    Reports (conclude ending) [] (some reason) := by
  cases ending with
  | answered | resolved => cases throws
  | threw | rejected =>
      cases throws
      simp only [conclude, Ending.call, Completion.guarded_threw_of_truthy truthy,
        Completion.guarded_returned, Option.getD_some, Pending.awaited]
      exact reports_failWith_nil _ _

theorem conclude_of_unseen (throws : ending.reason? = some reason) (falsy : ¬reason.isTruthy) :
    conclude ending = concludeAnswer .null := by
  cases ending with
  | answered | resolved => cases throws
  | threw | rejected =>
      cases throws
      simp only [conclude, Ending.call, Completion.guarded_threw_of_falsy falsy,
        Completion.guarded_returned, Option.getD_some, Option.getD_none, Pending.awaited]
      rw [Answer.value_ofValue rfl]

/-- What a validator throws or rejects with is the cause of a failure without issues exactly if it
is truthy, and no failure has a cause otherwise.  What it yields is told by its issues, no matter
whether it had to be waited for: a list with a JSON form is reported as it is, a falsy value means
that the value of the answer is delivered, and what is no answer is reported without a cause. -/
theorem validate_reports (input : Value) (validator : Value → Ending) :
    (∀ reason, (validator input).reason? = some reason →
      (Reports (validate input validator) [] (some reason) ↔ reason.isTruthy) ∧
        (¬reason.isTruthy → Reports (validate input validator) [] none)) ∧
    ∀ result, (validator input).result? = some result →
      (isAnswer result →
        (∀ issues, issuesOf result = .list issues → Json.write? (.list issues) ≠ none →
          Reports (validate input validator) issues none) ∧
        (¬(issuesOf result).isTruthy → validate input validator = .ok (valueOf result))) ∧
      (¬isAnswer result → Reports (validate input validator) [] none) ∧
      ∀ other : Value → Ending, (other input).result? = some result →
        validate input other = validate input validator := by
  refine ⟨fun reason throws => ⟨⟨?_, conclude_of_seen throws⟩, ?_⟩, fun result yields => ?_⟩
  · intro reported
    apply Decidable.byContradiction
    intro falsy
    rw [validate, conclude_of_unseen throws falsy] at reported
    have causes := reported.cause_unique (reports_concludeAnswer (by decide))
    cases causes
  · intro falsy
    rw [validate, conclude_of_unseen throws falsy]
    exact reports_concludeAnswer (by decide)
  · have concluded : validate input validator = concludeAnswer result := conclude_of_yields yields
    rw [concluded]
    refine ⟨fun answer => ⟨?_, concludeAnswer_of_falsy answer⟩, reports_concludeAnswer, ?_⟩
    · intro issues listed written
      rw [concludeAnswer_of_issues answer listed]
      exact reports_failWith written _ _
    · intro other alike
      exact conclude_of_yields alike

/-- A validator that rejects with a text, and one that promises a record with an issue. -/
theorem validate_reports_promised :
    Reports (validate .null fun _ => .rejected (.string "late")) [] (some (.string "late")) ∧
      Reports (validate .null fun _ => .resolved (.record [("issues", .list [.null])])) [.null]
        none := by
  have rejected := (validate_reports .null fun _ => .rejected (.string "late")).1 _ rfl
  have resolved := (validate_reports .null fun _ =>
    .resolved (.record [("issues", .list [.null])])).2 _ rfl
  exact ⟨rejected.1.mpr (by decide), (resolved.1 rfl).1 [.null] rfl (by decide)⟩

/-- A validator that throws `false` is reported like one with an answer of the wrong type, with no
cause. -/
theorem thrown_false_unreported :
    let outcome := validate .null fun _ => .threw (.boolean false)
    Reports outcome [] none ∧ ¬Reports outcome [] (some (.boolean false)) := by
  intro outcome
  have wrong : Reports outcome [] none := @reports_concludeAnswer .null (by decide)
  refine ⟨wrong, fun reported => ?_⟩
  have causes := reported.cause_unique wrong
  cases causes

end Validation

end BlobStorage
