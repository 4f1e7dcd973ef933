import BlobStorage.Failure.Match
import BlobStorage.Schema.Reader

/-!
# Validation

A validator is handed a value and answers with a record: `issues` when rules are broken, `value`
otherwise.  It may also throw, or give a promise that is settled later in one of these two ways.
`conclude` turns each of these endings into a value or a failure that lists the issues.
-/

namespace BlobStorage.Validation

/-- Whether an entry makes its record one that is waited for: a function `then`. -/
def isThen : Text × Value → Bool
  | (name, .function) => name == "then"
  | _ => false

/-- Whether a value is waited for before it counts. -/
def isThenable : Value → Bool
  | .record entries => entries.any isThen
  | _ => false

/-- A value as one that counts at once: a function `then` is left out. -/
def withoutThen : Value → Value
  | .record entries => .record (entries.filter fun entry => !isThen entry)
  | value => value

theorem isThenable_withoutThen (value : Value) : isThenable (withoutThen value) = false := by
  cases value with
  | record | failure => simp [isThenable, withoutThen]
  | _ => rfl

/-- What a validator answers with: a value for which nothing has to be waited any more. -/
structure Answer where
  value : Value
  settled : isThenable value = false

def Answer.ofValue (value : Value) : Answer := ⟨withoutThen value, isThenable_withoutThen value⟩

/-- A value that is an answer is taken as it is. -/
theorem Answer.value_ofValue {value : Value} (settled : isThenable value = false) :
    (ofValue value).value = value := by
  cases value with
  | record entries =>
      refine congrArg Value.record (List.filter_eq_self.mpr fun entry member => ?_)
      simpa using List.any_eq_false.mp settled entry member
  | _ => rfl

def Answer.record (entries : List (Text × Value)) : Answer := ofValue (.record entries)

instance : Coe Value Answer := ⟨Answer.ofValue⟩

/-- How a validator ends: it answers or throws at once, or gives a promise that is resolved with an
answer or rejected. -/
inductive Ending where
  | answered (result : Answer)
  | resolved (result : Answer)
  | threw (reason : Value)
  | rejected (reason : Value)

/-- What a validator gives that does not throw: an answer, or a promise and how it is settled. -/
inductive Pending where
  | answer (result : Answer)
  | promise (settled : Completion Answer)

/-- What the call of a validator comes to, before anything is waited for. -/
def Ending.call : Ending → Completion Pending
  | answered result => .returned (.answer result)
  | resolved result => .returned (.promise (.returned result))
  | threw reason => .threw reason
  | rejected reason => .returned (.promise (.threw reason))

/-- What waiting comes to: an answer is there already. -/
def Pending.awaited : Pending → Completion Answer
  | answer result => .returned result
  | promise settled => settled

/-- A failure that lists issues, or the platform's error about issues without a JSON form. -/
def failWith (message : Text) (issues : List Value) (cause : Option Value) : Outcome α :=
  match Failure.validation? message (.list issues) cause with
  | some failure => .failed failure
  | none => .raised .typeError

def invalidData : Text := "error validating data"

def issuesOf : Value → Value
  | .record entries => (Value.entry? "issues" entries).getD .undefined
  | .failure failure => (Failure.issues? failure).getD .undefined
  | _ => .undefined

def valueOf : Value → Value
  | .record entries => (Value.entry? "value" entries).getD .undefined
  | _ => .undefined

/-- The items of a value that can be gone through. -/
def items? : Value → Option (List Value)
  | .list items => some items
  | .string text => some (text.characters.map .string)
  | _ => none

/-- Whether a value is an answer: a record, a list or a failure. -/
def isAnswer : Value → Bool
  | .record _ | .list _ | .failure _ => true
  | _ => false

def concludeAnswer (result : Value) : Outcome Value :=
  if !isAnswer result then failWith "error validation result of wrong type" [] none
  else
    let issues := issuesOf result
    if issues.isTruthy then
      match items? issues with
      | some items => failWith invalidData items none
      | none => .raised .typeError
    else .ok (valueOf result)

/-- What an ending says: the call is guarded, and then the waiting.  A reason that no condition sees
counts as an answer that is missing. -/
def conclude (ending : Ending) : Outcome Value :=
  match ending.call.guarded with
  | .error reason => failWith "error validating on validation start" [] (some reason)
  | .ok pending? =>
      match (pending?.getD (.answer Value.null)).awaited.guarded with
      | .error reason => failWith "error validating async data" [] (some reason)
      | .ok result? => concludeAnswer (result?.getD Value.null).value

/-- A value is checked by a validator. -/
def validate (input : Value) (validator : Value → Ending) : Outcome Value :=
  conclude (validator input)

/-- The reading of a value, or a failure that lists the rules it breaks. -/
def read (reader : Reader α) (value : Value) : Outcome α :=
  match reader [] value with
  | .valid reading => .ok reading
  | .unchecked issues | .invalid issues => failWith invalidData (Issue.toValues issues) none

end BlobStorage.Validation
