import BlobStorage.Failure.Basic

/-!
# Finding a failure among causes

A failure may stand behind others as their cause, at any depth.  `unwrap?` gives the outermost one
of the chain that counts as one of a class: it belongs to the class, bears the name of the class,
or has a message that starts with that name, as messages do that crossed a boundary as text.
-/

namespace BlobStorage

namespace Failure

/-- Whether the message of a failure is a text that starts with a name that is not empty. -/
def messageStartsWith (name : Text) (failure : Failure) : Bool :=
  match failure.message with
  | some (.string message) => !name.isEmpty && name.isPrefixOf message
  | _ => false

def isNamed (name : Text) (failure : Failure) : Bool :=
  match failure.name with
  | .string own => own == name
  | _ => false

def counts (target : ErrorClass) (failure : Failure) : Bool :=
  failure.kind.isA target || failure.isNamed target.name ||
    failure.messageStartsWith target.name

end Failure

namespace Value

/-- The failures on the chain of causes that starts with a value, the outermost first.  The chain
ends at the first value that is no failure. -/
def causes : Value → List Failure
  | failure ⟨kind, name, message, some cause, detail⟩ =>
      ⟨kind, name, message, some cause, detail⟩ :: cause.causes
  | failure ⟨kind, name, message, none, detail⟩ => [⟨kind, name, message, none, detail⟩]
  | _ => []

/-- The outermost failure of the chain that counts as one of a class. -/
def unwrap? (target : ErrorClass) (value : Value) : Option Failure :=
  value.causes.find? (Failure.counts target)

/-- How many causes deep that failure stands. -/
def unwrapDepth? (target : ErrorClass) (value : Value) : Option Nat :=
  value.causes.findIdx? (Failure.counts target)

/-- Whether the chain holds a failure that counts as one of a class. -/
def isErrorOf (target : ErrorClass) (value : Value) : Bool := (value.unwrap? target).isSome

/-- The issues on a chain of causes: those of the outermost failure that counts as a validation,
which may itself take them from its own causes. -/
def issuesBelow : Value → Value
  | failure ⟨kind, name, message, cause, detail⟩ =>
      let below :=
        match cause with
        | some cause => cause.issuesBelow
        | none => .list []
      if Failure.counts (.request .validation) ⟨kind, name, message, cause, detail⟩ then
        match detail with
        | .issues own => if own.isPresent then own else .list []
        | _ => if kind.isA (.request .responseParse) then below else .list []
      else below
  | _ => .list []

end Value

namespace Failure

/-- The issues that a failure reports: its own, or for a response that could not be decoded those
of the validation among its causes. -/
def issues? (failure : Failure) : Option Value :=
  match failure.detail with
  | .issues list => some list
  | _ =>
      if failure.kind.isA (.request .responseParse) then
        some (match failure.cause with
          | some cause => cause.issuesBelow
          | none => .list [])
      else none

end Failure

end BlobStorage
