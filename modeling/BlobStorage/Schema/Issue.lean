import BlobStorage.Value.Conversion

/-!
# Issues

An issue says which rule a value breaks and where the value stands.  `Issue.toValue` is the record
of an issue as callers see it; its members stand in a fixed order, because failures show issues as
JSON.
-/

namespace BlobStorage

/-- A broken rule and the path to the value that breaks it. -/
inductive Issue where
  | wrongKind (expected received : Text) (path : List Text)
  | notInteger (path : List Text)
  | notPositive (path : List Text)
  | tooShort (minimum : Nat) (path : List Text)
  | malformed (rule message : Text) (path : List Text)
  | noText (options : List Text) (received : Text) (path : List Text)
  | notAmong (options : List Text) (received : Text) (path : List Text)
  | notFalse (received : Value) (path : List Text)
  | noAlternative (attempts : List (List Issue)) (path : List Text)
  | refused (message : Text) (path : List Text)

namespace Issue

def alternatives (options : List Text) : Text :=
  Text.join " | " (options.map fun option => "'" ++ option ++ "'")

/-- The message about a value of another kind than the expected one. -/
def wrongKindMessage (expected received : Text) : Text :=
  if received = "undefined" then "Required"
  else "Expected " ++ expected ++ ", received " ++ received

def message : Issue → Text
  | wrongKind expected received _ => wrongKindMessage expected received
  | notInteger _ => wrongKindMessage "integer" "float"
  | notPositive _ => "Number must be greater than 0"
  | tooShort minimum _ =>
      "String must contain at least " ++ Text.ofNat minimum ++ " character(s)"
  | malformed _ message _ => message
  | noText options received _ => wrongKindMessage (alternatives options) received
  | notAmong options received _ =>
      "Invalid enum value. Expected " ++ alternatives options ++ ", received '" ++ received ++ "'"
  | notFalse _ _ => "Invalid literal value, expected false"
  | noAlternative _ _ => "Invalid input"
  | refused message _ => message

def path : Issue → List Text
  | wrongKind _ _ path | notInteger path | notPositive path | tooShort _ path
  | malformed _ _ path | noText _ _ path | notAmong _ _ path | notFalse _ path
  | noAlternative _ path | refused _ path => path

def textMember (name : String) (text : Text) : Text × Value := (name, .string text)

def pathMember (path : List Text) : Text × Value := ("path", .list (path.map .string))

/-- The members of an issue about a value that is too small. -/
def tooSmall (minimum : Nat) (kind : Text) (inclusive : Bool) (message : Text) (path : List Text) :
    Value :=
  .record [textMember "code" "too_small", ("minimum", Value.ofNat minimum),
    textMember "type" kind, ("inclusive", .boolean inclusive), ("exact", .boolean false),
    textMember "message" message, pathMember path]

mutual

/-- The record of an issue.  Rules about the kind of a value put the path before the message, checks
of a value of the right kind put it behind. -/
def toValue : Issue → Value
  | wrongKind expected received path =>
      .record [textMember "code" "invalid_type", textMember "expected" expected,
        textMember "received" received, pathMember path,
        textMember "message" (wrongKindMessage expected received)]
  | notInteger path =>
      .record [textMember "code" "invalid_type", textMember "expected" "integer",
        textMember "received" "float", textMember "message" (notInteger path).message,
        pathMember path]
  | notPositive path => tooSmall 0 "number" false (notPositive path).message path
  | tooShort minimum path => tooSmall minimum "string" true (tooShort minimum path).message path
  | malformed rule message path =>
      .record [textMember "validation" rule, textMember "code" "invalid_string",
        textMember "message" message, pathMember path]
  | noText options received path =>
      .record [textMember "expected" (alternatives options), textMember "received" received,
        textMember "code" "invalid_type", pathMember path,
        textMember "message" (noText options received path).message]
  | notAmong options received path =>
      .record [textMember "received" received, textMember "code" "invalid_enum_value",
        ("options", .list (options.map .string)), pathMember path,
        textMember "message" (notAmong options received path).message]
  | notFalse received path =>
      .record [("received", received), textMember "code" "invalid_literal",
        ("expected", .boolean false), pathMember path,
        textMember "message" (notFalse received path).message]
  | noAlternative attempts path =>
      .record [textMember "code" "invalid_union", ("unionErrors", .list (attemptValues attempts)),
        pathMember path, textMember "message" "Invalid input"]
  | refused message path =>
      .record [textMember "code" "custom", textMember "message" message, pathMember path]

/-- The records of the attempts at a value of several kinds. -/
def attemptValues : List (List Issue) → List Value
  | [] => []
  | issues :: attempts =>
      .record [("issues", .list (toValues issues)), textMember "name" "ZodError"] ::
        attemptValues attempts

def toValues : List Issue → List Value
  | [] => []
  | issue :: issues => issue.toValue :: toValues issues

end

end Issue

end BlobStorage
