/-!
# Numbers of double precision

The numbers that parameters, settings and clocks are made of: every dyadic rational that double
precision holds, two infinities, a zero with a sign, and the value of a failed reading.  A finite
number carries the proof that it fits, so no operation can leave the format.
-/

namespace BlobStorage

/-- Fifty-three significant bits, the last of them worth at least `2 ^ -1074` and the first less
than `2 ^ 1024`. -/
def Representable : Dyadic → Prop
  | .zero => True
  | .ofOdd odd precision _ =>
      odd.natAbs < Nat.pow 2 53 ∧ precision ≤ 1074 ∧ (odd.natAbs.log2 : Int) - precision < 1024

instance : DecidablePred Representable
  | .zero => .isTrue trivial
  | .ofOdd odd precision _ =>
      inferInstanceAs <| Decidable <|
        odd.natAbs < Nat.pow 2 53 ∧ precision ≤ 1074 ∧ (odd.natAbs.log2 : Int) - precision < 1024

/-- A number of double precision. -/
inductive Number where
  | nan
  | infinite (negative : Bool)
  | negativeZero
  | finite (value : Dyadic) (fits : Representable value)
  deriving DecidableEq

namespace Number

def zero : Number := finite 0 trivial

instance : Inhabited Number := ⟨zero⟩

/-- A dyadic rational as a number; one that does not fit is beyond the largest number. -/
def ofDyadic (value : Dyadic) : Number :=
  if fits : Representable value then finite value fits else infinite (value < 0)

/-- The exact value of a finite number. -/
def value? : Number → Option Dyadic
  | finite value _ => some value
  | negativeZero => some 0
  | nan | infinite _ => none

def dyadicInt? : Dyadic → Option Int
  | .zero => some 0
  | .ofOdd odd (.ofNat 0) _ => some odd
  | .ofOdd _ (.ofNat (_ + 1)) _ => none
  | .ofOdd odd (.negSucc shift) _ => some (odd * Int.pow 2 (shift + 1))

def toInt? (number : Number) : Option Int := number.value?.bind dyadicInt?

/-- A finite number without a fraction. -/
def isInteger (number : Number) : Bool := number.toInt?.isSome

/-- An integer of at most fifty-three bits: no other integer rounds to it. -/
def isSafeInteger (number : Number) : Bool :=
  match number.toInt? with
  | some n => n.natAbs < Nat.pow 2 53
  | none => false

/-- A number that every comparison treats as zero. -/
def isZero (number : Number) : Bool := number.value? == some 0

/-- The order of numbers; nothing compares with a failed reading, and both zeros are equal. -/
def less : Number → Number → Bool
  | nan, _ | _, nan => false
  | infinite true, other => other != infinite true
  | infinite false, _ => false
  | _, infinite negative => !negative
  | left, right =>
      match left.value?, right.value? with
      | some l, some r => l < r
      | _, _ => false

def isPositive (number : Number) : Bool := less zero number

def isNegative (number : Number) : Bool := less number zero

/-- Equality as a comparison sees it: both zeros are equal, a failed reading equals nothing. -/
def equal (left right : Number) : Bool :=
  if left.isZero then right.isZero else left == right && left != nan

end Number

end BlobStorage
