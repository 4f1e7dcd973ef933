import BlobStorage.Number.Basic

/-!
# Rounding to double precision

A quotient of natural numbers is rounded to the nearest number; a quotient half way between two of
them goes to the one whose last bit is zero.
-/

namespace BlobStorage.Number

/-- The quotient of two natural numbers, rounded to the nearest natural number; a half goes to the
even neighbour. -/
def divideToNearest (numerator denominator : Nat) : Nat :=
  let quotient := numerator / denominator
  let remainder := numerator % denominator
  if 2 * remainder < denominator then quotient
  else if denominator < 2 * remainder then quotient + 1
  else quotient + quotient % 2

/-- The exponent `e` with `2 ^ e ≤ numerator / denominator < 2 ^ (e + 1)`. -/
def binaryExponent (numerator denominator : Nat) : Int :=
  let estimate : Int := (numerator.log2 : Int) - denominator.log2
  let reached :=
    if 0 ≤ estimate then decide (denominator * Nat.pow 2 estimate.toNat ≤ numerator)
    else decide (denominator ≤ numerator * Nat.pow 2 (-estimate).toNat)
  if reached then estimate else estimate - 1

/-- The number nearest to a quotient of natural numbers, with a sign; a quotient below half of the
least number gives a zero, one from the end of the range on gives an infinity. -/
def ofRatio (negative : Bool) (numerator denominator : Nat) : Number :=
  if numerator = 0 ∨ denominator = 0 then
    if negative then negativeZero else zero
  else
    let unit := max (binaryExponent numerator denominator - 52) (-1074)
    let mantissa :=
      if 0 ≤ unit then divideToNearest numerator (denominator * Nat.pow 2 unit.toNat)
      else divideToNearest (numerator * Nat.pow 2 (-unit).toNat) denominator
    if mantissa = 0 then
      if negative then negativeZero else zero
    else
      ofDyadic (.ofIntWithPrec (if negative then -mantissa else mantissa) (-unit))

def ofInt (n : Int) : Number := ofRatio (n < 0) n.natAbs 1

def round : Dyadic → Number
  | .zero => zero
  | .ofOdd odd (.ofNat precision) _ => ofRatio (odd < 0) odd.natAbs (Nat.pow 2 precision)
  | .ofOdd odd (.negSucc shift) _ => ofRatio (odd < 0) (odd.natAbs * Nat.pow 2 (shift + 1)) 1

def add : Number → Number → Number
  | nan, _ | _, nan => nan
  | infinite left, infinite right => if left = right then infinite left else nan
  | infinite negative, _ | _, infinite negative => infinite negative
  | negativeZero, negativeZero => negativeZero
  | left, right =>
      match left.value?, right.value? with
      | some l, some r => round (l + r)
      | _, _ => nan

/-- The number nearest to `digits * 10 ^ exponent`.  Powers far outside the range are not computed:
a decimal whose first digit stands beyond the four hundredth place is an infinity or a zero. -/
def ofDecimal (negative : Bool) (digits : Nat) (exponent : Int) : Number :=
  if digits = 0 then
    if negative then negativeZero else zero
  else
    let first := exponent + (Nat.toDigits 10 digits).length
    if 400 < first then infinite negative
    else if first < -400 then (if negative then negativeZero else zero)
    else if 0 ≤ exponent then ofRatio negative (digits * Nat.pow 10 exponent.toNat) 1
    else ofRatio negative digits (Nat.pow 10 (-exponent).toNat)

end BlobStorage.Number
