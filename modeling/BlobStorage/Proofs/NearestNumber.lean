import Mathlib.Algebra.Group.Int.Defs
import Mathlib.Algebra.Group.Nat.Defs
import BlobStorage.Number.Decimal
import BlobStorage.Proofs.ClockTime

/-!
# The whole numbers that round to a number

A number of more than fifty-three bits is a mantissa of fifty-three bits times a power of two.  The
whole numbers in its rounding interval are nearest to it.
-/

namespace BlobStorage.Number

/-- A multiple is one of the two around another place, or at least one further off. -/
theorem multiple_cases (multiple quotient denominator : Nat) :
    multiple * denominator + denominator ≤ quotient * denominator ∨ multiple = quotient ∨
      multiple = quotient + 1 ∨
        quotient * denominator + 2 * denominator ≤ multiple * denominator := by
  rcases Nat.lt_or_ge multiple quotient with below | above
  · left
    rw [← Nat.succ_mul]
    exact Nat.mul_le_mul_right denominator below
  · rcases Nat.lt_or_ge (quotient + 1) multiple with far | near
    · right; right; right
      rw [← Nat.add_mul]
      exact Nat.mul_le_mul_right denominator far
    · omega

/-- A quotient is rounded to what it differs from by at most a half, and by a half only if that is
even. -/
theorem divideToNearest_eq {numerator denominator nearest : Nat} (positive : 0 < denominator)
    (lower : 2 * (nearest * denominator) ≤ 2 * numerator + denominator)
    (upper : 2 * numerator ≤ 2 * (nearest * denominator) + denominator)
    (even : 2 * (nearest * denominator) = 2 * numerator + denominator ∨
      2 * numerator = 2 * (nearest * denominator) + denominator → nearest % 2 = 0) :
    divideToNearest numerator denominator = nearest := by
  have whole := Nat.div_add_mod numerator denominator
  have small := Nat.mod_lt numerator positive
  rw [Nat.mul_comm] at whole
  unfold divideToNearest
  dsimp only
  rcases multiple_cases nearest (numerator / denominator) denominator with
    far | rfl | rfl | far
  · omega
  · split
    · rfl
    · split
      · omega
      · omega
  · have next : (numerator / denominator + 1) * denominator =
        numerator / denominator * denominator + denominator := Nat.succ_mul _ _
    split
    · omega
    · split
      · rfl
      · omega
  · omega

theorem ofRatio_whole {whole unit : Nat} (bits : whole.log2 = 52 + unit)
    (some : divideToNearest whole (2 ^ unit) ≠ 0) :
    ofRatio false whole 1 =
      ofDyadic (.ofIntWithPrec (divideToNearest whole (2 ^ unit)) (-unit)) := by
  have nonzero : whole ≠ 0 := by
    rintro rfl
    rw [Nat.log2_zero] at bits
    omega
  have ownUnit : max (binaryExponent whole 1 - 52) (-1074) = (unit : Int) := by
    rw [binaryExponent_one nonzero]
    omega
  have isWhole : (0 : Int) ≤ unit := Int.natCast_nonneg unit
  unfold ofRatio
  simp only [ownUnit, isWhole, nonzero, some, Int.toNat_natCast, Nat.one_mul, or_self,
    Bool.false_eq_true, if_true, if_false, Nat.one_ne_zero, Nat.pow_eq]

theorem ofIntWithPrec_neg (mantissa unit : Nat) :
    Dyadic.ofIntWithPrec mantissa (-unit) = (((mantissa * 2 ^ unit : Nat) : Int) : Dyadic) := by
  rw [← Dyadic.toRat_inj, Dyadic.toRat_ofIntWithPrec_eq_mul_two_pow, Dyadic.toRat_intCast,
    Int.neg_neg, Rat.zpow_natCast]
  push_cast
  rfl

/-! ## Rounding intervals -/

/-- How far the interval of a mantissa reaches below it, in quarters of its unit: the step below a
power of two is half the step above it. -/
def reachBelow (mantissa : Nat) : Nat := if mantissa = 2 ^ 52 then 1 else 2

/-- A whole number lies in the interval of a mantissa and its unit, at an end of it only if the
mantissa is even. -/
structure Rounds (mantissa unit whole : Nat) : Prop where
  lower : 4 * (mantissa * 2 ^ unit) ≤ 4 * whole + reachBelow mantissa * 2 ^ unit
  upper : 4 * whole ≤ 4 * (mantissa * 2 ^ unit) + 2 * 2 ^ unit
  even : 4 * (mantissa * 2 ^ unit) = 4 * whole + reachBelow mantissa * 2 ^ unit ∨
    4 * whole = 4 * (mantissa * 2 ^ unit) + 2 * 2 ^ unit → mantissa % 2 = 0

theorem roundingInterval_whole (mantissa unit : Nat) :
    roundingInterval mantissa unit =
      { low := (4 * mantissa - reachBelow mantissa) * 2 ^ unit
        high := (4 * mantissa + 2) * 2 ^ unit
        denominator := 4
        closed := mantissa % 2 = 0 } := by
  have least : (-1074 : Int) < unit := by omega
  have down : (-(unit : Int)).toNat = 0 := by omega
  have reach : (if mantissa = Nat.pow 2 52 ∧ (-1074 : Int) < unit then 1 else 2) =
      reachBelow mantissa := by
    simp only [least, and_true]
    rfl
  unfold roundingInterval
  rw [reach, down, Int.toNat_natCast]
  rfl

theorem contains_iff {mantissa unit digits exponent : Nat} (some : 0 < mantissa) :
    (roundingInterval mantissa unit).contains digits exponent = true ↔
      Rounds mantissa unit (digits * 10 ^ exponent) := by
  have power : 0 < 2 ^ unit := Nat.two_pow_pos unit
  have down : (-(exponent : Int)).toNat = 0 := by omega
  have low : (4 * mantissa - reachBelow mantissa) * 2 ^ unit + reachBelow mantissa * 2 ^ unit =
      4 * (mantissa * 2 ^ unit) := by
    have reach : reachBelow mantissa ≤ 4 * mantissa := by
      unfold reachBelow
      split <;> omega
    rw [← Nat.add_mul, Nat.sub_add_cancel reach, Nat.mul_assoc]
  have high : (4 * mantissa + 2) * 2 ^ unit = 4 * (mantissa * 2 ^ unit) + 2 * 2 ^ unit := by
    rw [Nat.add_mul, Nat.mul_assoc]
  rw [roundingInterval_whole]
  unfold Interval.contains
  simp only [Int.toNat_natCast, down, Nat.pow_eq, Nat.pow_zero, Nat.mul_one, Bool.or_eq_true,
    Bool.and_eq_true, decide_eq_true_eq, beq_iff_eq]
  constructor
  · rintro (⟨above, below⟩ | ⟨even, ends⟩)
    · exact ⟨by omega, by omega, by omega⟩
    · exact ⟨by omega, by omega, fun _ => even⟩
  · rintro ⟨above, below, even⟩
    omega

theorem log2_eq_of_bounds {whole unit : Nat} (lower : 2 ^ 52 * 2 ^ unit ≤ whole)
    (upper : whole < 2 ^ 53 * 2 ^ unit) : whole.log2 = 52 + unit := by
  have power : 0 < 2 ^ unit := Nat.two_pow_pos unit
  have first : 2 ^ (52 + unit) = 2 ^ 52 * 2 ^ unit := Nat.pow_add 2 52 unit
  have second : 2 ^ (52 + unit + 1) = 2 ^ (52 + unit) * 2 := Nat.pow_succ _ _
  rw [Nat.log2_eq_iff (by omega), second, first]
  omega

/-- The whole numbers in the interval of a mantissa of fifty-three bits are rounded to it. -/
theorem Rounds.ofRatio_eq {mantissa unit whole : Nat} (rounds : Rounds mantissa unit whole)
    (lower : 2 ^ 52 ≤ mantissa) (upper : mantissa < 2 ^ 53) (large : 0 < unit) :
    ofRatio false whole 1 = ofDyadic (((mantissa * 2 ^ unit : Nat) : Int) : Dyadic) := by
  have power : 0 < 2 ^ unit := Nat.two_pow_pos unit
  have least : 2 ^ 52 * 2 ^ unit ≤ mantissa * 2 ^ unit := Nat.mul_le_mul_right _ lower
  obtain ⟨below, above, even⟩ := rounds
  rcases Nat.lt_or_ge whole (2 ^ 52 * 2 ^ unit) with sparse | dense
  · -- Only below a power of two does the interval reach into the part of the line that has the
    -- smaller unit; there the nearest multiple is the power of two itself.
    obtain rfl : mantissa = 2 ^ 52 := by
      rcases Nat.eq_or_lt_of_le lower with same | more
      · exact same.symm
      · have next : (2 ^ 52 + 1) * 2 ^ unit ≤ mantissa * 2 ^ unit := Nat.mul_le_mul_right _ more
        rw [reachBelow, if_neg (by omega)] at below
        omega
    rw [reachBelow, if_pos rfl, Nat.one_mul] at below even
    obtain ⟨half, rfl⟩ : ∃ half, unit = half + 1 := ⟨unit - 1, by omega⟩
    have double : 2 ^ (half + 1) = 2 ^ half * 2 := Nat.pow_succ _ _
    have bits : whole.log2 = 52 + half := log2_eq_of_bounds (by omega) (by omega)
    have nearest : divideToNearest whole (2 ^ half) = 2 ^ 53 :=
      divideToNearest_eq (Nat.two_pow_pos half) (by omega) (by omega) (fun _ => rfl)
    have same : 2 ^ 53 * 2 ^ half = 2 ^ 52 * 2 ^ (half + 1) := by omega
    rw [ofRatio_whole bits (by omega), nearest, ofIntWithPrec_neg, same]
  · have most : (mantissa + 1) * 2 ^ unit ≤ 2 ^ 53 * 2 ^ unit := Nat.mul_le_mul_right _ upper
    have next : (mantissa + 1) * 2 ^ unit = mantissa * 2 ^ unit + 2 ^ unit := Nat.succ_mul _ _
    have reach : reachBelow mantissa * 2 ^ unit = 2 ^ unit ∨
        reachBelow mantissa * 2 ^ unit = 2 * 2 ^ unit := by
      unfold reachBelow
      split
      · left
        exact Nat.one_mul _
      · right
        rfl
    have bits : whole.log2 = 52 + unit := log2_eq_of_bounds dense (by omega)
    have nearest : divideToNearest whole (2 ^ unit) = mantissa :=
      divideToNearest_eq power (by omega) (by omega) (by omega)
    rw [ofRatio_whole bits (by omega), nearest, ofIntWithPrec_neg]

end BlobStorage.Number
