import BlobStorage.Delete.Builder
import BlobStorage.Proofs.TextUnits
import BlobStorage.Number.Decimal

/-!
# Seconds as text

A number of seconds is written in the decimal digits of a natural number, with no sign, point or
power of ten.  Digits stand for themselves in a query, and they spell one number only.
-/

namespace BlobStorage

namespace Text

theorem ofChars_toDigits (number : Nat) : ofChars (Nat.toDigits 10 number) = ofNat number := by
  apply ofChars_of_basic
  intro digit member
  have isDigit := Nat.isDigit_of_mem_toDigits (by decide) (by decide) member
  simp only [Char.isDigit, Bool.and_eq_true, decide_eq_true_eq, UInt32.le_iff_toNat_le] at isDigit
  exact Nat.lt_of_le_of_lt isDigit.2 (by decide)

theorem toCharsLossy_ofNat (number : Nat) :
    toCharsLossy (ofNat number) = Nat.toDigits 10 number := by
  rw [← ofChars_toDigits, toCharsLossy_ofChars]

theorem ofNat_injective {left right : Nat} (same : ofNat left = ofNat right) : left = right := by
  have digits := congrArg toCharsLossy same
  rw [toCharsLossy_ofNat, toCharsLossy_ofNat] at digits
  simpa using congrArg (Nat.ofDigitChars 10 · 0) digits

end Text

namespace Number

private theorem dyadicInt?_nonnegative {value : Dyadic} {whole : Int}
    (integral : dyadicInt? value = some whole) (atLeastZero : ¬value < 0) : 0 ≤ whole := by
  cases value with
  | zero =>
      cases integral
      exact Int.le_refl 0
  | ofOdd odd precision isOdd =>
      have positive : ¬odd < 0 := by
        intro negative
        apply atLeastZero
        exact decide_eq_true negative
      cases precision with
      | ofNat shift =>
          cases shift with
          | zero =>
              cases integral
              omega
          | succ shift => cases integral
      | negSucc shift =>
          cases integral
          exact Int.mul_nonneg (by omega) (Int.le_of_lt (Int.pow_pos (by decide)))

private theorem writeMagnitude_safe {value : Dyadic} {whole : Nat}
    (integral : dyadicInt? value = some (whole : Int)) (safe : whole < Nat.pow 2 53) :
    writeMagnitude value = Nat.toDigits 10 whole := by
  cases value with
  | zero =>
      cases whole with
      | zero => rfl
      | succ whole => cases integral
  | ofOdd odd precision isOdd =>
      have isSafe : (whole : Int).natAbs < Nat.pow 2 53 := safe
      have kept : (some (whole : Int)).filter (fun n => n.natAbs < Nat.pow 2 53) =
          some (whole : Int) := by
        rw [Option.filter_some, if_pos (decide_eq_true isSafe)]
      rw [writeMagnitude, integral]
      simp only [kept, Int.natAbs_natCast]

theorem exists_nat_of_isSeconds {number : Number} (safe : number.isSafeInteger)
    (atLeastZero : number.isNegative = false) :
    ∃ seconds : Nat, number.toInt? = some (seconds : Int) ∧
      number.toText = Text.ofNat seconds := by
  cases number with
  | nan => cases safe
  | infinite negative => cases safe
  | negativeZero => exact ⟨0, rfl, by decide⟩
  | finite value fits =>
      have notBelow : ¬value < 0 := of_decide_eq_false atLeastZero
      cases integral : dyadicInt? value with
      | none => simp [isSafeInteger, toInt?, value?, integral] at safe
      | some whole =>
          obtain ⟨seconds, rfl⟩ := Int.eq_ofNat_of_zero_le
            (dyadicInt?_nonnegative integral notBelow)
          refine ⟨seconds, integral, ?_⟩
          have small : seconds < Nat.pow 2 53 := by
            simpa [isSafeInteger, toInt?, value?, integral] using safe
          rw [toText, if_neg notBelow, writeMagnitude_safe integral small,
            Text.ofChars_toDigits]

end Number

end BlobStorage
