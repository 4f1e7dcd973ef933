import BlobStorage.Number.Rounding

/-!
# Instants of a clock

The clock of a run shows a number of milliseconds.  Natural numbers of at most fifty-three bits are
numbers as they are (`ofInt_natCast`), and so are their sums (`add_ofInt`): a timer that is armed at
a whole instant for a whole number of milliseconds is due neither sooner nor later.
-/

namespace BlobStorage

namespace Number

theorem exists_odd {number : Nat} (positive : number ≠ 0) :
    ∃ odd shift isOdd, ((number : Int) : Dyadic) = .ofOdd odd (-(shift : Nat)) isOdd ∧
      odd.natAbs * Nat.pow 2 shift = number ∧ 0 < odd := by
  have nonzero : (number : Int) ≠ 0 := by omega
  have power : (0 : Int) < 2 ^ (number : Int).trailingZeros := Int.pow_pos (by decide)
  have product : 2 ^ (number : Int).trailingZeros *
      ((number : Int) >>> (number : Int).trailingZeros) = (number : Int) := by
    rw [Int.shiftRight_eq_div_pow]
    exact Int.mul_ediv_cancel' (by simpa using Int.two_pow_trailingZeros_dvd nonzero)
  have above : 0 < (number : Int) >>> (number : Int).trailingZeros :=
    Int.pos_of_mul_pos_right (by omega) power
  refine ⟨_, (number : Int).trailingZeros, Int.shiftRight_trailingZeros_mod_two nonzero, ?_, ?_,
    above⟩
  · change Dyadic.ofIntWithPrec _ _ = _
    rw [Dyadic.ofIntWithPrec, dif_neg nonzero]
    simp
  · have magnitude := congrArg Int.natAbs product
    rwa [Int.natAbs_mul, Int.natAbs_pow, Nat.mul_comm] at magnitude

theorem toRat_of_dyadicInt? {value : Dyadic} {number : Int}
    (whole : dyadicInt? value = some number) : value.toRat = number := by
  cases value with
  | zero =>
      obtain rfl := Option.some.inj whole
      rfl
  | ofOdd odd precision isOdd =>
      rw [Dyadic.toRat_ofOdd_eq_mul_two_pow]
      cases precision with
      | ofNat precision =>
          cases precision with
          | zero =>
              obtain rfl := Option.some.inj whole
              simp
          | succ precision => cases whole
      | negSucc shift =>
          obtain rfl := Option.some.inj whole
          rw [Int.neg_negSucc, Rat.zpow_natCast, Rat.intCast_mul]
          exact congrArg _ (Rat.intCast_pow 2 (shift + 1)).symm

theorem eq_natCast_of_dyadicInt? {value : Dyadic} {number : Nat}
    (whole : dyadicInt? value = some (number : Int)) : value = ((number : Int) : Dyadic) := by
  rw [← Dyadic.toRat_inj, toRat_of_dyadicInt? whole, Dyadic.toRat_intCast]

theorem natCast_lt_natCast {left right : Nat} :
    ((left : Int) : Dyadic) < ((right : Int) : Dyadic) ↔ left < right := by
  rw [← Dyadic.toRat_lt_toRat_iff, Dyadic.toRat_intCast, Dyadic.toRat_intCast,
    Rat.intCast_lt_intCast, Int.ofNat_lt]

theorem natCast_add_natCast (left right : Nat) :
    ((left : Int) : Dyadic) + ((right : Int) : Dyadic) =
      (((left + right : Nat) : Int) : Dyadic) := by
  rw [← Dyadic.toRat_inj, Dyadic.toRat_add, Dyadic.toRat_intCast, Dyadic.toRat_intCast,
    Dyadic.toRat_intCast, ← Rat.intCast_add, Int.natCast_add]

theorem representable_natCast {number : Nat} (small : number < Nat.pow 2 53) :
    Representable ((number : Int) : Dyadic) := by
  rcases Nat.eq_zero_or_pos number with rfl | positive
  · exact trivial
  · obtain ⟨odd, shift, isOdd, same, product, above⟩ := exists_odd (Nat.ne_of_gt positive)
    have oddSmall : odd.natAbs < Nat.pow 2 53 := by
      have bound : odd.natAbs ≤ odd.natAbs * Nat.pow 2 shift :=
        Nat.le_mul_of_pos_right _ (Nat.two_pow_pos shift)
      omega
    have shiftSmall : shift < 53 := by
      have bound : Nat.pow 2 shift ≤ odd.natAbs * Nat.pow 2 shift :=
        Nat.le_mul_of_pos_left _ (by omega)
      rw [product] at bound
      exact (Nat.pow_lt_pow_iff_right (by decide)).mp (Nat.lt_of_le_of_lt bound small)
    have bits : odd.natAbs.log2 < 53 := (Nat.log2_lt (by omega)).mpr oddSmall
    rw [same]
    exact ⟨oddSmall, by omega, by omega⟩

theorem divideToNearest_one (numerator : Nat) : divideToNearest numerator 1 = numerator := by
  simp [divideToNearest, Nat.mod_one]

theorem binaryExponent_one {number : Nat} (positive : number ≠ 0) :
    binaryExponent number 1 = (number.log2 : Int) := by
  have estimate : (number.log2 : Int) - Nat.log2 1 = number.log2 := by
    rw [show Nat.log2 1 = 0 from rfl]
    omega
  have reached : 2 ^ number.log2 ≤ number := Nat.log2_self_le positive
  simp [binaryExponent, estimate, reached]

/-- One number is below another: from the bottom, to the top, or by their values. -/
theorem less_iff {left right : Number} : left.less right = true ↔
    (left = infinite true ∧ right ≠ nan ∧ right ≠ infinite true) ∨
      (right = infinite false ∧ left ≠ nan ∧ left ≠ infinite false) ∨
        ∃ l r, left.value? = some l ∧ right.value? = some r ∧ l < r := by
  cases left with
  | nan => simp [less, value?]
  | infinite negative => cases negative <;> cases right <;> simp [less, value?]
  | negativeZero =>
      cases right with
      | infinite negative => cases negative <;> simp [less, value?]
      | _ => simp [less, value?]
  | finite value fits =>
      cases right with
      | infinite negative => cases negative <;> simp [less, value?]
      | _ => simp [less, value?]

theorem inside_of_value? {number : Number} {value : Dyadic} (own : number.value? = some value) :
    number ≠ nan ∧ ∀ negative, number ≠ infinite negative := by
  constructor
  · rintro rfl
    cases own
  · rintro negative rfl
    cases own

theorem less_irrefl (number : Number) : number.less number = false := by
  rw [Bool.eq_false_iff, ne_eq, less_iff]
  rintro (⟨rfl, -, other⟩ | ⟨rfl, -, other⟩ | ⟨left, right, own, same, below⟩)
  · exact other rfl
  · exact other rfl
  · obtain rfl := Option.some.inj (own.symm.trans same)
    exact Dyadic.not_lt.mpr below (Dyadic.le_refl left)

theorem less_trans {first second third : Number} (below : first.less second = true)
    (above : second.less third = true) : first.less third = true := by
  rw [less_iff] at below above ⊢
  rcases below with ⟨rfl, -, notBottom⟩ | ⟨rfl, -⟩ | ⟨left, middle, own, between, below⟩
  · refine .inl ⟨rfl, ?_⟩
    rcases above with ⟨bottom, -⟩ | ⟨rfl, -⟩ | ⟨-, right, -, value, -⟩
    · exact absurd bottom notBottom
    · simp
    · exact ⟨(inside_of_value? value).1, (inside_of_value? value).2 true⟩
  · rcases above with ⟨bottom, -⟩ | ⟨-, -, notTop⟩ | ⟨between, -, same, -⟩
    · cases bottom
    · exact absurd rfl notTop
    · cases same
  · rcases above with ⟨rfl, -⟩ | ⟨rfl, -⟩ | ⟨between', right, same, value, above⟩
    · cases between
    · exact .inr (.inl ⟨rfl, (inside_of_value? own).1, (inside_of_value? own).2 false⟩)
    · obtain rfl := Option.some.inj (between.symm.trans same)
      exact .inr (.inr ⟨left, right, own, value, Std.lt_trans below above⟩)

/-- No integer of at most fifty-three bits is rounded. -/
theorem ofInt_natCast {number : Nat} (small : number < Nat.pow 2 53) :
    ofInt number = finite ((number : Int) : Dyadic) (representable_natCast small) := by
  rcases Nat.eq_zero_or_pos number with rfl | positive
  · rfl
  · have nonzero : number ≠ 0 := Nat.ne_of_gt positive
    have bits : number.log2 < 53 := (Nat.log2_lt nonzero).mpr small
    obtain ⟨shift, unit⟩ : ∃ shift : Nat,
        max (binaryExponent number 1 - 52) (-1074) = -(shift : Int) := by
      refine ⟨52 - number.log2, ?_⟩
      rw [binaryExponent_one nonzero]
      omega
    have mantissa : (if 0 ≤ -(shift : Int) then
        divideToNearest number (1 * Nat.pow 2 (-(shift : Int)).toNat)
      else divideToNearest (number * Nat.pow 2 (-(-(shift : Int))).toNat) 1) =
        number * 2 ^ shift := by
      split
      · obtain rfl : shift = 0 := by omega
        simp [divideToNearest_one]
      · simp [divideToNearest_one]
    have value : Dyadic.ofIntWithPrec ((number * 2 ^ shift : Nat) : Int) (shift : Int) =
        ((number : Int) : Dyadic) := by
      have scaled := @Dyadic.ofIntWithPrec_shiftLeft_add number 0 shift
      rw [Int.zero_add, Int.shiftLeft_eq] at scaled
      exact_mod_cast scaled
    have scaledUp : number * 2 ^ shift ≠ 0 :=
      Nat.mul_ne_zero nonzero (Nat.ne_of_gt (Nat.two_pow_pos shift))
    have natural : decide ((number : Int) < 0) = false := decide_eq_false (by omega)
    unfold ofInt ofRatio
    simp only [Int.natAbs_natCast, unit, mantissa, natural]
    rw [if_neg (by simp [nonzero]), if_neg scaledUp]
    simp only [Bool.false_eq_true, if_false, Int.neg_neg, value]
    exact dif_pos (representable_natCast small)

theorem round_natCast {number : Nat} (small : number < Nat.pow 2 53) :
    round ((number : Int) : Dyadic) = ofInt number := by
  rcases Nat.eq_zero_or_pos number with rfl | positive
  · rfl
  · obtain ⟨odd, shift, isOdd, same, product, above⟩ := exists_odd (Nat.ne_of_gt positive)
    have sign : decide (odd < 0) = decide ((number : Int) < 0) := by
      rw [decide_eq_false (by omega), decide_eq_false (by omega)]
    rw [same, ofInt, Int.natAbs_natCast, ← sign, ← product]
    cases shift with
    | zero =>
        rw [show Nat.pow 2 0 = 1 from rfl, Nat.mul_one]
        rfl
    | succ shift => rfl

theorem add_ofInt {left right : Nat} (small : left + right < Nat.pow 2 53) :
    (ofInt left).add (ofInt right) = ofInt ((left + right : Nat) : Int) := by
  rw [ofInt_natCast (by omega), ofInt_natCast (by omega), ← round_natCast small,
    ← natCast_add_natCast]
  rfl

theorem less_ofInt_iff {left right : Nat} (leftSmall : left < Nat.pow 2 53)
    (rightSmall : right < Nat.pow 2 53) : (ofInt left).less (ofInt right) = true ↔ left < right := by
  rw [ofInt_natCast leftSmall, ofInt_natCast rightSmall, ← natCast_lt_natCast]
  exact decide_eq_true_iff

theorem eq_ofInt {number : Number} {whole : Nat} (read : number.toInt? = some (whole : Int))
    (positive : 0 < whole) (small : whole < Nat.pow 2 53) : number = ofInt whole := by
  cases number with
  | nan => cases read
  | infinite negative => cases read
  | negativeZero =>
      have zero : (0 : Int) = whole := Option.some.inj read
      omega
  | finite value fits =>
      obtain rfl := eq_natCast_of_dyadicInt? (show dyadicInt? value = _ from read)
      exact (ofInt_natCast small).symm

end Number

end BlobStorage
