import BlobStorage.Proofs.NearestNumber
import BlobStorage.Proofs.WholeNumberText

/-!
# Whole numbers are read from their text

A whole number is written with the fewest digits that lie in its rounding interval.  Seventeen
digits always do, so that the number is read back from its text.
-/

namespace BlobStorage.Number

/-! ## The search for digits -/

/-- Of the two neighbours of a quotient on a decimal grid one lies in an interval. -/
def Hits (numerator denominator : Nat) (interval : Interval) (exponent : Int) (count : Nat) :
    Prop :=
  let unit := exponent - count
  let below := numerator * Nat.pow 10 (-unit).toNat / (denominator * Nat.pow 10 unit.toNat)
  interval.contains below unit = true ∨ interval.contains (below + 1) unit = true

/-- The search ends on a grid that has a point in the interval, at the latest where one is known. -/
theorem digitsOnGrid_contains {numerator denominator : Nat} {interval : Interval} {exponent : Int}
    {counts : List Nat} {count : Nat} (sorted : counts.Pairwise (· < ·)) (member : count ∈ counts)
    (hits : Hits numerator denominator interval exponent count) :
    ∃ digits, ∃ used ≤ count,
      digitsOnGrid numerator denominator interval exponent counts = (digits, exponent - used) ∧
        interval.contains digits (exponent - used) = true := by
  induction counts with
  | nil => cases member
  | cons head tail induction =>
      have atMost : head ≤ count := by
        rcases List.mem_cons.mp member with rfl | behind
        · exact Nat.le_refl _
        · exact Nat.le_of_lt (List.rel_of_pairwise_cons sorted behind)
      rw [digitsOnGrid]
      split
      · rename_i low
        rw [Bool.and_eq_true] at low
        exact ⟨_, head, atMost, rfl, low.1⟩
      · rename_i notLow
        split
        · rename_i high
          exact ⟨_, head, atMost, rfl, high⟩
        · rename_i notHigh
          -- A grid that is passed over has no point in the interval, so it is not the known one.
          have behind : count ∈ tail := by
            rcases List.mem_cons.mp member with rfl | behind
            · rw [Bool.not_eq_true] at notHigh
              rcases hits with low | high
              · exact absurd (by rw [low, notHigh]; rfl) notLow
              · exact absurd high (Bool.eq_false_iff.mp notHigh)
            · exact behind
          exact induction sorted.of_cons behind

theorem rounds_own (mantissa unit : Nat) : Rounds mantissa unit (mantissa * 2 ^ unit) := by
  have power : 0 < 2 ^ unit := Nat.two_pow_pos unit
  have reach : 0 < reachBelow mantissa * 2 ^ unit := by
    apply Nat.mul_pos _ power
    unfold reachBelow
    split <;> decide
  constructor
  · omega
  · omega
  · omega

theorem Rounds.pos {mantissa unit whole : Nat} (rounds : Rounds mantissa unit whole)
    (lower : 2 ^ 52 ≤ mantissa) : 0 < whole := by
  have least : 2 ^ 52 * 2 ^ unit ≤ mantissa * 2 ^ unit := Nat.mul_le_mul_right _ lower
  have reach : reachBelow mantissa * 2 ^ unit ≤ 2 * 2 ^ unit := by
    apply Nat.mul_le_mul_right
    unfold reachBelow
    split <;> decide
  have power : 0 < 2 ^ unit := Nat.two_pow_pos unit
  have below := rounds.lower
  omega

theorem Rounds.le_double {mantissa unit whole : Nat} (rounds : Rounds mantissa unit whole)
    (lower : 2 ^ 52 ≤ mantissa) : whole ≤ 2 * (mantissa * 2 ^ unit) := by
  have least : 2 ^ 52 * 2 ^ unit ≤ mantissa * 2 ^ unit := Nat.mul_le_mul_right _ lower
  have above := rounds.upper
  omega

/-- On a grid that is finer than a mantissa, one of the neighbours of its number rounds to it. -/
theorem rounds_neighbour {mantissa unit step : Nat} (lower : 2 ^ 52 ≤ mantissa)
    (upper : mantissa < 2 ^ 53) (positive : 0 < step)
    (fine : step * 10 ^ 16 ≤ mantissa * 2 ^ unit) :
    Rounds mantissa unit (mantissa * 2 ^ unit / step * step) ∨
      Rounds mantissa unit ((mantissa * 2 ^ unit / step + 1) * step) := by
  have power : 0 < 2 ^ unit := Nat.two_pow_pos unit
  have whole := Nat.div_add_mod (mantissa * 2 ^ unit) step
  have small := Nat.mod_lt (mantissa * 2 ^ unit) positive
  have next : (mantissa * 2 ^ unit / step + 1) * step =
      mantissa * 2 ^ unit / step * step + step := Nat.succ_mul _ _
  rw [Nat.mul_comm] at whole
  by_cases isPower : mantissa = 2 ^ 52
  · right
    subst isPower
    constructor
    · omega
    · omega
    · omega
  · have reach : reachBelow mantissa = 2 := if_neg isPower
    have most : (mantissa + 1) * 2 ^ unit ≤ 2 ^ 53 * 2 ^ unit := Nat.mul_le_mul_right _ upper
    have above : (mantissa + 1) * 2 ^ unit = mantissa * 2 ^ unit + 2 ^ unit := Nat.succ_mul _ _
    by_cases near : 2 * (mantissa * 2 ^ unit % step) < 2 ^ unit
    · left
      constructor
      · rw [reach]
        omega
      · omega
      · rw [reach]
        omega
    · right
      constructor
      · rw [reach]
        omega
      · omega
      · rw [reach]
        omega

/-- Seventeen digits are enough, and no more than there are before the point. -/
theorem hits_seventeen {mantissa unit : Nat} (lower : 2 ^ 52 ≤ mantissa)
    (upper : mantissa < 2 ^ 53) :
    Hits (mantissa * 2 ^ unit) 1 (roundingInterval mantissa unit)
      (Nat.toDigits 10 (mantissa * 2 ^ unit)).length
      (min 17 (Nat.toDigits 10 (mantissa * 2 ^ unit)).length) := by
  obtain ⟨exponent, last⟩ : ∃ exponent : Nat,
      ((Nat.toDigits 10 (mantissa * 2 ^ unit)).length : Int) -
        (min 17 (Nat.toDigits 10 (mantissa * 2 ^ unit)).length : Nat) = exponent :=
    ⟨(Nat.toDigits 10 (mantissa * 2 ^ unit)).length - 17, by omega⟩
  have down : (-(exponent : Int)).toNat = 0 := by omega
  have some : 0 < mantissa := by omega
  unfold Hits
  simp only [last, down, Int.toNat_natCast, Nat.pow_eq, Nat.pow_zero, Nat.mul_one, Nat.one_mul]
  rw [contains_iff some, contains_iff some]
  cases exponent with
  | zero =>
      left
      rw [Nat.pow_zero, Nat.div_one, Nat.mul_one]
      exact rounds_own mantissa unit
  | succ exponent =>
      apply rounds_neighbour lower upper (Nat.pow_pos (by decide))
      have places : (Nat.toDigits 10 (mantissa * 2 ^ unit)).length = exponent + 1 + 17 := by omega
      have longer : ¬(Nat.toDigits 10 (mantissa * 2 ^ unit)).length ≤ exponent + 1 + 16 := by omega
      rw [Nat.length_toDigits_le_iff (by decide) (by omega), Nat.not_lt] at longer
      rw [← Nat.pow_add]
      exact longer

theorem shortestDigits_rounds {odd shift : Nat} (positive : 0 < odd) (small : odd < 2 ^ 53)
    (large : 53 ≤ odd.log2 + shift) :
    ∃ mantissa unit digits exponent : Nat, 2 ^ 52 ≤ mantissa ∧ mantissa < 2 ^ 53 ∧ 0 < unit ∧
      odd * 2 ^ shift = mantissa * 2 ^ unit ∧
      shortestDigits odd (-shift) = (digits, (exponent : Int)) ∧
      Rounds mantissa unit (digits * 10 ^ exponent) := by
  have bits : odd.log2 < 53 := (Nat.log2_lt (by omega)).mpr small
  obtain ⟨unit, isUnit⟩ : ∃ unit, odd.log2 + shift = 52 + unit :=
    ⟨odd.log2 + shift - 52, by omega⟩
  obtain ⟨missing, isMissing⟩ : ∃ missing, odd.log2 + missing = 52 := ⟨52 - odd.log2, by omega⟩
  have lower : 2 ^ 52 ≤ odd * 2 ^ missing := by
    rw [← isMissing, Nat.pow_add]
    exact Nat.mul_le_mul_right _ (Nat.log2_self_le (by omega))
  have upper : odd * 2 ^ missing < 2 ^ 53 := by
    have above : 2 ^ 53 = 2 ^ (odd.log2 + 1) * 2 ^ missing := by
      rw [← Nat.pow_add]
      congr 1
      omega
    rw [above]
    exact Nat.mul_lt_mul_of_pos_right Nat.lt_log2_self (Nat.two_pow_pos missing)
  have number : odd * 2 ^ shift = odd * 2 ^ missing * 2 ^ unit := by
    rw [Nat.mul_assoc, ← Nat.pow_add]
    congr 2
    omega
  -- The mantissa is the odd factor with zeros up to 53 bits; the search goes by it.
  have found : shortestDigits odd (-shift) =
      digitsOnGrid (odd * 2 ^ missing * 2 ^ unit) 1 (roundingInterval (odd * 2 ^ missing) unit)
        (Nat.toDigits 10 (odd * 2 ^ missing * 2 ^ unit)).length
        ((List.range 17).map (· + 1)) := by
    have ownUnit : max (- -(shift : Int) - (52 - (odd.log2 : Int))) (-1074) = unit := by omega
    have ownMissing : (- -(shift : Int) - unit).toNat = missing := by omega
    have down : (-(unit : Int)).toNat = 0 := by omega
    have atLeast : 1 ≤ odd * 2 ^ missing * 2 ^ unit :=
      Nat.mul_pos (by omega) (Nat.two_pow_pos unit)
    unfold shortestDigits
    simp only [ownUnit, ownMissing, down, Int.toNat_natCast, Nat.pow_eq, Nat.pow_zero,
      decimalExponent, atLeast, if_true, Nat.div_one]
  have member : min 17 (Nat.toDigits 10 (odd * 2 ^ missing * 2 ^ unit)).length ∈
      (List.range 17).map (· + 1) := by
    have some : 0 < (Nat.toDigits 10 (odd * 2 ^ missing * 2 ^ unit)).length :=
      Nat.length_toDigits_pos
    rw [List.mem_map]
    exact ⟨min 17 (Nat.toDigits 10 (odd * 2 ^ missing * 2 ^ unit)).length - 1,
      List.mem_range.mpr (by omega), by omega⟩
  obtain ⟨digits, used, atMost, ends, contained⟩ :=
    digitsOnGrid_contains (by decide) member (hits_seventeen lower upper)
  obtain ⟨exponent, isExponent⟩ : ∃ exponent : Nat,
      ((Nat.toDigits 10 (odd * 2 ^ missing * 2 ^ unit)).length : Int) - used = exponent :=
    ⟨(Nat.toDigits 10 (odd * 2 ^ missing * 2 ^ unit)).length - used, by omega⟩
  rw [isExponent] at ends contained
  exact ⟨odd * 2 ^ missing, unit, digits, exponent, lower, upper, by omega, number,
    found.trans ends, (contains_iff (by omega)).mp contained⟩

/-! ## Reading what was written -/

theorem toDigits_mul_pow {digits : Nat} (positive : 0 < digits) (exponent : Nat) :
    Nat.toDigits 10 (digits * 10 ^ exponent) =
      Nat.toDigits 10 digits ++ List.replicate exponent '0' := by
  induction exponent with
  | zero => rw [Nat.pow_zero, Nat.mul_one, List.replicate_zero, List.append_nil]
  | succ exponent induction =>
      have some : 0 < digits * 10 ^ exponent := Nat.mul_pos positive (Nat.pow_pos (by decide))
      have behind := @Nat.toDigits_append_toDigits 10 (digits * 10 ^ exponent) 0 (by decide) some
        (by decide)
      have product : digits * 10 ^ (exponent + 1) = 10 * (digits * 10 ^ exponent) + 0 := by
        rw [Nat.pow_succ, Nat.add_zero, ← Nat.mul_assoc, Nat.mul_comm]
      rw [product, ← behind, induction, List.append_assoc, List.replicate_succ']
      rfl

theorem withoutTrailingZeros_append (digits : List Char) (zeros : Nat) :
    withoutTrailingZeros (digits ++ List.replicate zeros '0') = withoutTrailingZeros digits := by
  have dropped : ∀ digit ∈ List.replicate zeros '0', (digit == '0') = true := by
    intro digit member
    rw [List.eq_of_mem_replicate member]
    rfl
  rw [withoutTrailingZeros, List.reverse_append, List.reverse_replicate,
    List.dropWhile_append_of_pos dropped]
  rfl

/-- Digits with a power of ten are written like the whole number that they are worth. -/
theorem write_eq_writePlaces {digits : Nat} (positive : 0 < digits) (exponent : Nat) :
    layout.write (withoutTrailingZeros (Nat.toDigits 10 digits))
        (exponent + (Nat.toDigits 10 digits).length) =
      writePlaces (digits * 10 ^ exponent) := by
  rw [writePlaces, toDigits_mul_pow positive, withoutTrailingZeros_append, List.length_append,
    List.length_replicate, Int.natCast_add, Int.add_comm]

theorem shifted_lt_two_pow (odd shift : Nat) : odd * 2 ^ shift < 2 ^ (odd.log2 + 1 + shift) := by
  rw [Nat.pow_add 2 (odd.log2 + 1)]
  exact Nat.mul_lt_mul_of_pos_right Nat.lt_log2_self (Nat.two_pow_pos shift)

theorem two_pow_le_ten_pow (bits : Nat) : 2 ^ bits ≤ 10 ^ (bits / 3 + 1) := by
  calc 2 ^ bits
    _ ≤ 2 ^ (3 * (bits / 3 + 1)) := Nat.pow_le_pow_right (by decide) (by omega)
    _ = (2 ^ 3) ^ (bits / 3 + 1) := Nat.pow_mul 2 3 _
    _ ≤ 10 ^ (bits / 3 + 1) := Nat.pow_le_pow_left (by decide) _

theorem ofText_writeMagnitude {odd shift : Nat} (positive : 0 < odd) (small : odd < 2 ^ 53)
    (large : 53 ≤ odd.log2 + shift) (inside : odd.log2 + shift < 1024) :
    ∃ digits exponent : Nat, shortestDigits odd (-shift) = (digits, (exponent : Int)) ∧
      ofText (Text.ofChars (layout.write (withoutTrailingZeros (Nat.toDigits 10 digits))
        (exponent + (Nat.toDigits 10 digits).length))) =
          ofDyadic (((odd * 2 ^ shift : Nat) : Int) : Dyadic) := by
  obtain ⟨mantissa, unit, digits, exponent, lower, upper, above, number, found, rounds⟩ :=
    shortestDigits_rounds positive small large
  refine ⟨digits, exponent, found, ?_⟩
  have some : 0 < digits * 10 ^ exponent := rounds.pos lower
  have near : (Nat.toDigits 10 (digits * 10 ^ exponent)).length ≤ 400 := by
    have bits : (Nat.toDigits 10 (digits * 10 ^ exponent)).length ≤
        (odd.log2 + shift + 2) / 3 + 1 := by
      rw [Nat.length_toDigits_le_iff (by decide) (Nat.succ_pos _)]
      calc digits * 10 ^ exponent
        _ ≤ 2 * (mantissa * 2 ^ unit) := rounds.le_double lower
        _ = 2 * (odd * 2 ^ shift) := by rw [number]
        _ < 2 * 2 ^ (odd.log2 + 1 + shift) :=
            Nat.mul_lt_mul_of_pos_left (shifted_lt_two_pow odd shift) (by decide)
        _ = 2 ^ (odd.log2 + shift + 2) := by
            rw [← Nat.pow_add_one']
            congr 1
            omega
        _ ≤ 10 ^ ((odd.log2 + shift + 2) / 3 + 1) := two_pow_le_ten_pow _
    omega
  rw [write_eq_writePlaces (Nat.pos_of_mul_pos_right some), ofText_writePlaces some near,
    rounds.ofRatio_eq lower upper above, ← number]

theorem exists_odd_shift {value : Dyadic} {whole : Nat} (fits : Representable value)
    (integral : dyadicInt? value = some (whole : Int)) (large : 2 ^ 53 ≤ whole) :
    ∃ (odd shift : Nat) (isOdd : (odd : Int) % 2 = 1), value = .ofOdd odd (-(shift : Nat)) isOdd ∧
      whole = odd * 2 ^ shift ∧ odd < 2 ^ 53 ∧ odd.log2 + shift < 1024 := by
  cases value with
  | zero =>
      have zero : (0 : Int) = whole := Option.some.inj integral
      omega
  | ofOdd odd precision isOdd =>
      obtain ⟨small, -, inside⟩ := fits
      cases precision with
      | ofNat precision =>
          cases precision with
          | zero =>
              have same : odd = whole := Option.some.inj integral
              subst same
              exact absurd small (Nat.not_lt.mpr large)
          | succ precision => cases integral
      | negSucc shift =>
          have product : odd * 2 ^ (shift + 1) = (whole : Int) := Option.some.inj integral
          have power : (0 : Int) < 2 ^ (shift + 1) := Int.pow_pos (by decide)
          have positive : 0 < odd := Int.pos_of_mul_pos_left (by omega) power
          obtain ⟨natural, rfl⟩ := Int.eq_ofNat_of_zero_le (Int.le_of_lt positive)
          rw [Int.natAbs_natCast] at small inside
          refine ⟨natural, shift + 1, isOdd, rfl, ?_, small, by omega⟩
          exact_mod_cast product.symm

theorem writeMagnitude_large {odd shift whole digits : Nat} {exponent : Int}
    {isOdd : (odd : Int) % 2 = 1}
    (integral : dyadicInt? (.ofOdd odd (-(shift : Nat)) isOdd) = some (whole : Int))
    (large : 2 ^ 53 ≤ whole) (found : shortestDigits odd (-shift) = (digits, exponent)) :
    writeMagnitude (.ofOdd odd (-(shift : Nat)) isOdd) =
      layout.write (withoutTrailingZeros (Nat.toDigits 10 digits))
        (exponent + (Nat.toDigits 10 digits).length) := by
  have notSmall : ¬(whole : Int).natAbs < Nat.pow 2 53 := Nat.not_lt.mpr large
  have dropped : (some (whole : Int)).filter (fun n => n.natAbs < Nat.pow 2 53) = none := by
    rw [Option.filter_some, if_neg (by simpa using notSmall)]
  rw [writeMagnitude, integral]
  simp only [dropped, Int.natAbs_natCast, found]

theorem ofText_toText_small {number : Number} {whole : Nat}
    (read : number.toInt? = some (whole : Int)) (positive : 0 < whole) (small : whole < 2 ^ 53) :
    ofText number.toText = number := by
  obtain rfl := eq_ofInt read positive small
  have near : (Nat.toDigits 10 whole).length ≤ 400 := by
    have bits : (Nat.toDigits 10 whole).length ≤ 16 := by
      rw [Nat.length_toDigits_le_iff (by decide) (by decide)]
      exact Nat.lt_of_lt_of_le small (by decide)
    omega
  have safe : (ofInt whole).isSafeInteger = true := by
    rw [isSafeInteger, read]
    exact decide_eq_true small
  have atLeastZero : (ofInt whole).isNegative = false :=
    Bool.eq_false_iff.mpr fun below =>
      Nat.not_lt_zero whole ((@less_ofInt_iff whole 0 small (by decide)).mp below)
  obtain ⟨seconds, same, spelled⟩ := exists_nat_of_isSeconds safe atLeastZero
  obtain rfl := Int.ofNat.inj (Option.some.inj (read.symm.trans same))
  rw [spelled, ofText_ofNat positive near]
  rfl

theorem ofText_toText_large {value : Dyadic} {fits : Representable value} {whole : Nat}
    (integral : dyadicInt? value = some (whole : Int)) (large : 2 ^ 53 ≤ whole) :
    ofText (finite value fits).toText = finite value fits := by
  have own := eq_natCast_of_dyadicInt? integral
  have notBelow : ¬value < 0 := by
    rw [own]
    exact fun below => Nat.not_lt_zero whole (natCast_lt_natCast.mp below)
  obtain ⟨odd, shift, isOdd, rfl, product, small, inside⟩ := exists_odd_shift fits integral large
  have some : 0 < odd := by
    apply Nat.pos_of_ne_zero
    rintro rfl
    omega
  have long : 53 ≤ odd.log2 + shift := by
    have bits : 2 ^ 53 < 2 ^ (odd.log2 + 1 + shift) :=
      Nat.lt_of_le_of_lt (product ▸ large) (shifted_lt_two_pow odd shift)
    have more := (Nat.pow_lt_pow_iff_right (by decide)).mp bits
    omega
  obtain ⟨digits, exponent, found, reads⟩ := ofText_writeMagnitude some small long inside
  rw [toText, if_neg notBelow, writeMagnitude_large integral large found, reads, ← product,
    ← own, ofDyadic, dif_pos fits]

/-- A positive whole number is read from its text. -/
theorem ofText_toText {number : Number} {whole : Nat}
    (read : number.toInt? = some (whole : Int)) (positive : 0 < whole) :
    ofText number.toText = number := by
  rcases Nat.lt_or_ge whole (2 ^ 53) with small | large
  · exact ofText_toText_small read positive small
  · cases number with
    | nan => cases read
    | infinite negative => cases read
    | negativeZero =>
        have zero : (0 : Int) = whole := Option.some.inj read
        omega
    | finite value fits =>
        have integral : dyadicInt? value = some (whole : Int) := read
        exact ofText_toText_large integral large

end BlobStorage.Number
