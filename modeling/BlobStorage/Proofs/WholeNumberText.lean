import BlobStorage.Number.Literal
import BlobStorage.Proofs.DateReading
import BlobStorage.Proofs.HeaderFields

/-!
# The texts of whole numbers

A whole number is written in its digits up to the last one that is no zero, followed by zeros up to
twenty-one places and by a power of ten beyond.  Either text is read as the quotient that it spells,
rounded to the nearest number.
-/

namespace BlobStorage

namespace Text

theorem exists_digitChar {u : UInt16} (digit : isDigit u = true) :
    ∃ n < 10, u = unit (Nat.digitChar n) := by
  have values : ∀ n < 10, (unit (Nat.digitChar n)).toNat = 48 + n := by decide
  have bounds : 48 ≤ u.toNat ∧ u.toNat ≤ 57 := by
    rw [isDigit, Bool.and_eq_true, decide_eq_true_iff, decide_eq_true_iff,
      UInt16.le_iff_toNat_le, UInt16.le_iff_toNat_le] at digit
    exact digit
  refine ⟨u.toNat - 48, by omega, ?_⟩
  apply UInt16.toNat_inj.mp
  rw [values _ (by omega)]
  omega

theorem toNat_of_isDigit {character : Char} (digit : character.isDigit = true) :
    48 ≤ character.toNat ∧ character.toNat ≤ 57 := by
  simpa [Char.isDigit, UInt32.le_iff_toNat_le] using digit

theorem basic_of_isDigit {character : Char} (digit : character.isDigit = true) :
    character.toNat < 0x10000 :=
  Nat.lt_of_le_of_lt (toNat_of_isDigit digit).2 (by decide)

theorem isDigit_unit {character : Char} (digit : character.isDigit = true) :
    isDigit (unit character) = true := by
  have bounds := toNat_of_isDigit digit
  have number : (unit character).toNat = character.toNat := toNat_unit (basic_of_isDigit digit)
  rw [isDigit, Bool.and_eq_true, decide_eq_true_iff, decide_eq_true_iff, UInt16.le_iff_toNat_le,
    UInt16.le_iff_toNat_le, number]
  exact bounds

/-- The units that a number is written with: digits, a point, and a power of ten. -/
def isNumberUnit (u : UInt16) : Bool := isDigit u || (ofString ".e+").contains u

/-- Digits are neither blanks nor signs, and no other unit of a number. -/
theorem digit_facts {u : UInt16} (digit : isDigit u = true) :
    isBlank u = false ∧ u ≠ unit '-' ∧ u ≠ unit '+' ∧ u ≠ unit 'I' := by
  obtain ⟨n, small, rfl⟩ := exists_digitChar digit
  have facts : ∀ n < 10, isBlank (unit (Nat.digitChar n)) = false ∧
      unit (Nat.digitChar n) ≠ unit '-' ∧ unit (Nat.digitChar n) ≠ unit '+' ∧
        unit (Nat.digitChar n) ≠ unit 'I' := by
    decide
  exact facts n small

theorem isBlank_of_isNumberUnit {u : UInt16} (ofNumber : isNumberUnit u = true) :
    isBlank u = false := by
  rcases Bool.or_eq_true_iff.mp ofNumber with digit | other
  · exact (digit_facts digit).1
  · have others : (ofString ".e+").all (fun u => !isBlank u) = true := by decide
    simpa using List.all_eq_true.mp others u (List.contains_iff_mem.mp other)

end Text

namespace Number

/-! ## Reading decimals -/

theorem digitsValue_map_unit {digits : List Char} (all : ∀ digit ∈ digits, digit.isDigit = true) :
    digitsValue (digits.map Text.unit) = Nat.ofDigitChars 10 digits 0 := by
  have steps (value : Nat) :
      (digits.map Text.unit).foldl (fun value u => value * 10 + (u.toNat - 48)) value =
        Nat.ofDigitChars 10 digits value := by
    induction digits generalizing value with
    | nil => rfl
    | cons digit digits induction =>
        have basic := Text.basic_of_isDigit (all digit List.mem_cons_self)
        rw [List.map_cons, List.foldl_cons, Nat.ofDigitChars_cons, Text.toNat_unit basic,
          Nat.mul_comm value 10]
        exact induction (fun other member => all other (List.mem_cons_of_mem digit member)) _
  exact steps 0

theorem digitsValue_ofNat (number : Nat) : digitsValue (Text.ofNat number) = number := by
  rw [Text.ofNat, digitsValue_map_unit, Nat.ofDigitChars_ten_toDigits]
  intro digit member
  exact Nat.isDigit_of_mem_toDigits (by decide) (by decide) member

/-- A text that begins with a digit other than zero is no sign and no mark of a base, but a
decimal. -/
theorem ofText_of_digit {u : UInt16} {rest : Text} (digit : Text.isDigit u = true)
    (nonzero : u ≠ Text.unit '0') (units : ∀ v ∈ rest, Text.isNumberUnit v = true) :
    ofText (u :: rest) = (readDecimal? false (u :: rest)).getD nan := by
  obtain ⟨unblank, notMinus, notPlus, notInfinite⟩ := Text.digit_facts digit
  have unblanked : ∀ v ∈ u :: rest, Text.isBlank v = false :=
    List.forall_mem_cons.mpr ⟨unblank, fun v member => Text.isBlank_of_isNumberUnit (units v member)⟩
  have trimmed : Text.trim Text.isBlank (u :: rest) = u :: rest := by
    apply Text.trim_eq_self
    · intro v first
      exact unblanked v (List.mem_of_mem_head? first)
    · intro v last
      exact unblanked v (List.mem_of_mem_getLast? last)
  have noMarks : baseOfMarks? (u :: rest) = none := by
    cases rest with
    | nil => rfl
    | cons mark rest => rw [baseOfMarks?, if_neg nonzero]
  have unsigned : takeSign (u :: rest) = (none, u :: rest) := by
    rw [takeSign, if_neg notMinus, if_neg notPlus]
  have finite : u :: rest ≠ Text.ofString "Infinity" := by
    intro same
    exact notInfinite (List.cons.inj same).1
  unfold ofText readSigned?
  simp only [trimmed, noMarks, unsigned, List.isEmpty_cons, Bool.false_eq_true, if_false, finite]
  rfl

theorem takeWhile_digits {digits rest : Text} (all : ∀ u ∈ digits, Text.isDigit u = true)
    (stops : rest.head?.any Text.isDigit = false) :
    (digits ++ rest).takeWhile Text.isDigit = digits ∧
      (digits ++ rest).dropWhile Text.isDigit = rest := by
  rw [List.takeWhile_append_of_pos all, List.dropWhile_append_of_pos all]
  cases rest with
  | nil => exact ⟨List.append_nil digits, rfl⟩
  | cons u rest =>
      have other : Text.isDigit u = false := stops
      rw [List.takeWhile_cons, List.dropWhile_cons, other]
      exact ⟨List.append_nil digits, rfl⟩

theorem readDecimal?_digits {digits : Text} (some : digits ≠ [])
    (all : ∀ u ∈ digits, Text.isDigit u = true) :
    readDecimal? false digits = Option.some (ofDecimal false (digitsValue digits) 0) := by
  obtain ⟨taken, dropped⟩ := @takeWhile_digits digits [] all rfl
  rw [List.append_nil] at taken dropped
  have visible : digits.isEmpty = false := List.isEmpty_eq_false_iff.mpr some
  simp [readDecimal?, taken, dropped, visible, readExponent?]

/-- A power of ten as it is written behind digits. -/
def writePower (power : Nat) : Text := Text.unit 'e' :: Text.unit '+' :: Text.ofNat power

theorem ofChars_power {digits : List Char} (basic : ∀ digit ∈ digits, digit.toNat < 0x10000)
    (power : Nat) :
    Text.ofChars (digits ++ 'e' :: '+' :: Nat.toDigits 10 power) =
      digits.map Text.unit ++ writePower power := by
  have mark : Text.ofChar 'e' = [Text.unit 'e'] := rfl
  have sign : Text.ofChar '+' = [Text.unit '+'] := rfl
  rw [Text.ofChars_append, Text.ofChars_of_basic basic, Text.ofChars_cons, Text.ofChars_cons, mark,
    sign, Text.ofChars_toDigits]
  rfl

theorem isNumberUnit_writePower (power : Nat) :
    ∀ u ∈ writePower power, Text.isNumberUnit u = true := by
  intro u member
  rcases List.mem_cons.mp member with rfl | behind
  · decide
  · rcases List.mem_cons.mp behind with rfl | digit
    · decide
    · rw [Text.isNumberUnit, Text.isDigit_of_mem_ofNat u digit, Bool.true_or]

theorem readExponent?_writePower (power : Nat) :
    readExponent? (writePower power) = some (power : Int) := by
  have sign : takeSign (Text.unit '+' :: Text.ofNat power) = (some false, Text.ofNat power) := by
    rw [takeSign, if_neg (by decide), if_pos rfl]
  have visible : (Text.ofNat power).isEmpty = false :=
    List.isEmpty_eq_false_iff.mpr (List.ne_nil_of_length_pos (Text.length_ofNat_pos power))
  have digits : (Text.ofNat power).all Text.isDigit = true :=
    List.all_eq_true.mpr Text.isDigit_of_mem_ofNat
  simp [writePower, readExponent?, sign, visible, digits, digitsValue_ofNat]

theorem readDecimal?_power {first : UInt16} (digit : Text.isDigit first = true) (power : Nat) :
    readDecimal? false (first :: writePower power) =
      some (ofDecimal false (digitsValue [first]) power) := by
  have all : ∀ u ∈ [first], Text.isDigit u = true := by simpa using digit
  obtain ⟨taken, dropped⟩ := @takeWhile_digits [first] (writePower power) all (by rfl)
  rw [List.singleton_append] at taken dropped
  have noPoint : Text.unit 'e' ≠ Text.unit '.' := by decide
  have power := readExponent?_writePower power
  rw [writePower] at taken dropped power ⊢
  simp [readDecimal?, taken, dropped, noPoint, power]

theorem readDecimal?_fraction {first : UInt16} {fraction : Text}
    (digit : Text.isDigit first = true) (all : ∀ u ∈ fraction, Text.isDigit u = true)
    (power : Nat) :
    readDecimal? false (first :: Text.unit '.' :: fraction ++ writePower power) =
      some (ofDecimal false (digitsValue (first :: fraction)) (power - fraction.length)) := by
  have whole : ∀ u ∈ [first], Text.isDigit u = true := by simpa using digit
  obtain ⟨taken, dropped⟩ :=
    @takeWhile_digits [first] (Text.unit '.' :: fraction ++ writePower power) whole (by rfl)
  obtain ⟨takenBehind, droppedBehind⟩ :=
    @takeWhile_digits fraction (writePower power) all (by rfl)
  rw [List.singleton_append] at taken dropped
  rw [readDecimal?, List.cons_append, List.cons_append]
  simp only [List.cons_append] at taken dropped
  simp [taken, dropped, takenBehind, droppedBehind, readExponent?_writePower]

theorem ofDecimal_eq_ofRatio {digits exponent : Nat} (positive : 0 < digits)
    (near : exponent + (Nat.toDigits 10 digits).length ≤ 400) :
    ofDecimal false digits exponent = ofRatio false (digits * Nat.pow 10 exponent) 1 := by
  rw [ofDecimal, if_neg (by omega)]
  dsimp only
  rw [if_neg (by omega), if_neg (by omega), if_pos (by omega), Int.toNat_natCast]

theorem ofText_ofNat {number : Nat} (positive : 0 < number)
    (near : (Nat.toDigits 10 number).length ≤ 400) :
    ofText (Text.ofNat number) = ofRatio false number 1 := by
  obtain ⟨first, starts, visible⟩ := Text.head?_ofNat positive
  obtain ⟨rest, spelled⟩ := List.head?_eq_some_iff.mp starts
  have all := @Text.isDigit_of_mem_ofNat number
  have read := readDecimal?_digits (by rw [spelled]; exact List.cons_ne_nil first rest) all
  rw [digitsValue_ofNat] at read
  rw [spelled] at all read ⊢
  rw [ofText_of_digit (all first List.mem_cons_self) (ne_of_beq_false visible), read,
    Option.getD_some]
  · have whole := @ofDecimal_eq_ofRatio number 0 positive (by omega)
    rwa [show Nat.pow 10 0 = 1 from rfl, Nat.mul_one] at whole
  · intro u member
    rw [Text.isNumberUnit, all u (List.mem_cons_of_mem first member), Bool.true_or]

/-! ## Writing whole numbers -/

theorem exists_append_withoutTrailingZeros (digits : List Char) :
    ∃ zeros, digits = withoutTrailingZeros digits ++ List.replicate zeros '0' := by
  refine ⟨(digits.reverse.takeWhile (· == '0')).length, ?_⟩
  have zeros : digits.reverse.takeWhile (· == '0') =
      List.replicate (digits.reverse.takeWhile (· == '0')).length '0' := by
    rw [List.eq_replicate_iff]
    refine ⟨rfl, fun digit member => ?_⟩
    exact eq_of_beq (List.all_eq_true.mp List.all_takeWhile digit member)
  rw [withoutTrailingZeros, ← List.reverse_replicate, ← zeros, ← List.reverse_append,
    List.takeWhile_append_dropWhile, List.reverse_reverse]

/-- Digits with a point in front, if there are any. -/
def behindPoint : List Char → List Char
  | [] => []
  | second :: rest => '.' :: second :: rest

theorem mem_behindPoint {digits : List Char} {character : Char}
    (member : character ∈ behindPoint digits) : character = '.' ∨ character ∈ digits := by
  cases digits with
  | nil => cases member
  | cons second rest => exact List.mem_cons.mp member

/-- The digits of a positive number up to the last one that is no zero, and how many zeros follow. -/
structure Cut (number : Nat) (first : Char) (others : List Char) (zeros : Nat) : Prop where
  cut : withoutTrailingZeros (Nat.toDigits 10 number) = first :: others
  toDigits : Nat.toDigits 10 number = (first :: others) ++ List.replicate zeros '0'

theorem exists_cut {number : Nat} (positive : 0 < number) :
    ∃ first others zeros, Cut number first others zeros := by
  obtain ⟨zeros, whole⟩ := exists_append_withoutTrailingZeros (Nat.toDigits 10 number)
  cases cut : withoutTrailingZeros (Nat.toDigits 10 number) with
  | nil =>
      have value := @Nat.ofDigitChars_ten_toDigits number
      rw [whole, cut, List.nil_append, Nat.ofDigitChars_replicate_zero] at value
      omega
  | cons first others => exact ⟨first, others, zeros, cut, cut ▸ whole⟩

/-- A positive whole number as it is written: in place, or with a power of ten. -/
def writePlaces (number : Nat) : List Char :=
  layout.write (withoutTrailingZeros (Nat.toDigits 10 number)) (Nat.toDigits 10 number).length

section Cut

variable {number : Nat} {first : Char} {others : List Char} {zeros : Nat}
  (cut : Cut number first others zeros)

include cut

theorem Cut.isDigit : ∀ digit ∈ first :: others, digit.isDigit = true := by
  intro digit member
  apply Nat.isDigit_of_mem_toDigits (b := 10) (n := number) (by decide) (by decide)
  rw [cut.toDigits]
  exact List.mem_append_left _ member

theorem Cut.length : (Nat.toDigits 10 number).length = others.length + 1 + zeros := by
  rw [cut.toDigits, List.length_append, List.length_cons, List.length_replicate]

theorem Cut.value : Nat.ofDigitChars 10 (first :: others) 0 * Nat.pow 10 zeros = number := by
  have value := @Nat.ofDigitChars_ten_toDigits number
  rw [cut.toDigits, Nat.ofDigitChars_append, Nat.ofDigitChars_replicate_zero] at value
  rw [Nat.mul_comm]
  exact value

theorem Cut.digits_pos (positive : 0 < number) :
    0 < Nat.ofDigitChars 10 (first :: others) 0 := by
  apply Nat.pos_of_ne_zero
  intro zero
  have value := cut.value
  rw [zero, Nat.zero_mul] at value
  omega

theorem Cut.places :
    (Nat.toDigits 10 (Nat.ofDigitChars 10 (first :: others) 0)).length ≤ others.length + 1 := by
  rw [Nat.length_toDigits_le_iff (by decide) (by omega)]
  have below := (Nat.length_toDigits_le_iff (b := 10) (n := number) (by decide)
    (by omega)).mp (Nat.le_of_eq cut.length)
  rw [Nat.pow_add, ← cut.value] at below
  exact Nat.lt_of_mul_lt_mul_right below

theorem Cut.first_ne (positive : 0 < number) : Text.unit first ≠ Text.unit '0' := by
  obtain ⟨head, starts, visible⟩ := Text.head?_ofNat positive
  rw [Text.ofNat, cut.toDigits] at starts
  obtain rfl := Option.some.inj starts
  exact ne_of_beq_false visible

/-- Up to twenty-one places all digits are written. -/
theorem Cut.writePlaces_near (near : (Nat.toDigits 10 number).length ≤ 21) :
    writePlaces number = Nat.toDigits 10 number := by
  have length := cut.length
  have last : layout.lastPlace = 21 := rfl
  have place : ((first :: others).length : Int) ≤ (Nat.toDigits 10 number).length ∧
      ((Nat.toDigits 10 number).length : Int) ≤ layout.lastPlace := by
    rw [List.length_cons]
    omega
  have missing : (((Nat.toDigits 10 number).length : Int) - (first :: others).length).toNat =
      zeros := by
    rw [List.length_cons]
    omega
  rw [writePlaces, cut.cut]
  unfold Layout.write
  dsimp only
  rw [if_pos place, missing, ← cut.toDigits]

/-- Beyond, one digit is written, the others behind a point, and a power of ten. -/
theorem Cut.writePlaces_far (far : 21 < (Nat.toDigits 10 number).length) :
    writePlaces number =
      first :: (behindPoint others ++
        'e' :: '+' :: Nat.toDigits 10 ((Nat.toDigits 10 number).length - 1)) := by
  have last : layout.lastPlace = 21 := rfl
  have outside : ¬((Nat.toDigits 10 number).length : Int) ≤ layout.lastPlace := by omega
  have behind : ¬((Nat.toDigits 10 number).length : Int) ≤ 0 := by omega
  have notNegative : ¬((Nat.toDigits 10 number).length : Int) - 1 < 0 := by omega
  have power : (((Nat.toDigits 10 number).length : Int) - 1).natAbs =
      (Nat.toDigits 10 number).length - 1 := by
    omega
  rw [writePlaces, cut.cut]
  unfold Layout.write
  simp only [outside, behind, notNegative, power, and_false, if_false]
  cases others with
  | nil => rfl
  | cons second rest => rfl

theorem Cut.basic :
    ∀ character ∈ first :: behindPoint others, character.toNat < 0x10000 := by
  intro character member
  rcases List.mem_cons.mp member with rfl | behind
  · exact Text.basic_of_isDigit (cut.isDigit character List.mem_cons_self)
  · rcases mem_behindPoint behind with rfl | digit
    · decide
    · exact Text.basic_of_isDigit (cut.isDigit character (List.mem_cons_of_mem first digit))

theorem Cut.isNumberUnit (power : Nat) :
    ∀ u ∈ (behindPoint others).map Text.unit ++ writePower power,
      Text.isNumberUnit u = true := by
  rw [List.forall_mem_append]
  refine ⟨?_, isNumberUnit_writePower power⟩
  intro u member
  obtain ⟨character, among, rfl⟩ := List.mem_map.mp member
  rcases mem_behindPoint among with rfl | digit
  · decide
  · rw [Text.isNumberUnit,
      Text.isDigit_unit (cut.isDigit character (List.mem_cons_of_mem first digit)), Bool.true_or]

theorem Cut.readDecimal?_far :
    readDecimal? false (Text.unit first :: ((behindPoint others).map Text.unit ++
        writePower ((Nat.toDigits 10 number).length - 1))) =
      some (ofDecimal false (Nat.ofDigitChars 10 (first :: others) 0) zeros) := by
  have digits := cut.isDigit
  have value := digitsValue_map_unit digits
  have length := cut.length
  have firstDigit := Text.isDigit_unit (digits first List.mem_cons_self)
  rw [← value]
  cases others with
  | nil =>
      have power : (Nat.toDigits 10 number).length - 1 = zeros := by
        rw [length, List.length_nil]
        omega
      rw [power]
      exact readDecimal?_power firstDigit zeros
  | cons second rest =>
      have all : ∀ u ∈ (second :: rest).map Text.unit, Text.isDigit u = true := by
        intro u member
        obtain ⟨digit, among, rfl⟩ := List.mem_map.mp member
        exact Text.isDigit_unit (digits digit (List.mem_cons_of_mem first among))
      have power : (((Nat.toDigits 10 number).length - 1 : Nat) : Int) -
          ((second :: rest).map Text.unit).length = zeros := by
        rw [length, List.length_map]
        omega
      have read := readDecimal?_fraction firstDigit all ((Nat.toDigits 10 number).length - 1)
      rw [power] at read
      exact read

end Cut

/-- A whole number of at most four hundred places is read from its text as the number nearest to
it. -/
theorem ofText_writePlaces {number : Nat} (positive : 0 < number)
    (near : (Nat.toDigits 10 number).length ≤ 400) :
    ofText (Text.ofChars (writePlaces number)) = ofRatio false number 1 := by
  obtain ⟨first, others, zeros, cut⟩ := exists_cut positive
  by_cases inPlace : (Nat.toDigits 10 number).length ≤ 21
  · rw [cut.writePlaces_near inPlace, Text.ofChars_toDigits, ofText_ofNat positive near]
  · have digits := cut.isDigit
    have length := cut.length
    have places := cut.places
    have spelled := ofChars_power cut.basic ((Nat.toDigits 10 number).length - 1)
    rw [List.cons_append, List.map_cons, List.cons_append] at spelled
    rw [cut.writePlaces_far (by omega), spelled,
      ofText_of_digit (Text.isDigit_unit (digits first List.mem_cons_self))
        (cut.first_ne positive) (cut.isNumberUnit _), cut.readDecimal?_far, Option.getD_some,
      ofDecimal_eq_ofRatio (cut.digits_pos positive) (by omega), cut.value]

end Number

end BlobStorage
