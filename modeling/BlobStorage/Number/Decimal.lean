import BlobStorage.Number.Rounding
import BlobStorage.Text.Units

/-!
# Numbers as decimal text

A number is written with the fewest digits that read back as the same number, and of those with the
digits nearest to it.  Every real number closer to it than half the step to its neighbours reads
back; an end of that interval does so when the last bit of the number is zero.
-/

namespace BlobStorage.Number

/-- The real numbers between two bounds over a common denominator. -/
structure Interval where
  low : Nat
  high : Nat
  denominator : Nat
  closed : Bool

def Interval.contains (interval : Interval) (digits : Nat) (exponent : Int) : Bool :=
  let up := Nat.pow 10 exponent.toNat
  let down := Nat.pow 10 (-exponent).toNat
  let point := digits * up * interval.denominator
  let low := interval.low * down
  let high := interval.high * down
  (low < point && point < high) || (interval.closed && (low == point || point == high))

/-- The real numbers that round to `mantissa * 2 ^ exponent`.  The step below the first mantissa of
a power of two is half the step above it. -/
def roundingInterval (mantissa : Nat) (exponent : Int) : Interval :=
  let up := Nat.pow 2 exponent.toNat
  let below := if mantissa = Nat.pow 2 52 ∧ -1074 < exponent then 1 else 2
  { low := (4 * mantissa - below) * up
    high := (4 * mantissa + 2) * up
    denominator := 4 * Nat.pow 2 (-exponent).toNat
    closed := mantissa % 2 = 0 }

/-- The exponent `e` with `10 ^ (e - 1) ≤ numerator / denominator < 10 ^ e`. -/
def decimalExponent (numerator denominator : Nat) : Int :=
  if denominator ≤ numerator then (Nat.toDigits 10 (numerator / denominator)).length
  else 1 - (Nat.toDigits 10 ((denominator - 1) / numerator)).length

def withoutTrailingZeros (digits : List Char) : List Char :=
  (digits.reverse.dropWhile (· == '0')).reverse

/-- The digits and the decimal exponent of `numerator / denominator` on the first of the given
decimal grids that has a point in the interval: of the two neighbours of the quotient on that grid
the nearer one that lies in it. -/
def digitsOnGrid (numerator denominator : Nat) (interval : Interval) (exponent : Int) :
    List Nat → Nat × Int
  | [] => (0, exponent)
  | count :: counts =>
      let unit := exponent - count
      let scaled := numerator * Nat.pow 10 (-unit).toNat
      let divisor := denominator * Nat.pow 10 unit.toNat
      let below := scaled / divisor
      let above := below + 1
      let lowHit := interval.contains below unit
      let highHit := interval.contains above unit
      if lowHit && (!highHit || 2 * (scaled % divisor) < divisor ||
          (2 * (scaled % divisor) == divisor && below % 2 == 0)) then (below, unit)
      else if highHit then (above, unit)
      else digitsOnGrid numerator denominator interval exponent counts

/-- The shortest digits of `odd * 2 ^ -precision`, and the power of ten of the last one. -/
def shortestDigits (odd : Nat) (precision : Int) : Nat × Int :=
  let unit := max (-precision - (52 - (odd.log2 : Int))) (-1074)
  let mantissa := odd * Nat.pow 2 (-precision - unit).toNat
  let numerator := mantissa * Nat.pow 2 unit.toNat
  let denominator := Nat.pow 2 (-unit).toNat
  digitsOnGrid numerator denominator (roundingInterval mantissa unit)
    (decimalExponent numerator denominator) ((List.range 17).map (· + 1))

/-- The layout of decimal text: digits stand in their places while the point falls at most
`lastPlace` places behind the first digit and at most `leadingZeros` zeros stand before it; any
other number has one digit before the point and a power of ten. -/
structure Layout where
  lastPlace : Int
  leadingZeros : Int

/-- Numbers from `1e-6` up to below `1e21` are written in place. -/
def layout : Layout := ⟨21, 6⟩

def Layout.write (format : Layout) (digits : List Char) (place : Int) : List Char :=
  let count : Int := digits.length
  if count ≤ place ∧ place ≤ format.lastPlace then
    digits ++ List.replicate (place - count).toNat '0'
  else if 0 < place ∧ place ≤ format.lastPlace then
    digits.take place.toNat ++ '.' :: digits.drop place.toNat
  else if -format.leadingZeros < place ∧ place ≤ 0 then
    '0' :: '.' :: (List.replicate (-place).toNat '0' ++ digits)
  else
    let power := place - 1
    let sign := if power < 0 then '-' else '+'
    let mantissa :=
      match digits with
      | first :: second :: rest => first :: '.' :: second :: rest
      | _ => digits
    mantissa ++ 'e' :: sign :: Nat.toDigits 10 power.natAbs

/-- A positive dyadic rational as text.  Every digit of an integer of at most fifty-three bits
counts. -/
def writeMagnitude (magnitude : Dyadic) : List Char :=
  match dyadicInt? magnitude, magnitude with
  | _, .zero => ['0']
  | exact, .ofOdd odd precision _ =>
      match exact.filter fun n => n.natAbs < Nat.pow 2 53 with
      | some n => Nat.toDigits 10 n.natAbs
      | none =>
          let (number, unit) := shortestDigits odd.natAbs precision
          let digits := Nat.toDigits 10 number
          layout.write (withoutTrailingZeros digits) (unit + digits.length)

/-- A number as decimal text; both zeros are written `0`. -/
def toText : Number → Text
  | nan => "NaN"
  | infinite false => "Infinity"
  | infinite true => "-Infinity"
  | negativeZero => "0"
  | finite value _ =>
      if value < 0 then Text.ofChars ('-' :: writeMagnitude (-value))
      else Text.ofChars (writeMagnitude value)

end BlobStorage.Number
