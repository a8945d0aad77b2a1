import RunAtlas.Decimal.Double

/-!
# Shortest decimals

The shortest decimal of a finite double has the fewest digits that read back as that double, and is
the nearest to it among the decimals with that many digits.  The reals that read back as a double
reach halfway to its neighbours; the halfway points themselves count when the mantissa is even.

All arithmetic is exact: the double is a quotient of natural numbers, and for each number of digits
its two neighbours on that decimal grid are tested.
-/

namespace RunAtlas.Decimal

/-- A positive quotient. -/
structure Quotient where
  numerator : Nat
  denominator : Nat

namespace Quotient

/-- The quotient `mantissa * 2^exponent`. -/
def ofBinary (mantissa : Nat) (exponent : Int) : Quotient :=
  if exponent < 0 then ⟨mantissa, Nat.pow 2 (-exponent).toNat⟩
  else ⟨mantissa * Nat.pow 2 exponent.toNat, 1⟩

/-- The quotient `digits * 10^power`. -/
def ofDecimal (digits : Nat) (power : Int) : Quotient :=
  if power < 0 then ⟨digits, Nat.pow 10 (-power).toNat⟩
  else ⟨digits * Nat.pow 10 power.toNat, 1⟩

/-- Whether the first quotient is below the second. -/
def below (first second : Quotient) : Bool :=
  first.numerator * second.denominator < second.numerator * first.denominator

/-- The whole part of the quotient divided by `10^power`. -/
def gridFloor (value : Quotient) (power : Int) : Nat :=
  if power < 0 then value.numerator * Nat.pow 10 (-power).toNat / value.denominator
  else value.numerator / (value.denominator * Nat.pow 10 power.toNat)

/-- The distance between two quotients, over the product of their denominators. -/
def distance (first second : Quotient) : Nat :=
  let left := first.numerator * second.denominator
  let right := second.numerator * first.denominator
  (left - right) + (right - left)

end Quotient

/-- The reals that read back as one double. -/
structure Basin where
  low : Quotient
  high : Quotient
  closed : Bool

namespace Basin

/-- The basin of `mantissa * 2^exponent`.  Below a power of two the next double is only half as far
away as above it, unless the exponent is the least one. -/
def ofBinary (mantissa : Nat) (exponent : Int) : Basin where
  low :=
    if mantissa = Nat.pow 2 52 ∧ exponent > Double.leastExponent then
      .ofBinary (4 * mantissa - 1) (exponent - 2)
    else .ofBinary (2 * mantissa - 1) (exponent - 1)
  high := .ofBinary (2 * mantissa + 1) (exponent - 1)
  closed := mantissa % 2 = 0

/-- Whether a quotient lies in the basin. -/
def contains (basin : Basin) (value : Quotient) : Bool :=
  if basin.closed then !value.below basin.low && !basin.high.below value
  else basin.low.below value && value.below basin.high

end Basin

/-- A positive decimal: its digits, the first of them not zero, and the power of ten of the first
digit. -/
structure ShortDecimal where
  digits : List Char
  power : Int
deriving Repr, DecidableEq

/-- The least count, from `count` on and for `bound` steps at most, of tenfold enlargements that
bring the quotient to one. -/
def enlargements (value : Quotient) : (bound : Nat) → (count : Nat) → Nat
  | 0, count => count
  | bound + 1, count =>
      if value.numerator * Nat.pow 10 count ≥ value.denominator then count
      else enlargements value bound (count + 1)

/-- The power of ten of the first digit of a positive quotient of two doubles' size. -/
def leadingPower (value : Quotient) : Int :=
  let whole := value.numerator / value.denominator
  if whole = 0 then -(enlargements value 400 1 : Int) else (Double.digitCount whole : Int) - 1

/-- The point of the decimal grid `10^power` that lies in the basin, the nearer one if both
neighbours of the value do, and the even one if they are equally near. -/
def gridPoint? (basin : Basin) (value : Quotient) (power : Int) : Option Nat :=
  let floor := value.gridFloor power
  let lower := Quotient.ofDecimal floor power
  let upper := Quotient.ofDecimal (floor + 1) power
  match floor != 0 && basin.contains lower, basin.contains upper with
  | false, false => none
  | true, false => some floor
  | false, true => some (floor + 1)
  | true, true =>
      let toLower := value.distance lower
      let toUpper := value.distance upper
      if toLower < toUpper then some floor
      else if toUpper < toLower then some (floor + 1)
      else some (floor + floor % 2)

/-- The first decimal found on grids of more and more digits. -/
def firstOnGrids (basin : Basin) (value : Quotient) (leading : Int) :
    (bound : Nat) → (digitsBefore : Nat) → Option (Nat × Int)
  | 0, _ => none
  | bound + 1, digitsBefore =>
      let power := leading - digitsBefore
      match gridPoint? basin value power with
      | some point => some (point, power)
      | none => firstOnGrids basin value leading bound (digitsBefore + 1)

/-- Drop the zeros at the end of a number's digits. -/
def withoutTrailingZeros (digits : List Char) : List Char :=
  (digits.reverse.dropWhile (· = '0')).reverse

/-- The shortest decimal of the positive double `mantissa * 2^exponent`.  Seventeen digits always
suffice. -/
def shortestDecimal (mantissa : Nat) (exponent : Int) : ShortDecimal :=
  let value := Quotient.ofBinary mantissa exponent
  let basin := Basin.ofBinary mantissa exponent
  match firstOnGrids basin value (leadingPower value) 17 0 with
  | some (point, power) =>
      let digits := Nat.toDigits 10 point
      ⟨withoutTrailingZeros digits, power + digits.length - 1⟩
  | none => ⟨Nat.toDigits 10 mantissa, 0⟩

example : shortestDecimal (3 * Nat.pow 2 51) (-52) = ⟨['1', '5'], 0⟩ := by decide +kernel

example : shortestDecimal 1 (-1074) = ⟨['5'], -324⟩ := by decide +kernel

end RunAtlas.Decimal
