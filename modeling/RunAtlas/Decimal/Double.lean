/-!
# Double-precision numbers

A finite double is a sign, a mantissa below `2^53` and a binary exponent of at least `-1074`; its
absolute value is the mantissa times that power of two.  `Double.ofDecimal` rounds an exact decimal
to the nearest double, and a decimal halfway between two of them to the one with the even mantissa.
-/

namespace RunAtlas.Decimal

/-- A double-precision number. -/
inductive Double where
  | finite (negative : Bool) (mantissa : Nat) (exponent : Int)
  | infinite (negative : Bool)
  | notANumber
deriving Repr, DecidableEq, Inhabited

/-- The quotient rounded to the nearest whole number, a half to the even neighbour. -/
def roundHalfEven (numerator denominator : Nat) : Nat :=
  let quotient := numerator / denominator
  let twiceRest := 2 * (numerator % denominator)
  if twiceRest < denominator then quotient
  else if twiceRest > denominator then quotient + 1
  else quotient + quotient % 2

namespace Double

/-- The least binary exponent of a double. -/
def leastExponent : Int := -1074

/-- The greatest binary exponent of a finite double. -/
def greatestExponent : Int := 971

/-- Zero with a sign. -/
def zero (negative : Bool) : Double :=
  .finite negative 0 leastExponent

/-- The double with this sign, mantissa and exponent, once rounding may have carried into the
fifty-fourth bit. -/
def assemble (negative : Bool) (mantissa : Nat) (exponent : Int) : Double :=
  if mantissa = 0 then zero negative
  else if mantissa = Nat.pow 2 53 then
    if exponent + 1 > greatestExponent then .infinite negative
    else .finite negative (Nat.pow 2 52) (exponent + 1)
  else if exponent > greatestExponent then .infinite negative
  else .finite negative mantissa exponent

/-- The quotient times `2^(-exponent)`, rounded to a whole number. -/
def scaledMantissa (numerator denominator : Nat) (exponent : Int) : Nat :=
  if exponent < 0 then roundHalfEven (numerator * Nat.pow 2 (-exponent).toNat) denominator
  else roundHalfEven numerator (denominator * Nat.pow 2 exponent.toNat)

/-- Whether the quotient is at least `2^power`. -/
def reaches (numerator denominator : Nat) (power : Int) : Bool :=
  if power < 0 then numerator * Nat.pow 2 (-power).toNat ≥ denominator
  else numerator ≥ denominator * Nat.pow 2 power.toNat

/-- Round the quotient of two positive numbers to a double. -/
def ofQuotient (negative : Bool) (numerator denominator : Nat) : Double :=
  let estimate : Int := (numerator.log2 : Int) - (denominator.log2 : Int)
  let magnitude := if reaches numerator denominator estimate then estimate else estimate - 1
  let exponent := max (magnitude - 52) leastExponent
  assemble negative (scaledMantissa numerator denominator exponent) exponent

/-- The number of decimal digits of a number. -/
def digitCount (number : Nat) : Nat :=
  (Nat.toDigits 10 number).length

/-- The double nearest to `digits * 10^power`.  A decimal past `10^400` is past every double, and
one below `10^(-400)` is nearest to zero. -/
def ofDecimal (negative : Bool) (digits : Nat) (power : Int) : Double :=
  let size := power + digitCount digits
  if digits = 0 then zero negative
  else if size > 400 then .infinite negative
  else if size < -400 then zero negative
  else if power < 0 then ofQuotient negative digits (Nat.pow 10 (-power).toNat)
  else ofQuotient negative (digits * Nat.pow 10 power.toNat) 1

/-- Whether a double is neither infinite nor undefined. -/
def isFinite : Double → Bool
  | .finite _ _ _ => true
  | _ => false

/-- Equality as keys compare: the two zeros are the same number, and so are all undefined ones. -/
def sameNumber : Double → Double → Bool
  | .finite _ 0 _, .finite _ 0 _ => true
  | first, second => first = second

example : ofDecimal false 15 (-1) = .finite false (3 * Nat.pow 2 51) (-52) := by decide

example : ofDecimal false 1 (-400) = zero false := by decide +kernel

example : (ofDecimal false 18 307).isFinite = false := by decide +kernel

end Double

end RunAtlas.Decimal
