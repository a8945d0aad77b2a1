import RunAtlas.Decimal.Numeral
import RunAtlas.Decimal.Shortest
import RunAtlas.Json.Value

/-!
# JSON numbers

A number without a fraction and an exponent is whole if it has a place among the 64-bit integers,
signed or not; any other number is a double.  A double is read in two roundings: one of its leading
digits, as many as fit into 64 bits, and one of the product or quotient with a power of ten.
-/

namespace RunAtlas.Json

open Decimal

/-- The greatest 64-bit number. -/
def greatestWord : Nat := Nat.pow 2 64 - 1

/-- The double nearest to a whole number. -/
def nearestDouble (number : Nat) : Double :=
  if number = 0 then Double.zero false else Double.ofQuotient false number 1

/-- The product of two finite doubles that are not negative. -/
def multiply : Double → Double → Double
  | .finite _ 0 _, _ => Double.zero false
  | .finite _ m e, .finite _ m' e' =>
      let product := Quotient.ofBinary (m * m') (e + e')
      Double.ofQuotient false product.numerator product.denominator
  | first, _ => first

/-- The quotient of two finite doubles that are not negative, the second of them not zero. -/
def divide : Double → Double → Double
  | .finite _ 0 _, _ => Double.zero false
  | .finite _ m e, .finite _ m' e' =>
      let first := Quotient.ofBinary m e
      let second := Quotient.ofBinary m' e'
      Double.ofQuotient false (first.numerator * second.denominator)
        (first.denominator * second.numerator)
  | first, _ => first

/-- The power of ten nearest to a double. -/
def powerOfTen (power : Nat) : Double :=
  Double.ofDecimal false 1 power

/-- Scale a double by a power of ten, in steps of `10^308` for small numbers.  Nothing is returned
for numbers past every double.  Five steps bring every double to zero. -/
def scale (value : Double) (power : Int) : (bound : Nat) → Option Double
  | 0 => some value
  | bound + 1 =>
      if power.natAbs ≤ 308 then
        if power ≥ 0 then
          let result := multiply value (powerOfTen power.natAbs)
          if result.isFinite then some result else none
        else some (divide value (powerOfTen power.natAbs))
      else if value = Double.zero false then some value
      else if power ≥ 0 then none
      else scale (divide value (powerOfTen 308)) (power + 308) bound

/-- A double with its sign. -/
def withSign (negative : Bool) : Double → Double
  | .finite _ mantissa exponent => .finite negative mantissa exponent
  | value => value

/-- The leading digits that fit into 64 bits, and the power of ten that they count.  Whole digits
that do not fit raise the power, digits of the fraction lower it while they fit. -/
structure Leading where
  digits : Nat
  power : Int

namespace Leading

/-- Take in the digits of the whole part. -/
def takeWhole (leading : Leading) : List Char → Leading
  | [] => leading
  | c :: rest =>
      let digits := leading.digits * 10 + (c.toNat - '0'.toNat)
      if digits ≤ greatestWord then takeWhole ⟨digits, leading.power⟩ rest
      else ⟨leading.digits, leading.power + (rest.length + 1)⟩

/-- Take in the digits of the fraction. -/
def takeFraction (leading : Leading) : List Char → Leading
  | [] => leading
  | c :: rest =>
      let digits := leading.digits * 10 + (c.toNat - '0'.toNat)
      if digits ≤ greatestWord then takeFraction ⟨digits, leading.power - 1⟩ rest else leading

end Leading

/-- The leaf for a double with these digits and this exponent. -/
def ofFloatParts (negative : Bool) (whole fraction : List Char) (exponent : Int) : Json :=
  let leading := (Leading.takeWhole ⟨0, 0⟩ whole).takeFraction fraction
  match scale (nearestDouble leading.digits) (leading.power + exponent) 8 with
  | some value => .float (withSign negative value)
  | none => .unreadable

/-- The leaf for a number without fraction and exponent. -/
def ofWhole (negative : Bool) (digits : List Char) : Json :=
  match wholeNumber? 10 digits with
  | none => .broken
  | some number =>
      if negative then
        if number = 0 then .float (Double.zero true)
        else if number ≤ Nat.pow 2 63 then .integer (-(number : Int))
        else ofFloatParts true digits [] 0
      else if number ≤ greatestWord then .integer number
      else ofFloatParts false digits [] 0

/-- Read the exponent of a number, if there is one, and what follows.  Nothing is returned for an
exponent without digits. -/
def readExponent : List Char → Option (Option Int × List Char)
  | mark :: rest =>
      if mark = 'e' ∨ mark = 'E' then
        let (negative, digits) :=
          match rest with
          | '-' :: digits => (true, digits)
          | '+' :: digits => (false, digits)
          | digits => (false, digits)
        match wholeNumber? 10 (digits.takeWhile Char.isDigit) with
        | some size =>
            some (some (if negative then -(size : Int) else size), digits.dropWhile Char.isDigit)
        | none => none
      else some (none, mark :: rest)
  | [] => some (none, [])

/-- Read the fraction of a number, if there is one, and what follows.  Nothing is returned for a
point without digits. -/
def readFraction : List Char → Option (Option (List Char) × List Char)
  | '.' :: rest =>
      let digits := rest.takeWhile Char.isDigit
      if digits.isEmpty then none else some (some digits, rest.dropWhile Char.isDigit)
  | text => some (none, text)

/-- Read a number after its sign, and what follows it.  A first zero stands alone. -/
def readNumber (negative : Bool) (text : List Char) : Json × Option (List Char) :=
  let whole := text.takeWhile Char.isDigit
  if whole.isEmpty || (whole.head? == some '0' && whole.length > 1) then (.broken, none)
  else
    match readFraction (text.dropWhile Char.isDigit) with
    | none => (.broken, none)
    | some (fraction, afterFraction) =>
        match readExponent afterFraction with
        | none => (.broken, none)
        | some (exponent, rest) =>
            match fraction, exponent with
            | none, none => (ofWhole negative whole, some rest)
            | _, _ =>
                (ofFloatParts negative whole (fraction.getD []) (exponent.getD 0), some rest)

end RunAtlas.Json
