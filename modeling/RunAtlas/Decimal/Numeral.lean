/-!
# Decimal numerals

Reading of whole numbers in several bases and of decimals with a fraction and an exponent.  A
decimal is kept exact, as a number of units of a power of ten.
-/

namespace RunAtlas.Decimal

/-- The value of a digit in a base of at most sixteen. -/
def digitValue? (base : Nat) (c : Char) : Option Nat :=
  let value :=
    if '0' ≤ c ∧ c ≤ '9' then c.toNat - '0'.toNat
    else if 'a' ≤ c ∧ c ≤ 'f' then c.toNat - 'a'.toNat + 10
    else if 'A' ≤ c ∧ c ≤ 'F' then c.toNat - 'A'.toNat + 10
    else base
  if value < base then some value else none

/-- The value of further digits after a number. -/
def digitsFrom? (base : Nat) : (soFar : Nat) → List Char → Option Nat
  | soFar, [] => some soFar
  | soFar, c :: rest =>
      match digitValue? base c with
      | some digit => digitsFrom? base (soFar * base + digit) rest
      | none => none

/-- The whole number written by at least one digit of a base. -/
def wholeNumber? (base : Nat) (digits : List Char) : Option Nat :=
  if digits.isEmpty then none else digitsFrom? base 0 digits

/-- An exact decimal: `digits * 10^power` with a sign. -/
structure ExactDecimal where
  negative : Bool
  digits : Nat
  power : Int
deriving Repr, DecidableEq

/-- Read the exponent that may follow the digits of a decimal. -/
def exponent? : List Char → Option Int
  | [] => some 0
  | mark :: rest =>
      if mark = 'e' ∨ mark = 'E' then
        match rest with
        | '-' :: digits => (wholeNumber? 10 digits).map fun size => -(size : Int)
        | '+' :: digits => (wholeNumber? 10 digits).map fun size => (size : Int)
        | digits => (wholeNumber? 10 digits).map fun size => (size : Int)
      else none

/-- Read a decimal without a sign: digits, at most one point among or around them, and possibly an
exponent. -/
def unsignedDecimal? (negative : Bool) (text : List Char) : Option ExactDecimal :=
  let whole := text.takeWhile Char.isDigit
  let afterWhole := text.dropWhile Char.isDigit
  let (fraction, tail) :=
    match afterWhole with
    | '.' :: rest => (rest.takeWhile Char.isDigit, rest.dropWhile Char.isDigit)
    | _ => ([], afterWhole)
  match wholeNumber? 10 (whole ++ fraction), exponent? tail with
  | some digits, some power => some ⟨negative, digits, power - fraction.length⟩
  | _, _ => none

/-- Read a decimal that may start with a sign. -/
def decimal? : List Char → Option ExactDecimal
  | '-' :: rest => unsignedDecimal? true rest
  | '+' :: rest => unsignedDecimal? false rest
  | text => unsignedDecimal? false text

example : decimal? "-1.50e3".toList = some ⟨true, 150, 1⟩ := by decide

example : decimal? ".".toList = none := by decide

end RunAtlas.Decimal
