import RunAtlas.Decimal.Shortest

/-!
# Layouts of doubles

A layout fixes how the shortest decimal of a double is written: for which powers of ten of the
first digit it is positional, how an exponent is written otherwise, and what stands for the values
that are not finite.  A positional number always has a decimal point.
-/

namespace RunAtlas.Decimal

/-- How doubles are written. -/
structure Layout where
  /-- The least power of the first digit that is written positionally. -/
  leastPositional : Int
  /-- The greatest power of the first digit that is written positionally. -/
  greatestPositional : Int
  /-- What a positive exponent starts with. -/
  positiveSign : List Char
  /-- The fewest digits of an exponent. -/
  exponentDigits : Nat
  infinity : List Char
  negativeInfinity : List Char
  notANumber : List Char

namespace Layout

/-- Digits around a decimal point that stands after the first `power + 1` of them. -/
def positional (digits : List Char) (power : Int) : List Char :=
  if power < 0 then
    '0' :: '.' :: (List.replicate ((-power).toNat - 1) '0' ++ digits)
  else
    let whole := power.toNat + 1
    let before := digits.take whole ++ List.replicate (whole - digits.length) '0'
    let after := digits.drop whole
    before ++ '.' :: (if after.isEmpty then ['0'] else after)

/-- Digits with a decimal point after the first, if there are more, and an exponent. -/
def scientific (layout : Layout) (digits : List Char) (power : Int) : List Char :=
  let mantissa :=
    match digits with
    | [] => []
    | [digit] => [digit]
    | digit :: rest => digit :: '.' :: rest
  let size := Nat.toDigits 10 power.natAbs
  let padded := List.replicate (layout.exponentDigits - size.length) '0' ++ size
  mantissa ++ 'e' :: ((if power < 0 then ['-'] else layout.positiveSign) ++ padded)

/-- The text of a double. -/
def render (layout : Layout) : Double → List Char
  | .infinite false => layout.infinity
  | .infinite true => layout.negativeInfinity
  | .notANumber => layout.notANumber
  | .finite negative mantissa exponent =>
      let sign := if negative then ['-'] else []
      if mantissa = 0 then sign ++ ['0', '.', '0']
      else
        let short := shortestDecimal mantissa exponent
        if layout.leastPositional ≤ short.power ∧ short.power ≤ layout.greatestPositional then
          sign ++ positional short.digits short.power
        else sign ++ layout.scientific short.digits short.power

end Layout

end RunAtlas.Decimal
