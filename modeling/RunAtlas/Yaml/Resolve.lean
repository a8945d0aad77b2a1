import RunAtlas.Decimal.Numeral
import RunAtlas.Text.Search
import RunAtlas.Yaml.Value

/-!
# Resolution of plain scalars

A plain scalar without a tag stands for null, a truth value or a number if it has the form of one,
and otherwise for its text.  Digits after a leading zero are no number.  A whole number that has no
place among the 64-bit integers but among the 128-bit ones cannot be read at all; one that is larger
still is a double.
-/

namespace RunAtlas.Yaml

open Decimal Text

namespace Resolve

/-- The spellings of null. -/
def isNull (text : List Char) : Bool :=
  text.isEmpty || ["null", "Null", "NULL", "~"].any (·.toList = text)

/-- The truth value of a text. -/
def boolean? (text : List Char) : Option Bool :=
  if ["true", "True", "TRUE"].any (·.toList = text) then some true
  else if ["false", "False", "FALSE"].any (·.toList = text) then some false
  else none

/-- A text without one leading sign. -/
def withoutSign : List Char → List Char
  | '-' :: rest | '+' :: rest => rest
  | text => text

/-- Whether a text is a zero followed by more digits, after a sign. -/
def isZeroPadded (text : List Char) : Bool :=
  match withoutSign text with
  | '0' :: digit :: rest => (digit :: rest).all Char.isDigit
  | _ => false

/-- The whole number that digits with a base mark stand for. -/
def basedNumber? : List Char → Option Nat
  | '0' :: 'x' :: digits => wholeNumber? 16 digits
  | '0' :: 'o' :: digits => wholeNumber? 8 digits
  | '0' :: 'b' :: digits => wholeNumber? 2 digits
  | _ => none

/-- The whole number that a text stands for, of any size. -/
def integer? (text : List Char) : Option Int :=
  let unsigned := match text with
    | '+' :: rest => rest
    | _ => text
  match unsigned with
  | '-' :: digits =>
      if unsigned = text then
        match basedNumber? digits with
        | some size => some (-(size : Int))
        | none =>
            if isZeroPadded text then none
            else (wholeNumber? 10 digits).map fun size => -(size : Int)
      else none
  | _ =>
      match basedNumber? unsigned with
      | some size => some (size : Int)
      | none =>
          if isZeroPadded text then none
          else (wholeNumber? 10 unsigned).map fun size => (size : Int)

/-- The double that a text stands for. -/
def float? (text : List Char) : Option Double :=
  let unsigned := match text with
    | '+' :: rest => rest
    | _ => text
  let signedTwice := unsigned != text && (unsigned.head? == some '+' || unsigned.head? == some '-')
  if signedTwice then none
  else if [".inf", ".Inf", ".INF"].any (·.toList = unsigned) then some (.infinite false)
  else if ["-.inf", "-.Inf", "-.INF"].any (·.toList = text) then some (.infinite true)
  else if [".nan", ".NaN", ".NAN"].any (·.toList = text) then some .notANumber
  else
    match decimal? unsigned with
    | some decimal =>
        let value := Double.ofDecimal decimal.negative decimal.digits decimal.power
        if value.isFinite then some value else none
    | none => none

/-- Whether a whole number has a place among the 64-bit integers, signed or not. -/
def fitsWord (number : Int) : Bool :=
  -(Nat.pow 2 63 : Int) ≤ number && number < Nat.pow 2 64

/-- Whether a whole number has a place among the 128-bit integers, signed or not. -/
def fitsDoubleWord (number : Int) : Bool :=
  -(Nat.pow 2 127 : Int) ≤ number && number < Nat.pow 2 128

/-- The value of a whole number.  Nothing is returned for a number that cannot be read; `other` is
the value of a text that is no whole number or too large a one. -/
def ofInteger? (text : List Char) (other : Option Value) : Option Value :=
  match integer? text with
  | some number =>
      if fitsWord number then some (.number (.integer number))
      else if fitsDoubleWord number then none
      else other
  | none => other

/-- The value of a text that is no whole number. -/
def ofFloatOrText (text : List Char) : Value :=
  match if isZeroPadded text then none else float? text with
  | some value => .number (.float value)
  | none => .string (String.ofList text)

/-- The value of a plain scalar without a tag. -/
def plain? (text : List Char) : Option Value :=
  if isNull text then some .null
  else
    match boolean? text with
    | some value => some (.boolean value)
    | none => ofInteger? text (some (ofFloatOrText text))

/-- The value of a scalar with a tag of the standard schema, which has to have the form that the tag
demands; nothing at all if the tag is none of these. -/
def standard? (tag text : List Char) : Option (Option Value) :=
  match afterLead? "tag:yaml.org,2002:".toList tag with
  | none => none
  | some name =>
      if name = "bool".toList then some ((boolean? text).map .boolean)
      else if name = "int".toList then some (ofInteger? text none)
      else if name = "float".toList then some ((float? text).map (.number <| .float ·))
      else if name = "null".toList then
        some (if isNull text && !text.isEmpty then some .null else none)
      else none

end Resolve

end RunAtlas.Yaml
