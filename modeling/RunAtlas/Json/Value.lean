import RunAtlas.Decimal.Double

/-!
# JSON values

A JSON value read from a text, as far as the text is well formed.  Where the text goes wrong, the
value ends in a `broken` leaf: as the last item of an array, or as the value of the last member of
an object.  A reader that goes through a value in the order of the text meets everything that stands
before the fault, and then the fault.

An `unreadable` leaf is well formed but stands for no value: a string with half of a surrogate pair,
or a number past every double.  It may be skipped, but not read.
-/

namespace RunAtlas

open Decimal

/-- A JSON value.  Members keep their order and may repeat a name. -/
inductive Json where
  | null
  | boolean (value : Bool)
  | integer (value : Int)
  | float (value : Double)
  | string (value : String)
  | array (items : List Json)
  | object (members : List (String × Json))
  | unreadable
  | broken
deriving Inhabited

/-- A JSON text: its value, and whether anything but blanks follows it. -/
structure JsonText where
  value : Json
  trailing : Bool

end RunAtlas
