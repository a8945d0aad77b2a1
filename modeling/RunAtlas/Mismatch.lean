import RunAtlas.Decimal.Layout
import RunAtlas.Text.Quoted

/-!
# Mismatches between a document and the record read from it

Reading a record from a YAML value or from JSON fails when a part of the document has another shape
than the field it stands for.  `Mismatch` lists the ways in which this happens, and
`Mismatch.message` words them.  The two formats differ only in how they name null and lay out
floating-point numbers, which is what a `Wording` fixes.
-/

namespace RunAtlas

open Decimal

/-- What a document holds where something else is expected. -/
inductive Found where
  | null
  | boolean (value : Bool)
  | integer (value : Int)
  | float (value : Double)
  | text (value : String)
  | sequence
  | mapping
deriving Repr, DecidableEq

/-- How a format words what was found. -/
structure Wording where
  null : String
  layout : Layout

namespace Found

/-- The words for what was found. -/
def describe (wording : Wording) : Found → String
  | .null => wording.null
  | .boolean value => "boolean `" ++ (if value then "true" else "false") ++ "`"
  | .integer value => "integer `" ++ value.repr ++ "`"
  | .float value => "floating point `" ++ String.ofList (wording.layout.render value) ++ "`"
  | .text value => "string " ++ Text.quoted value
  | .sequence => "sequence"
  | .mapping => "map"

end Found

/-- Why a part of a document cannot be read as the field it stands for. -/
inductive Mismatch where
  | wrongType (found : Found) (expected : String)
  | wrongValue (found : Found) (expected : String)
  | wrongLength (length : Nat) (expected : String)
  | missingField (name : String)
  | duplicateField (name : String)
  | collectionForScalar
  | nullForScalar
  | taggedInExtraField
  /-- Two keys of a mapping in a value that is kept in any shape have become the same. -/
  | repeatedKey
deriving Repr, DecidableEq

namespace Mismatch

/-- The words for a mismatch. -/
def message (wording : Wording) : Mismatch → String
  | .wrongType found expected =>
      "invalid type: " ++ found.describe wording ++ ", expected " ++ expected
  | .wrongValue found expected =>
      "invalid value: " ++ found.describe wording ++ ", expected " ++ expected
  | .wrongLength length expected =>
      "invalid length " ++ length.repr ++ ", expected " ++ expected
  | .missingField name => "missing field `" ++ name ++ "`"
  | .duplicateField name => "duplicate field `" ++ name ++ "`"
  | .collectionForScalar => "expected a scalar, found a collection"
  | .nullForScalar => "expected a scalar, found null"
  | .taggedInExtraField => "untagged and internally tagged enums do not support enum input"
  | .repeatedKey => "duplicate entry in YAML map"

end Mismatch

/-- Read a field that may be given only once. -/
def fillOnce {ε α : Type} (duplicate : ε) (slot : Option α) (read : Except ε α) :
    Except ε (Option α) :=
  match slot with
  | some _ => .error duplicate
  | none => read.map some

end RunAtlas
