import RunAtlas.Json.Value
import RunAtlas.Mismatch

/-!
# Reading records from JSON values

The elementary readers: texts, 32-bit numbers, optional texts, sequences and records.  A record is
read from an object, member by member in the order of the text, or from an array, by the position
of its fields.  Members that a record does not know are skipped.

A reader that meets a part of the text that is malformed reports that, and not a mismatch.
-/

namespace RunAtlas

/-- Why a record cannot be read from a JSON text. -/
inductive JsonFault where
  | malformed
  | mismatch (mismatch : Mismatch)
deriving Repr, DecidableEq

open Decimal

/-- How mismatches with JSON values are worded. -/
def jsonWording : Wording where
  null := "null"
  layout :=
    { leastPositional := -5
      greatestPositional := 15
      positiveSign := ['+']
      exponentDigits := 2
      infinity := ['i', 'n', 'f']
      negativeInfinity := ['-', 'i', 'n', 'f']
      notANumber := ['N', 'a', 'N'] }

namespace Json

mutual

/-- Whether a value is well formed to its end, so that it can be skipped. -/
def intact : Json → Bool
  | .broken => false
  | .array items => itemsIntact items
  | .object members => membersIntact members
  | _ => true

/-- Whether all items are well formed. -/
def itemsIntact : List Json → Bool
  | [] => true
  | item :: rest => intact item && itemsIntact rest

/-- Whether all members are well formed. -/
def membersIntact : List (String × Json) → Bool
  | [] => true
  | (_, value) :: rest => intact value && membersIntact rest

end

/-- What a value is reported as; nothing for a part of the text that is malformed. -/
def found? : Json → Option Found
  | .null => some .null
  | .boolean value => some (.boolean value)
  | .integer value => some (.integer value)
  | .float value => some (.float value)
  | .string value => some (.text value)
  | .array _ => some .sequence
  | .object _ => some .mapping
  | .unreadable | .broken => none

/-- The fault of a value that stands where something else is expected. -/
def fault (expected : String) (value : Json) : JsonFault :=
  match value.found? with
  | some found => .mismatch (.wrongType found expected)
  | none => .malformed

/-- Read a text. -/
def toText : Json → Except JsonFault String
  | .string value => .ok value
  | other => .error (other.fault "a string")

/-- Read a text or null. -/
def toOptionalText : Json → Except JsonFault (Option String)
  | .null => .ok none
  | other => other.toText.map some

/-- Read a 32-bit number. -/
def toWord : Json → Except JsonFault UInt32
  | .integer value =>
      if 0 ≤ value ∧ value < Nat.pow 2 32 then .ok (UInt32.ofNat value.toNat)
      else .error (.mismatch (.wrongValue (.integer value) "u32"))
  | other => .error (other.fault "u32")

/-- Read all items of a list in order. -/
def readAll {α : Type} (read : Json → Except JsonFault α) : List Json → Except JsonFault (List α)
  | [] => .ok []
  | item :: rest => do
      let first ← read item
      let others ← readAll read rest
      pure (first :: others)

/-- Read a sequence. -/
def toSequence {α : Type} (read : Json → Except JsonFault α) : Json → Except JsonFault (List α)
  | .array items => readAll read items
  | other => .error (other.fault "a sequence")

/-- Read a record from its members or from its fields in order. -/
def toRecord {α : Type} (name : String) (ofMembers : List (String × Json) → Except JsonFault α)
    (ofItems : List Json → Except JsonFault α) : Json → Except JsonFault α
  | .object members => ofMembers members
  | .array items => ofItems items
  | other => .error (other.fault ("struct " ++ name))

/-- Skip the value of a member that a record does not know. -/
def skip {α : Type} (draft : α) (value : Json) : Except JsonFault α :=
  if value.intact then .ok draft else .error .malformed

/-- The value of a field that has to be given. -/
def require {α : Type} (name : String) : Option α → Except JsonFault α
  | some value => .ok value
  | none => .error (.mismatch (.missingField name))

/-- Fill the slot of a field, once. -/
def fill {α : Type} (name : String) (slot : Option α) (read : Except JsonFault α) :
    Except JsonFault (Option α) :=
  fillOnce (.mismatch (.duplicateField name)) slot read

/-- The fault of an array that ends before a field that has to be given. -/
def tooShort (length : Nat) (expected : String) : JsonFault :=
  .mismatch (.wrongLength length expected)

/-- Nothing may follow the last field in an array. -/
def finish {α : Type} (result : α) : List Json → Except JsonFault α
  | [] => .ok result
  | _ :: _ => .error .malformed

end Json

namespace JsonText

/-- Read a record from a text that holds nothing else. -/
def decode {α : Type} (read : Json → Except JsonFault α) (text : JsonText) :
    Except JsonFault α := do
  let result ← read text.value
  if text.trailing then .error .malformed else pure result

end JsonText

end RunAtlas
