import RunAtlas.Decimal.Numeral
import RunAtlas.Yaml.Cursor

/-!
# Tags in the text

A tag is written verbatim between angle brackets, or as a handle and a suffix.  Its characters may
be escaped octet by octet with percent signs.  The versions of YAML differ in the characters that
they allow and in what escaped octets spell, which a `TagRules` holds.
-/

namespace RunAtlas.Yaml

open Decimal

/-- A piece of a tag: a character as it is, or the octets of an escaped one. -/
inductive TagPiece where
  | plain (c : Char)
  | escaped (octets : List Nat)

/-- What the versions of YAML decide differently about tags. -/
structure TagRules where
  isSuffixChar : Char → Bool
  isVerbatimChar : Char → Bool
  /-- The text that pieces spell. -/
  spell? : List TagPiece → Option (List Char)
  /-- Whether a verbatim tag may be empty. -/
  allowsEmptyVerbatim : Bool

namespace TagName

/-- One escaped octet. -/
def octet? : List Char → Option Nat
  | '%' :: high :: low :: _ => wholeNumber? 16 [high, low]
  | _ => none

/-- How many octets belong to a character whose first octet this is. -/
def octetCount? (first : Nat) : Option Nat :=
  if first < 0x80 then some 1
  else if 0xC0 ≤ first ∧ first < 0xE0 then some 2
  else if 0xE0 ≤ first ∧ first < 0xF0 then some 3
  else if 0xF0 ≤ first ∧ first < 0xF8 then some 4
  else none

/-- Escaped octets that continue a character. -/
def laterOctets? : (count : Nat) → List Char → Option (List Nat)
  | 0, _ => some []
  | count + 1, text =>
      match octet? text with
      | some octet =>
          if 0x80 ≤ octet ∧ octet < 0xC0 then
            (laterOctets? count (text.drop 3)).map (octet :: ·)
          else none
      | none => none

/-- The octets of one escaped character. -/
def octets? (text : List Char) : Option (List Nat) :=
  match octet? text with
  | none => none
  | some first =>
      match octetCount? first with
      | none => none
      | some count => (laterOctets? (count - 1) (text.drop 3)).map (first :: ·)

/-- Read the pieces of a tag that start with an allowed character; they are in reverse. -/
def readPieces (isAllowed : Char → Bool) :
    (bound : Nat) → (pieces : List TagPiece) → Cursor → Option (List TagPiece × Cursor)
  | 0, pieces, cursor => some (pieces, cursor)
  | bound + 1, pieces, cursor =>
      match cursor.peek with
      | none => some (pieces, cursor)
      | some c =>
          if !isAllowed c then some (pieces, cursor)
          else if c = '%' then
            match octets? cursor.rest with
            | none => none
            | some octets =>
                readPieces isAllowed bound (.escaped octets :: pieces)
                  (cursor.advance (3 * octets.length))
          else readPieces isAllowed bound (.plain c :: pieces) (cursor.advance 1)

/-- Read allowed characters, at least one of them unless there may be none, and what they spell. -/
def readText (rules : TagRules) (isAllowed : Char → Bool) (mayBeEmpty : Bool) (cursor : Cursor) :
    Option (List Char × Cursor) :=
  match readPieces isAllowed cursor.size [] cursor with
  | none => none
  | some (pieces, after) =>
      if pieces.isEmpty && !mayBeEmpty then none
      else (rules.spell? pieces.reverse).map (·, after)

/-- Read a handle: an exclamation mark, a word and possibly a second mark. -/
def readHandle? (cursor : Cursor) : Option (List Char × Cursor) :=
  if cursor.isAt '!' then
    let (word, after) := (cursor.advance 1).takeWhile isWordChar
    if after.isAt '!' then some ('!' :: word ++ ['!'], after.advance 1)
    else some ('!' :: word, after)
  else none

/-- Whether a handle is closed by a second mark. -/
def isClosed (handle : List Char) : Bool :=
  2 ≤ handle.length && handle.getLast? == some '!'

/-- Read the tag at the cursor as a handle and a suffix.  A verbatim tag has no handle.  The tag
that is only an exclamation mark has no handle and that mark as its suffix. -/
def read (rules : TagRules) (cursor : Cursor) : Option ((List Char × List Char) × Cursor) :=
  if cursor.peekAt 1 == some '<' then
    match readText rules rules.isVerbatimChar rules.allowsEmptyVerbatim (cursor.advance 2) with
    | some (suffix, after) =>
        if after.isAt '>' then some (([], suffix), after.advance 1) else none
    | none => none
  else
    match readHandle? cursor with
    | none => none
    | some (handle, afterHandle) =>
        if isClosed handle then
          (readText rules rules.isSuffixChar false afterHandle).map fun (suffix, after) =>
            ((handle, suffix), after)
        else
          (readText rules rules.isSuffixChar true afterHandle).map fun (text, after) =>
            let suffix := handle.drop 1 ++ text
            if suffix.isEmpty then (([], ['!']), after) else ((['!'], suffix), after)

end TagName

end RunAtlas.Yaml
