import RunAtlas.Yaml.Cursor

/-!
# Headers of block scalars

After its indicator, a block scalar may say how to treat the line breaks at its end and by how much
it is indented, in either order.
-/

namespace RunAtlas.Yaml

/-- What becomes of the line breaks at the end of a block scalar: one is kept, none, or all. -/
inductive Chomping where
  | clip
  | strip
  | keep
deriving Repr, DecidableEq

/-- The header of a block scalar. -/
structure BlockHeader where
  chomping : Chomping
  /-- The indentation relative to the collection around the scalar, if it is given. -/
  indentation : Option Nat
deriving Repr, DecidableEq

namespace BlockHeader

/-- The chomping indicator at the cursor. -/
def chomping? (cursor : Cursor) : Option Chomping :=
  if cursor.isAt '+' then some .keep else if cursor.isAt '-' then some .strip else none

/-- The digit at the cursor, if there is one. -/
def digit? (cursor : Cursor) : Option Nat :=
  match cursor.peek with
  | some c => if c.isDigit then some (c.toNat - '0'.toNat) else none
  | none => none

/-- Read the header after the indicator.  An indentation of zero is wrong. -/
def read (cursor : Cursor) : Option (BlockHeader × Cursor) :=
  match chomping? cursor with
  | some chomping =>
      let cursor := cursor.advance 1
      match digit? cursor with
      | some 0 => none
      | some count => some (⟨chomping, some count⟩, cursor.advance 1)
      | none => some (⟨chomping, none⟩, cursor)
  | none =>
      match digit? cursor with
      | some 0 => none
      | some count =>
          let cursor := cursor.advance 1
          match chomping? cursor with
          | some chomping => some (⟨chomping, some count⟩, cursor.advance 1)
          | none => some (⟨.clip, some count⟩, cursor)
      | none => some (⟨.clip, none⟩, cursor)

end BlockHeader

end RunAtlas.Yaml
