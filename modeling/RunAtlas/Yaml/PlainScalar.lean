import RunAtlas.Yaml.Gap

/-!
# Plain scalars

A plain scalar is read in pieces of characters that are neither blanks nor line breaks, with gaps
between them.  The two versions of YAML differ in where a piece ends and where the scalar does; a
`PlainRules` holds these differences.
-/

namespace RunAtlas.Yaml

/-- What a rule says about the cursor: the scalar goes on, it ends here, or the text is wrong. -/
inductive Verdict where
  | goesOn
  | ends
  | wrong
deriving Repr, DecidableEq

/-- What the versions of YAML decide differently about plain scalars. -/
structure PlainRules where
  isBreak : Char → Bool
  /-- Judges the start of a piece. -/
  pieceStart : Cursor → Verdict
  /-- Judges a character of a piece. -/
  character : Cursor → Verdict
  /-- What to do with a tab before the first character of a line. -/
  leadingTab : Cursor → Option Cursor
  /-- Whether a line that goes on at this column belongs to the scalar no more. -/
  leavesAt : Nat → Bool

/-- A plain scalar: its text, the place after it and after the gap that follows it, and whether that
gap crosses a line break. -/
structure PlainScalar where
  text : List Char
  after : Cursor
  crossedBreak : Bool

namespace PlainScalar

/-- Read one piece after the text and gap read so far.  The text is in reverse. -/
def readPiece (rules : PlainRules) :
    (bound : Nat) → (text : List Char) → Gap → Cursor → Option (List Char × Gap × Cursor)
  | 0, text, gap, cursor => some (text, gap, cursor)
  | bound + 1, text, gap, cursor =>
      match cursor.peek with
      | none => some (text, gap, cursor)
      | some c =>
          if isBlank c || rules.isBreak c then some (text, gap, cursor)
          else
            match rules.character cursor with
            | .wrong => none
            | .ends => some (text, gap, cursor)
            | .goesOn =>
                readPiece rules bound (c :: (gap.reversedText ++ text)) .empty (cursor.advance 1)

/-- Read pieces and gaps until the scalar ends. -/
def readPieces (rules : PlainRules) :
    (bound : Nat) → (text : List Char) → Gap → Cursor → Option PlainScalar
  | 0, text, gap, cursor => some ⟨text.reverse, cursor, gap.crossesBreak⟩
  | bound + 1, text, gap, cursor =>
      match rules.pieceStart cursor with
      | .wrong => none
      | .ends => some ⟨text.reverse, cursor, gap.crossesBreak⟩
      | .goesOn =>
          match readPiece rules cursor.size text gap cursor with
          | none => none
          | some (text, gap, cursor) =>
              if cursor.peek.any fun c => isBlank c || rules.isBreak c then
                match readGap rules.isBreak rules.leadingTab cursor.size gap cursor with
                | none => none
                | some (gap, cursor) =>
                    if rules.leavesAt cursor.column then
                      some ⟨text.reverse, cursor, gap.crossesBreak⟩
                    else readPieces rules bound text gap cursor
              else some ⟨text.reverse, cursor, gap.crossesBreak⟩

/-- Read the plain scalar that starts at the cursor. -/
def read (rules : PlainRules) (cursor : Cursor) : Option PlainScalar :=
  readPieces rules (cursor.size + 1) [] .empty cursor

end PlainScalar

end RunAtlas.Yaml
