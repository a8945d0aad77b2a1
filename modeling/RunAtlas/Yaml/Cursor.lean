/-!
# Cursors in a YAML text

A mark is a place in a text: the number of characters before it, its line from one and its column
from zero.  A cursor is a mark together with the text that follows it.  Moving a cursor only drops
characters from the text, and every move says whether it stays on the line.
-/

namespace RunAtlas.Yaml

/-- A place in a text. -/
structure Mark where
  index : Nat
  line : Nat
  column : Nat
deriving Repr, DecidableEq, Inhabited

namespace Mark

/-- The place before the first character. -/
def origin : Mark :=
  ⟨0, 1, 0⟩

end Mark

/-- A blank of YAML: a space or a tab. -/
def isBlank (c : Char) : Bool :=
  c = ' ' || c = '\t'

/-- The indicators that structure flow collections. -/
def isFlowIndicator (c : Char) : Bool :=
  c = ',' || c = '[' || c = ']' || c = '{' || c = '}'

/-- A letter, digit, hyphen or underscore. -/
def isWordChar (c : Char) : Bool :=
  c.isAlphanum || c = '-' || c = '_'

/-- The rest of a text and the place where it starts. -/
structure Cursor where
  rest : List Char
  mark : Mark
  /-- The number of characters of the whole text, which no walk through the rest exceeds. -/
  size : Nat
deriving Repr, Inhabited

namespace Cursor

/-- A cursor before the first character of a text. -/
def ofText (text : List Char) : Cursor :=
  ⟨text, .origin, text.length⟩

/-- The next character. -/
def peek (cursor : Cursor) : Option Char :=
  cursor.rest.head?

/-- The character that stands `distance` characters further. -/
def peekAt (cursor : Cursor) (distance : Nat) : Option Char :=
  cursor.rest[distance]?

/-- Whether the next character is `c`. -/
def isAt (cursor : Cursor) (c : Char) : Bool :=
  cursor.peek == some c

/-- The column of the cursor. -/
def column (cursor : Cursor) : Nat :=
  cursor.mark.column

/-- Move over characters of the line. -/
def advance (cursor : Cursor) (count : Nat) : Cursor :=
  { cursor with
    rest := cursor.rest.drop count
    mark :=
      { cursor.mark with
        index := cursor.mark.index + count
        column := cursor.mark.column + count } }

/-- Move over the characters of a line break. -/
def nextLine (cursor : Cursor) (count : Nat) : Cursor :=
  { cursor with
    rest := cursor.rest.drop count
    mark := ⟨cursor.mark.index + count, cursor.mark.line + 1, 0⟩ }

/-- Move over a line break, which is one character or the pair CR LF. -/
def crossBreak (cursor : Cursor) : Cursor :=
  match cursor.rest with
  | '\r' :: '\n' :: _ => cursor.nextLine 2
  | _ => cursor.nextLine 1

/-- What a scalar holds for the line break at the cursor: a line or paragraph separator stands for
itself, and every other break for LF. -/
def breakText (cursor : Cursor) : List Char :=
  match cursor.peek with
  | some '\u2028' => ['\u2028']
  | some '\u2029' => ['\u2029']
  | _ => ['\n']

/-- Move over the characters of the line that satisfy a condition. -/
def skipWhile (cursor : Cursor) (condition : Char → Bool) : Cursor :=
  cursor.advance (cursor.rest.takeWhile condition).length

/-- The characters of the line that satisfy a condition, and the place after them. -/
def takeWhile (cursor : Cursor) (condition : Char → Bool) : List Char × Cursor :=
  (cursor.rest.takeWhile condition, cursor.skipWhile condition)

/-- Whether the cursor stands at the end of the text or at a character that satisfies a
condition. -/
def atEndOr (cursor : Cursor) (condition : Char → Bool) : Bool :=
  cursor.peek.all condition

/-- Whether the text ends `distance` characters further, or has there a character that satisfies a
condition. -/
def atEndOrAt (cursor : Cursor) (distance : Nat) (condition : Char → Bool) : Bool :=
  (cursor.peekAt distance).all condition

/-- Whether three equal characters stand at the start of a line, with the end of the text or a
character that satisfies `separates` after them. -/
def atMarker (cursor : Cursor) (c : Char) (separates : Char → Bool) : Bool :=
  cursor.column = 0 && [c, c, c].isPrefixOf cursor.rest && cursor.atEndOrAt 3 separates

/-- Whether a document starts or ends at the cursor. -/
def atDocumentMarker (cursor : Cursor) (separates : Char → Bool) : Bool :=
  cursor.atMarker '-' separates || cursor.atMarker '.' separates

end Cursor

end RunAtlas.Yaml
