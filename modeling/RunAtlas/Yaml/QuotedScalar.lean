import RunAtlas.Decimal.Numeral
import RunAtlas.Yaml.Gap

/-!
# Quoted scalars

Single quotes know one escape, the doubled quote; double quotes have escapes that start with a
backslash, among them the escaped line break, which stands for nothing.  A quoted scalar may not
reach over the start or end of a document.
-/

namespace RunAtlas.Yaml

open Decimal

/-- What the versions of YAML decide differently about quoted scalars. -/
structure QuotedRules where
  isBreak : Char → Bool
  /-- The least column at which a line of the scalar may start. -/
  leastColumn : Int
  /-- What to do with a tab before the first character of a line. -/
  leadingTab : Cursor → Option Cursor

namespace QuotedScalar

/-- The quotation mark. -/
def mark (single : Bool) : Char :=
  if single then '\x27' else '\x22'

/-- The character of a short escape. -/
def shortEscape? : Char → Option Char
  | '0' => some '\x00'
  | 'a' => some '\x07'
  | 'b' => some '\x08'
  | 't' => some '\t'
  | '\t' => some '\t'
  | 'n' => some '\n'
  | 'v' => some '\x0b'
  | 'f' => some '\x0c'
  | 'r' => some '\r'
  | 'e' => some '\x1b'
  | ' ' => some ' '
  | '\x22' => some '\x22'
  | '/' => some '/'
  | '\x5c' => some '\x5c'
  | 'N' => some '\u0085'
  | '_' => some '\u00A0'
  | 'L' => some '\u2028'
  | 'P' => some '\u2029'
  | _ => none

/-- The number of hexadecimal digits after an escape that gives a character by its code. -/
def codeWidth? : Char → Option Nat
  | 'x' => some 2
  | 'u' => some 4
  | 'U' => some 8
  | _ => none

/-- The character that an escape stands for, and the number of characters after the backslash. -/
def readEscape? : List Char → Option (Char × Nat)
  | [] => none
  | selector :: rest =>
      match shortEscape? selector with
      | some c => some (c, 1)
      | none =>
          match codeWidth? selector with
          | none => none
          | some width =>
              let digits := rest.take width
              if digits.length < width then none
              else
                match wholeNumber? 16 digits with
                | none => none
                | some code =>
                    if code.isValidChar then some (Char.ofNat code, width + 1) else none

/-- How a piece of a quoted scalar ends: at the closing quote, a blank, a line break or the end of
the text, or just past an escaped line break. -/
structure Piece where
  /-- The text so far, in reverse. -/
  text : List Char
  after : Cursor
  escapedBreak : Bool

/-- Read the characters of a piece. -/
def readPiece (rules : QuotedRules) (single : Bool) :
    (bound : Nat) → (text : List Char) → Cursor → Option Piece
  | 0, text, cursor => some ⟨text, cursor, false⟩
  | bound + 1, text, cursor =>
      match cursor.peek with
      | none => some ⟨text, cursor, false⟩
      | some c =>
          if isBlank c || rules.isBreak c then some ⟨text, cursor, false⟩
          else if c = mark single then
            if single && cursor.peekAt 1 == some c then
              readPiece rules single bound (c :: text) (cursor.advance 2)
            else some ⟨text, cursor, false⟩
          else if !single && c = '\x5c' then
            if (cursor.peekAt 1).any rules.isBreak then
              some ⟨text, (cursor.advance 1).crossBreak, true⟩
            else
              match readEscape? (cursor.rest.drop 1) with
              | none => none
              | some (meaning, width) =>
                  readPiece rules single bound (meaning :: text) (cursor.advance (width + 1))
          else readPiece rules single bound (c :: text) (cursor.advance 1)

/-- Read pieces and gaps up to the closing quote. -/
def readPieces (rules : QuotedRules) (single : Bool) :
    (bound : Nat) → (text : List Char) → Cursor → Option (List Char × Cursor)
  | 0, _, _ => none
  | bound + 1, text, cursor =>
      if cursor.atDocumentMarker (fun c => isBlank c || rules.isBreak c) then none
      else if cursor.rest.isEmpty then none
      else if (cursor.column : Int) < rules.leastColumn then none
      else
        match readPiece rules single cursor.size text cursor with
        | none => none
        | some piece =>
            if piece.after.isAt (mark single) then
              some (piece.text.reverse, piece.after.advance 1)
            else
              let gap := if piece.escapedBreak then Gap.escaped else Gap.empty
              match readGap rules.isBreak rules.leadingTab piece.after.size gap
                  piece.after with
              | none => none
              | some (gap, cursor) =>
                  readPieces rules single bound (gap.reversedText ++ piece.text) cursor

/-- Read the scalar whose opening quote stands at the cursor. -/
def read (rules : QuotedRules) (single : Bool) (cursor : Cursor) :
    Option (List Char × Cursor) :=
  readPieces rules single (cursor.size + 1) [] (cursor.advance 1)

end QuotedScalar

end RunAtlas.Yaml
