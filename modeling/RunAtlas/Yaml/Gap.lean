import RunAtlas.Yaml.Cursor

/-!
# Gaps inside scalars

Between two pieces of a plain or quoted scalar stand blanks and line breaks.  Blanks within a line
stand for themselves.  Once there is a line break, the blanks around it are dropped and the breaks
are folded: a single one stands for a space, and of several the first is dropped.
-/

namespace RunAtlas.Yaml

/-- A gap: its blanks in reverse while it has no line break, the text of its first line break, and
the text of the later ones in reverse. -/
structure Gap where
  blanks : List Char
  firstBreak : Option (List Char)
  laterBreaks : List Char
deriving Repr

namespace Gap

/-- The gap in which nothing stands. -/
def empty : Gap :=
  ⟨[], none, []⟩

/-- The gap that starts with an escaped line break, which stands for nothing. -/
def escaped : Gap :=
  ⟨[], some [], []⟩

/-- Whether the gap crosses a line break. -/
def crossesBreak (gap : Gap) : Bool :=
  gap.firstBreak.isSome

/-- The gap with one more blank. -/
def addBlank (gap : Gap) (c : Char) : Gap :=
  if gap.crossesBreak then gap else { gap with blanks := c :: gap.blanks }

/-- The gap with one more line break. -/
def addBreak (gap : Gap) (text : List Char) : Gap :=
  match gap.firstBreak with
  | none => ⟨[], some text, []⟩
  | some _ => { gap with laterBreaks := text.reverse ++ gap.laterBreaks }

/-- The text that a gap stands for, in reverse. -/
def reversedText (gap : Gap) : List Char :=
  match gap.firstBreak with
  | none => gap.blanks
  | some first =>
      if first = ['\n'] then
        if gap.laterBreaks.isEmpty then [' '] else gap.laterBreaks
      else gap.laterBreaks ++ first.reverse

end Gap

/-- Read a gap from the cursor on.  `leadingTab` says what to do with a tab that stands before the
first character of a line.  Every step moves on, so a bound of the length of the text is never
met. -/
def readGap (isBreak : Char → Bool) (leadingTab : Cursor → Option Cursor) :
    (bound : Nat) → Gap → Cursor → Option (Gap × Cursor)
  | 0, gap, cursor => some (gap, cursor)
  | bound + 1, gap, cursor =>
      match cursor.peek with
      | none => some (gap, cursor)
      | some c =>
          if isBlank c then
            if gap.crossesBreak && c = '\t' then
              match leadingTab cursor with
              | some after => readGap isBreak leadingTab bound gap after
              | none => none
            else readGap isBreak leadingTab bound (gap.addBlank c) (cursor.advance 1)
          else if isBreak c then
            readGap isBreak leadingTab bound (gap.addBreak cursor.breakText) cursor.crossBreak
          else some (gap, cursor)

end RunAtlas.Yaml
