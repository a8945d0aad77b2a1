import RunAtlas.MachineWord

/-!
# Lines of a text

A line index lists the character offsets at which the lines of a text start.  A line ends at LF,
or at a CR that no LF follows, so that a CR LF pair ends one line, at its LF.  Offsets count
characters, columns count from zero and lines count from one.

The two questions asked of an index are the line of an offset (`LineIndex.lineOf`) and the offset
of a line and column.  The latter is a sum, which `LineIndex.offsetOf` adds up exactly.  A program
adds it up in machine words that may have no room for it (`LineIndex.offsetIn?`); it finds the exact
offset wherever they have.
-/

namespace RunAtlas.Text

/-- Whether a line ends at the character `first` when `rest` follows it. -/
def endsLine (first : Char) (rest : List Char) : Bool :=
  first = '\n' || (first = '\r' && rest.head? != some '\n')

/-- The offsets just past the line ends of a text that begins at `offset`. -/
def lineStartsFrom (offset : Nat) : List Char → List Nat
  | [] => []
  | first :: rest =>
      if endsLine first rest then (offset + 1) :: lineStartsFrom (offset + 1) rest
      else lineStartsFrom (offset + 1) rest

/-- The line starts of one text.  The first line starts at offset zero and is not stored; the
others are stored in increasing order. -/
structure LineIndex where
  laterStarts : List Nat
deriving Repr, DecidableEq, Inhabited

namespace LineIndex

/-- Index the lines of a text. -/
def ofText (text : String) : LineIndex :=
  ⟨lineStartsFrom 0 text.toList⟩

/-- The offset at which each line starts. -/
def starts (index : LineIndex) : List Nat :=
  0 :: index.laterStarts

/-- The number of lines.  Every text has at least one. -/
def lineCount (index : LineIndex) : Nat :=
  index.starts.length

/-- The start of the last line. -/
def lastStart (index : LineIndex) : Nat :=
  index.laterStarts.getLastD 0

/-- The line of the character at `offset`: as many lines as start no later.  An offset past the
end of the text stands on the last line. -/
def lineOf (index : LineIndex) (offset : Nat) : Nat :=
  index.starts.countP (· ≤ offset)

/-- The offset of a column of a line, exactly.  Line zero is read as line one, and every position on
a line past the last one is the start of the last line. -/
def offsetOf (index : LineIndex) (line column : Nat) : Nat :=
  match index.starts[line - 1]? with
  | some start => start + column
  | none => index.lastStart

/-- The offset of a column of a line as a program that counts in machine words finds it. -/
def offsetIn? (word : MachineWord) (index : LineIndex) (line column : Nat) : Option Nat :=
  match index.starts[line - 1]? with
  | some start => word.add? start column
  | none => some index.lastStart

/-- Every offset stands on a line. -/
theorem one_le_lineOf (index : LineIndex) (offset : Nat) : 1 ≤ index.lineOf offset := by
  simp [lineOf, starts]

/-- No offset stands past the last line. -/
theorem lineOf_le_lineCount (index : LineIndex) (offset : Nat) :
    index.lineOf offset ≤ index.lineCount :=
  List.countP_le_length

/-- A later offset never stands on an earlier line. -/
theorem lineOf_mono (index : LineIndex) {first second : Nat} (ordered : first ≤ second) :
    index.lineOf first ≤ index.lineOf second := by
  apply List.countP_mono_left
  intro start _ reached
  simp only [decide_eq_true_eq] at reached ⊢
  omega

end LineIndex

end RunAtlas.Text
