import Mathlib.Data.List.Sort
import Mathlib.Data.Nat.Count
import RunAtlas.Proofs.Text.Lines

/-!
# Positions in a text

The starts of lines stand just past the line ends of a text, so that the line of an offset counts
the line ends before it (`LineIndex.lineOf_ofText`).  The starts increase, and those that an offset
has reached come first.  So every offset is that of one column of one line, and `LineIndex.lineOf`
and `LineIndex.offsetOf` lead from one to the other and back.  A program that counts in machine
words is led the same way as far as a word has room for the offsets (`LineIndex.roundTrips_ofText`).
-/

namespace RunAtlas.Text

/-- A line ends at a line feed, and at a carriage return that no line feed follows. -/
def LineEndsAt (text : List Char) (position : Nat) : Prop :=
  text[position]? = some '\n' ∨ (text[position]? = some '\r' ∧ text[position + 1]? ≠ some '\n')

instance (text : List Char) : DecidablePred (LineEndsAt text) := fun position =>
  inferInstanceAs (Decidable
    (text[position]? = some '\n' ∨
      (text[position]? = some '\r' ∧ text[position + 1]? ≠ some '\n')))

theorem LineEndsAt.lt_length {text : List Char} {position : Nat} (ends : LineEndsAt text position) :
    position < text.length := by
  rcases ends with lineFeed | ⟨carriageReturn, -⟩
  · exact (List.getElem?_eq_some_iff.mp lineFeed).1
  · exact (List.getElem?_eq_some_iff.mp carriageReturn).1

theorem lineEndsAt_cons_zero {first : Char} {rest : List Char} :
    LineEndsAt (first :: rest) 0 ↔ endsLine first rest = true := by
  simp [LineEndsAt, endsLine, List.head?_eq_getElem?]

theorem lineEndsAt_cons_succ {first : Char} {rest : List Char} {position : Nat} :
    LineEndsAt (first :: rest) (position + 1) ↔ LineEndsAt rest position :=
  Iff.rfl

/-- Two texts break their lines at the same positions with the same characters. -/
def SameBreaks (text other : List Char) : Prop :=
  ∀ (position : Nat) (c : Char), c = '\n' ∨ c = '\r' →
    (text[position]? = some c ↔ other[position]? = some c)

theorem SameBreaks.lineEndsAt_iff {text other : List Char} (same : SameBreaks text other)
    (position : Nat) : LineEndsAt text position ↔ LineEndsAt other position := by
  have lineFeed (position : Nat) := same position '\n' (.inl rfl)
  have carriageReturn := same position '\r' (.inr rfl)
  rw [LineEndsAt, LineEndsAt, Ne, Ne, lineFeed, lineFeed, carriageReturn]

/-! ## Starts and line ends -/

/-- The starts that are listed stand just past the line ends. -/
theorem mem_lineStartsFrom_iff {text : List Char} {offset start : Nat} :
    start ∈ lineStartsFrom offset text ↔
      ∃ position, LineEndsAt text position ∧ start = offset + position + 1 := by
  induction text generalizing offset with
  | nil => simp [lineStartsFrom, LineEndsAt]
  | cons first rest ih =>
      have later : start ∈ lineStartsFrom (offset + 1) rest ↔
          ∃ position, LineEndsAt (first :: rest) (position + 1) ∧
            start = offset + (position + 1) + 1 := by
        rw [ih]
        refine exists_congr fun position => and_congr lineEndsAt_cons_succ.symm ?_
        omega
      rw [← Nat.or_exists_add_one, ← later, lineEndsAt_cons_zero, lineStartsFrom]
      by_cases ended : endsLine first rest = true <;> simp [ended]

/-- As many starts are reached from one offset to another as lines end between them. -/
theorem countP_lineStartsFrom (text : List Char) (offset distance : Nat) :
    (lineStartsFrom offset text).countP (· ≤ offset + distance) =
      Nat.count (LineEndsAt text) distance := by
  induction text generalizing offset distance with
  | nil => simp [lineStartsFrom, LineEndsAt, Nat.count]
  | cons first rest ih =>
      cases distance with
      | zero => rw [Nat.add_zero, countP_lineStartsFrom_self, Nat.count_zero]
      | succ distance =>
          have later := ih (offset + 1) distance
          rw [Nat.add_right_comm, Nat.add_assoc] at later
          rw [Nat.count_succ', lineStartsFrom]
          simp only [lineEndsAt_cons_succ, lineEndsAt_cons_zero, ← later]
          by_cases ended : endsLine first rest = true <;> simp [ended]

/-- Texts with the same line breaks have the same starts. -/
theorem SameBreaks.lineStartsFrom_eq {text other : List Char} (same : SameBreaks text other)
    (offset : Nat) : lineStartsFrom offset text = lineStartsFrom offset other := by
  apply (pairwise_lineStartsFrom text offset).of_cons.eq_of_mem_iff
    (pairwise_lineStartsFrom other offset).of_cons
  intro start
  simp only [mem_lineStartsFrom_iff, same.lineEndsAt_iff]

namespace LineIndex

/-! ## The line of an offset -/

theorem lineOf_ofText (text : String) (offset : Nat) :
    (ofText text).lineOf offset = 1 + Nat.count (LineEndsAt text.toList) offset := by
  have counted := countP_lineStartsFrom text.toList 0 offset
  rw [Nat.zero_add] at counted
  rw [lineOf, starts, List.countP_cons_of_pos (by simp), ofText, counted, Nat.add_comm]

/-- No line starts past the end of the text. -/
theorem le_length_of_mem_starts {text : String} {start : Nat}
    (member : start ∈ (ofText text).starts) : start ≤ text.length := by
  rcases List.mem_cons.mp member with rfl | later
  · exact Nat.zero_le _
  · obtain ⟨position, ends, rfl⟩ := mem_lineStartsFrom_iff.mp later
    have bound := ends.lt_length
    rw [String.length_toList] at bound
    omega

/-- Every offset past the end of the text stands on the last line. -/
theorem lineOf_of_length_le {text : String} {offset : Nat} (past : text.length ≤ offset) :
    (ofText text).lineOf offset = (ofText text).lineCount := by
  refine List.countP_eq_length.mpr fun start member => ?_
  have bound := le_length_of_mem_starts member
  simp only [decide_eq_true_eq]
  omega

/-- The line of an offset counts the line ends before it.  The starts begin with zero, increase and
stay in the text, and as many of them as the line of an offset says, the first ones, are reached by
it.  So the line lies between one and the number of lines, never goes back, and is the last line
past the end of the text.  Only line breaks and their positions matter. -/
theorem lineOf_counts_lineEnds (text : String) :
    (∀ offset, (ofText text).lineOf offset = 1 + Nat.count (LineEndsAt text.toList) offset) ∧
    ((ofText text).starts.head? = some 0 ∧ (ofText text).starts.Pairwise (· < ·) ∧
      ∀ start ∈ (ofText text).starts, start ≤ text.length) ∧
    (∀ k start, (ofText text).starts[k]? = some start →
      ∀ offset, start ≤ offset ↔ k < (ofText text).lineOf offset) ∧
    (∀ offset, 1 ≤ (ofText text).lineOf offset ∧
      (ofText text).lineOf offset ≤ (ofText text).lineCount) ∧
    (∀ first second, first ≤ second →
      (ofText text).lineOf first ≤ (ofText text).lineOf second) ∧
    (∀ offset, text.length ≤ offset → (ofText text).lineOf offset = (ofText text).lineCount) ∧
    ∀ other : String, SameBreaks text.toList other.toList → ofText text = ofText other := by
  have increasing := pairwise_starts_ofText text
  refine ⟨lineOf_ofText text, ⟨rfl, increasing, fun start => le_length_of_mem_starts⟩, ?_, ?_,
    fun first second => lineOf_mono _, fun offset => lineOf_of_length_le, ?_⟩
  · intro k start found offset
    exact le_iff_lt_countP increasing found offset
  · intro offset
    exact ⟨one_le_lineOf _ offset, lineOf_le_lineCount _ offset⟩
  · intro other same
    rw [ofText, ofText, same.lineStartsFrom_eq]

/-- Of the carriage returns before a pair, in a pair and at the end, all but that of the pair end a
line. -/
theorem lineOf_mixedBreaks :
    (ofText "é\r\r\n\n\r").starts = [0, 2, 4, 5, 6] ∧
    (∀ offset, 4 ≤ offset ↔ 2 < (ofText "é\r\r\n\n\r").lineOf offset) ∧
    (ofText "é\r\r\n\n\r").lineOf 3 ≤ (ofText "é\r\r\n\n\r").lineOf 4 ∧
    (ofText "é\r\r\n\n\r").lineOf 9 = (ofText "é\r\r\n\n\r").lineCount ∧
    ofText "é\r\r\n\n\r" = ofText "e\r\r\n\n\r" := by
  obtain ⟨-, -, reached, -, ordered, past, same⟩ := lineOf_counts_lineEnds "é\r\r\n\n\r"
  refine ⟨by decide, reached 2 4 (by decide), ordered 3 4 (by decide), past 9 (by decide),
    same "e\r\r\n\n\r" ?_⟩
  intro position c isBreak
  rcases position with _ | position
  · rcases isBreak with rfl | rfl <;> decide
  · exact Iff.rfl

/-! ## Places -/

/-- A line of an index and a column that stands before the next line.  On the last line every
column does. -/
structure IsPlace (index : LineIndex) (line column : Nat) : Prop where
  positive : 1 ≤ line
  le_lineCount : line ≤ index.lineCount
  before_next : ∀ start ∈ index.starts[line - 1]?, ∀ next ∈ index.starts[line]?,
    start + column < next

instance (index : LineIndex) (line column : Nat) : Decidable (index.IsPlace line column) :=
  decidable_of_iff
    (1 ≤ line ∧ line ≤ index.lineCount ∧
      ∀ start ∈ index.starts[line - 1]?, ∀ next ∈ index.starts[line]?, start + column < next)
    ⟨fun ⟨positive, bounded, before⟩ => ⟨positive, bounded, before⟩,
      fun place => ⟨place.positive, place.le_lineCount, place.before_next⟩⟩

theorem offsetOf_of_start {index : LineIndex} {line start : Nat}
    (found : index.starts[line - 1]? = some start) (column : Nat) :
    index.offsetOf line column = start + column := by
  rw [offsetOf, found]

theorem IsPlace.exists_start {index : LineIndex} {line column : Nat}
    (place : index.IsPlace line column) : ∃ start, index.starts[line - 1]? = some start := by
  have bound : line - 1 < index.starts.length := by
    have := place.positive
    have := place.le_lineCount
    rw [lineCount] at this
    omega
  exact ⟨_, List.getElem?_eq_getElem bound⟩

/-- No line past the last one starts. -/
theorem getElem?_starts_past {index : LineIndex} {line : Nat} (past : index.lineCount < line) :
    index.starts[line - 1]? = none :=
  List.getElem?_eq_none (Nat.le_sub_one_of_lt past)

section RoundTrips

variable {index : LineIndex} (increasing : index.starts.Pairwise (· < ·))

include increasing

theorem IsPlace.lineOf_offsetOf {line column : Nat} (place : index.IsPlace line column) :
    index.lineOf (index.offsetOf line column) = line := by
  obtain ⟨start, found⟩ := place.exists_start
  have restored : line - 1 + 1 = line := Nat.sub_add_cancel place.positive
  rw [offsetOf_of_start found,
    lineOf_eq_of_starts increasing found (Nat.le_add_right start column), restored]
  rw [restored]
  exact place.before_next start found

theorem IsPlace.unique {line column otherLine otherColumn : Nat}
    (place : index.IsPlace line column) (other : index.IsPlace otherLine otherColumn)
    (same : index.offsetOf line column = index.offsetOf otherLine otherColumn) :
    line = otherLine ∧ column = otherColumn := by
  obtain rfl : line = otherLine := by
    rw [← place.lineOf_offsetOf increasing, same, other.lineOf_offsetOf increasing]
  obtain ⟨start, found⟩ := place.exists_start
  rw [offsetOf_of_start found, offsetOf_of_start found] at same
  exact ⟨rfl, Nat.add_left_cancel same⟩

theorem lineOf_offsetOf_past {line : Nat} (past : index.lineCount < line) (column : Nat) :
    index.lineOf (index.offsetOf line column) = index.lineCount := by
  rw [offsetOf, getElem?_starts_past past]
  exact lineOf_lastStart increasing

end RoundTrips

/-- A column that is no further than the length of its line, without what ends it, is a place. -/
theorem isPlace_of_le_length {text : String} {line column : Nat} {content : List Char}
    (positive : 1 ≤ line) (found : (lines text.toList)[line - 1]? = some content)
    (inside : column ≤ content.length) : (ofText text).IsPlace line column where
  positive := positive
  le_lineCount := by
    have bound := (List.getElem?_eq_some_iff.mp found).1
    rw [lineCount_ofText]
    omega
  before_next := by
    intro start foundStart next foundNext
    rw [← Nat.sub_add_cancel positive] at foundNext
    have ends := start_add_length_lt_next found foundStart foundNext
    omega

/-- A column that stays on its line leads to an offset of that line.  A line past the last one is
read as the last one. -/
theorem lineOf_offsetOf {text : String} {line column : Nat} (positive : 1 ≤ line)
    (inside : ∀ content, (lines text.toList)[line - 1]? = some content → column ≤ content.length) :
    (ofText text).lineOf ((ofText text).offsetOf line column) =
      min line (ofText text).lineCount := by
  have increasing := pairwise_starts_ofText text
  cases found : (lines text.toList)[line - 1]? with
  | some content =>
      have place := isPlace_of_le_length positive found (inside content found)
      rw [place.lineOf_offsetOf increasing, Nat.min_eq_left place.le_lineCount]
  | none =>
      have past : (ofText text).lineCount < line := by
        have bound := List.getElem?_eq_none_iff.mp found
        rw [← lineCount_ofText] at bound
        omega
      rw [lineOf_offsetOf_past increasing past, Nat.min_eq_right (Nat.le_of_lt past)]

end LineIndex

end RunAtlas.Text
