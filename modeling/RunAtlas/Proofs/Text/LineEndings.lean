import RunAtlas.Proofs.Text.Positions

/-!
# Texts whose lines end differently

A text without carriage returns can be written with another line ending: every line feed becomes a
carriage return, or a pair of both.  The lines stay the same, and every offset has a counterpart in
the other text that stands on the same line, although the two offsets may differ.
-/

namespace RunAtlas.Text

/-- What ends the lines of a text. -/
inductive LineEnding where
  | lineFeed
  | carriageReturn
  /-- A carriage return and a line feed, which end one line together. -/
  | pair
deriving Repr, DecidableEq

namespace LineEnding

/-- The characters of a line ending. -/
def chars : LineEnding → List Char
  | .lineFeed => ['\n']
  | .carriageReturn => ['\r']
  | .pair => ['\r', '\n']

/-- A text with every line feed written as another line ending. -/
def rewrite (ending : LineEnding) (text : List Char) : List Char :=
  text.flatMap fun c => if c = '\n' then ending.chars else [c]

/-- A text with every line feed written as another line ending. -/
def rewriteText (ending : LineEnding) (text : String) : String :=
  String.ofList (ending.rewrite text.toList)

/-- Where the character at `offset` stands once the text is rewritten: further by as much as the
line feeds before it have grown. -/
def moved (ending : LineEnding) (text : List Char) (offset : Nat) : Nat :=
  offset + (ending.chars.length - 1) * (text.take offset).count '\n'

@[simp]
theorem toList_rewriteText (ending : LineEnding) (text : String) :
    (ending.rewriteText text).toList = ending.rewrite text.toList :=
  String.toList_ofList

theorem rewrite_lineFeed_cons (ending : LineEnding) (rest : List Char) :
    ending.rewrite ('\n' :: rest) = ending.chars ++ ending.rewrite rest :=
  rfl

theorem rewrite_cons_of_ne (ending : LineEnding) {first : Char} (other : first ≠ '\n')
    (rest : List Char) : ending.rewrite (first :: rest) = first :: ending.rewrite rest := by
  simp [rewrite, other]

@[simp]
theorem moved_zero (ending : LineEnding) (text : List Char) : ending.moved text 0 = 0 := by
  simp [moved]

/-- With pairs, every line feed before an offset counts twice. -/
theorem moved_pair (text : List Char) (offset : Nat) :
    pair.moved text offset = offset + (text.take offset).count '\n' := by
  simp [moved, chars]

/-- With carriage returns, every character stays in its place. -/
theorem moved_carriageReturn (text : List Char) (offset : Nat) :
    carriageReturn.moved text offset = offset := by
  simp [moved, chars]

theorem moved_lineFeed_cons (ending : LineEnding) (rest : List Char) (offset : Nat) :
    ending.moved ('\n' :: rest) (offset + 1) =
      ending.chars.length + ending.moved rest offset := by
  have someChars : 1 ≤ ending.chars.length := by cases ending <;> decide
  simp only [moved, List.take_succ_cons, List.count_cons_self, Nat.mul_add, Nat.mul_one]
  omega

theorem moved_cons_of_ne (ending : LineEnding) {first : Char} (other : first ≠ '\n')
    (rest : List Char) (offset : Nat) :
    ending.moved (first :: rest) (offset + 1) = 1 + ending.moved rest offset := by
  simp only [moved, List.take_succ_cons, List.count_cons_of_ne other]
  omega

/-! ## Lines -/

/-- A text whose line feeds have become carriage returns has no line feed. -/
theorem lineFeed_not_mem_rewrite (text : List Char) : '\n' ∉ carriageReturn.rewrite text := by
  intro member
  obtain ⟨c, -, written⟩ := List.mem_flatMap.mp member
  by_cases lineFeed : c = '\n'
  · simp [lineFeed, chars] at written
  · rw [if_neg lineFeed, List.mem_singleton] at written
    exact lineFeed written.symm

/-- A carriage return that stands for a line feed is never half of a pair. -/
theorem unpaired_carriageReturn (text : List Char) :
    ∀ others, '\r' = '\r' → carriageReturn.rewrite text = '\n' :: others → False := by
  intro others _ shape
  apply lineFeed_not_mem_rewrite text
  rw [shape]
  exact List.mem_cons_self

/-- A rewritten line feed ends one line. -/
theorem lines_chars_append (ending : LineEnding) (rest : List Char) :
    lines (ending.chars ++ ending.rewrite rest) = [] :: lines (ending.rewrite rest) := by
  cases ending with
  | lineFeed => exact lines_break (by simp) (.inl rfl)
  | carriageReturn => exact lines_break (unpaired_carriageReturn rest) (.inr rfl)
  | pair => exact lines_pair _

/-- A rewritten line feed lets one line start, just past it. -/
theorem lineStartsFrom_chars_append (ending : LineEnding) (rest : List Char) (offset : Nat) :
    lineStartsFrom offset (ending.chars ++ ending.rewrite rest) =
      (offset + ending.chars.length) ::
        lineStartsFrom (offset + ending.chars.length) (ending.rewrite rest) := by
  cases ending with
  | lineFeed => exact lineStartsFrom_break (by simp) (.inl rfl) offset
  | carriageReturn => exact lineStartsFrom_break (unpaired_carriageReturn rest) (.inr rfl) offset
  | pair => exact lineStartsFrom_pair offset _

/-- Another line ending leaves the lines of a text as they are. -/
theorem lines_rewrite (ending : LineEnding) {text : List Char} (plain : '\r' ∉ text) :
    lines (ending.rewrite text) = lines text := by
  induction text with
  | nil => rfl
  | cons first rest ih =>
      rw [List.mem_cons, not_or] at plain
      have ih := ih plain.2
      by_cases lineFeed : first = '\n'
      · subst lineFeed
        rw [rewrite_lineFeed_cons, lines_chars_append, ih, lines_break (by simp) (.inl rfl)]
      · have inside : ¬ (first = '\n' ∨ first = '\r') := not_or.mpr ⟨lineFeed, Ne.symm plain.1⟩
        rw [rewrite_cons_of_ne ending lineFeed, lines_other _ inside, lines_other _ inside, ih]

/-- As many lines start up to an offset as start up to its counterpart. -/
theorem countP_lineStartsFrom_rewrite (ending : LineEnding) {text : List Char}
    (plain : '\r' ∉ text) (start other offset : Nat) :
    (lineStartsFrom other (ending.rewrite text)).countP (· ≤ other + ending.moved text offset) =
      (lineStartsFrom start text).countP (· ≤ start + offset) := by
  induction text generalizing start other offset with
  | nil => rfl
  | cons first rest ih =>
      cases offset with
      | zero => simp only [moved_zero, Nat.add_zero, countP_lineStartsFrom_self]
      | succ offset =>
          rw [List.mem_cons, not_or] at plain
          have further : start + (offset + 1) = start + 1 + offset := by omega
          by_cases lineFeed : first = '\n'
          · subst lineFeed
            have ih := ih plain.2 (start + 1) (other + ending.chars.length) offset
            rw [rewrite_lineFeed_cons, moved_lineFeed_cons, lineStartsFrom_chars_append,
              lineStartsFrom_break (by simp) (.inl rfl), further, ← Nat.add_assoc,
              List.countP_cons, List.countP_cons, ih]
            simp
          · have inside : ¬ (first = '\n' ∨ first = '\r') :=
              not_or.mpr ⟨lineFeed, Ne.symm plain.1⟩
            have ih := ih plain.2 (start + 1) (other + 1) offset
            rw [rewrite_cons_of_ne ending lineFeed, moved_cons_of_ne ending lineFeed,
              lineStartsFrom_other _ inside, lineStartsFrom_other _ inside, further,
              ← Nat.add_assoc, ih]

end LineEnding

namespace LineIndex

open LineEnding

variable (ending : LineEnding) {text : String}

/-- Line zero is read as line one. -/
theorem offsetOf_sub_one_add_one (index : LineIndex) (line column : Nat) :
    index.offsetOf (line - 1 + 1) column = index.offsetOf line column :=
  rfl

/-- Another line ending leaves the number of lines as it is. -/
theorem lineCount_rewriteText (plain : '\r' ∉ text.toList) :
    (ofText (ending.rewriteText text)).lineCount = (ofText text).lineCount := by
  rw [lineCount_ofText, lineCount_ofText, toList_rewriteText, lines_rewrite ending plain]

/-- An offset and its counterpart in the rewritten text stand on the same line. -/
theorem lineOf_moved (plain : '\r' ∉ text.toList) (offset : Nat) :
    (ofText (ending.rewriteText text)).lineOf (ending.moved text.toList offset) =
      (ofText text).lineOf offset := by
  have counted := countP_lineStartsFrom_rewrite ending plain 0 0 offset
  rw [Nat.zero_add, Nat.zero_add] at counted
  simp only [lineOf, starts, ofText, toList_rewriteText, List.countP_cons, counted]
  simp

/-- A column that stays on its line leads to the same line in both texts. -/
theorem lineOf_offsetOf_rewriteText (plain : '\r' ∉ text.toList) {line column : Nat}
    (inside : ∀ content, (lines text.toList)[line - 1]? = some content →
      column ≤ content.length) :
    (ofText (ending.rewriteText text)).lineOf
        ((ofText (ending.rewriteText text)).offsetOf line column) =
      (ofText text).lineOf ((ofText text).offsetOf line column) := by
  have insideOther : ∀ content,
      (lines (ending.rewriteText text).toList)[line - 1 + 1 - 1]? = some content →
        column ≤ content.length := by
    rw [toList_rewriteText, lines_rewrite ending plain]
    exact inside
  have positive : 1 ≤ line - 1 + 1 := Nat.le_add_left 1 _
  rw [← offsetOf_sub_one_add_one, ← (ofText text).offsetOf_sub_one_add_one,
    lineOf_offsetOf positive insideOther, lineOf_offsetOf positive inside,
    lineCount_rewriteText ending plain]

end LineIndex

end RunAtlas.Text
