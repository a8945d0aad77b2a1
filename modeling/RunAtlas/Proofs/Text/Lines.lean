import RunAtlas.Text.LineIndex

/-!
# Lines as texts

`lines` cuts a text at its line ends and leaves them out.  A line index has one start for every
line, the starts increase, and a line ends before the next one starts.  An offset stands on the line
that is the last one to start no later, which is `LineIndex.lineOf_eq_of_starts`.
-/

namespace RunAtlas.Text

/-- The lines of a text without what ends them. -/
def lines : List Char → List (List Char)
  | [] => [[]]
  | '\r' :: '\n' :: rest => [] :: lines rest
  | first :: rest =>
      if first = '\n' ∨ first = '\r' then [] :: lines rest
      else (lines rest).modifyHead (first :: ·)

theorem lines_pair (rest : List Char) : lines ('\r' :: '\n' :: rest) = [] :: lines rest := by
  rw [lines]

theorem lines_break {first : Char} {rest : List Char}
    (unpaired : ∀ others, first = '\r' → rest = '\n' :: others → False)
    (ends : first = '\n' ∨ first = '\r') : lines (first :: rest) = [] :: lines rest := by
  rw [lines.eq_3 _ _ unpaired, if_pos ends]

theorem lines_other {first : Char} (rest : List Char) (other : ¬ (first = '\n' ∨ first = '\r')) :
    lines (first :: rest) = (lines rest).modifyHead (first :: ·) := by
  rw [lines.eq_3 _ _ fun _ same _ => other (.inr same), if_neg other]

/-! ## Where lines start -/

theorem lineStartsFrom_pair (offset : Nat) (rest : List Char) :
    lineStartsFrom offset ('\r' :: '\n' :: rest) =
      (offset + 2) :: lineStartsFrom (offset + 2) rest := by
  simp [lineStartsFrom, endsLine]

theorem lineStartsFrom_break {first : Char} {rest : List Char}
    (unpaired : ∀ others, first = '\r' → rest = '\n' :: others → False)
    (ends : first = '\n' ∨ first = '\r') (offset : Nat) :
    lineStartsFrom offset (first :: rest) = (offset + 1) :: lineStartsFrom (offset + 1) rest := by
  have ended : endsLine first rest = true := by
    rcases ends with rfl | rfl
    · simp [endsLine]
    · cases rest with
      | nil => simp [endsLine]
      | cons second others =>
          have single : second ≠ '\n' := fun same => unpaired others rfl (by rw [same])
          simp [endsLine, single]
  simp [lineStartsFrom, ended]

theorem lineStartsFrom_other {first : Char} (rest : List Char)
    (other : ¬ (first = '\n' ∨ first = '\r')) (offset : Nat) :
    lineStartsFrom offset (first :: rest) = lineStartsFrom (offset + 1) rest := by
  have inside : endsLine first rest = false := by
    simp only [not_or] at other
    simp [endsLine, other]
  simp [lineStartsFrom, inside]

/-- Every line but the first has a start that is listed. -/
theorem length_lines (text : List Char) (offset : Nat) :
    (lines text).length = (lineStartsFrom offset text).length + 1 := by
  fun_induction lines text generalizing offset with
  | case1 => simp [lineStartsFrom]
  | case2 rest ih => simp [lineStartsFrom_pair, ih (offset + 2)]
  | case3 first rest unpaired ends ih =>
      simp [lineStartsFrom_break unpaired ends, ih (offset + 1)]
  | case4 first rest unpaired other ih =>
      simp [lineStartsFrom_other rest other, ih (offset + 1)]

theorem lt_of_mem_lineStartsFrom {text : List Char} {offset start : Nat}
    (member : start ∈ lineStartsFrom offset text) : offset < start := by
  induction text generalizing offset with
  | nil => simp [lineStartsFrom] at member
  | cons first rest ih =>
      have later : start ∈ lineStartsFrom (offset + 1) rest → offset < start :=
        fun rest => Nat.lt_of_succ_lt (ih rest)
      rw [lineStartsFrom] at member
      split at member
      · rcases List.mem_cons.mp member with rfl | rest
        · exact Nat.lt_succ_self offset
        · exact later rest
      · exact later member

/-- The starts of lines increase. -/
theorem pairwise_lineStartsFrom (text : List Char) (offset : Nat) :
    (offset :: lineStartsFrom offset text).Pairwise (· < ·) := by
  refine List.pairwise_cons.mpr ⟨fun start => lt_of_mem_lineStartsFrom, ?_⟩
  induction text generalizing offset with
  | nil => simp [lineStartsFrom]
  | cons first rest ih =>
      rw [lineStartsFrom]
      split
      · exact List.pairwise_cons.mpr ⟨fun start => lt_of_mem_lineStartsFrom, ih (offset + 1)⟩
      · exact ih (offset + 1)

/-- No line starts at the offset from which starts are listed. -/
theorem countP_lineStartsFrom_self (text : List Char) (offset : Nat) :
    (lineStartsFrom offset text).countP (· ≤ offset) = 0 := by
  apply List.countP_eq_zero.mpr
  intro start member
  have later := lt_of_mem_lineStartsFrom member
  simp only [decide_eq_true_eq]
  omega

/-- A line and what ends it stand before the start of the next line. -/
theorem start_add_length_lt_next {text line : List Char} {offset k start next : Nat}
    (found : (lines text)[k]? = some line)
    (foundStart : (offset :: lineStartsFrom offset text)[k]? = some start)
    (foundNext : (lineStartsFrom offset text)[k]? = some next) : start + line.length < next := by
  fun_induction lines text generalizing offset k line start with
  | case1 => simp [lineStartsFrom] at foundNext
  | case2 rest ih =>
      rw [lineStartsFrom_pair] at foundStart foundNext
      cases k with
      | zero =>
          simp only [List.getElem?_cons_zero, Option.some.injEq] at found foundStart foundNext
          subst found foundStart foundNext
          simp
      | succ k =>
          exact ih (by simpa using found) (by simpa using foundStart) (by simpa using foundNext)
  | case3 first rest unpaired ends ih =>
      rw [lineStartsFrom_break unpaired ends] at foundStart foundNext
      cases k with
      | zero =>
          simp only [List.getElem?_cons_zero, Option.some.injEq] at found foundStart foundNext
          subst found foundStart foundNext
          simp
      | succ k =>
          exact ih (by simpa using found) (by simpa using foundStart) (by simpa using foundNext)
  | case4 first rest unpaired other ih =>
      rw [lineStartsFrom_other rest other] at foundStart foundNext
      -- The first line is one character longer and starts one character earlier.
      cases shape : lines rest with
      | nil => simp [shape] at found
      | cons head others =>
          rw [shape] at found ih
          cases k with
          | zero =>
              simp only [List.modifyHead_cons, List.getElem?_cons_zero, Option.some.injEq] at found
              simp only [List.getElem?_cons_zero, Option.some.injEq] at foundStart
              have inner : offset + 1 + head.length < next := ih (k := 0) rfl rfl foundNext
              subst found foundStart
              simp only [List.length_cons]
              omega
          | succ k => exact ih (by simpa using found) (by simpa using foundStart) foundNext

/-! ## Counting starts -/

/-- Of increasing starts, those that an offset has reached come first, as many as are counted. -/
theorem le_iff_lt_countP {starts : List Nat} (increasing : starts.Pairwise (· < ·))
    {k start : Nat} (found : starts[k]? = some start) (offset : Nat) :
    start ≤ offset ↔ k < starts.countP (· ≤ offset) := by
  induction starts generalizing k with
  | nil => simp at found
  | cons first rest ih =>
      obtain ⟨firstLess, increasingRest⟩ := List.pairwise_cons.mp increasing
      by_cases reached : first ≤ offset
      · rw [List.countP_cons_of_pos (by simpa using reached)]
        cases k with
        | zero =>
            obtain rfl : first = start := by simpa using found
            simp [reached]
        | succ k => rw [Nat.add_lt_add_iff_right, ih increasingRest (by simpa using found)]
      · -- No start after one that is not reached is reached either.
        have past : ∀ later ∈ first :: rest, offset < later := by
          refine List.forall_mem_cons.mpr ⟨Nat.lt_of_not_le reached, fun later member => ?_⟩
          exact Nat.lt_trans (Nat.lt_of_not_le reached) (firstLess later member)
        have none : (first :: rest).countP (· ≤ offset) = 0 :=
          List.countP_eq_zero.mpr fun later member => by simpa using past later member
        have startPast := past start (List.mem_of_getElem? found)
        rw [none]
        omega

namespace LineIndex

theorem pairwise_starts_ofText (text : String) : (ofText text).starts.Pairwise (· < ·) :=
  pairwise_lineStartsFrom text.toList 0

/-- An index counts as many lines as the text has. -/
theorem lineCount_ofText (text : String) : (ofText text).lineCount = (lines text.toList).length :=
  (length_lines text.toList 0).symm

theorem one_le_lineCount (index : LineIndex) : 1 ≤ index.lineCount := by
  simp [lineCount, starts]

/-- An offset that is reached by a line and not by the next one stands on that line. -/
theorem lineOf_eq_of_starts {index : LineIndex} (increasing : index.starts.Pairwise (· < ·))
    {k start offset : Nat} (found : index.starts[k]? = some start) (reached : start ≤ offset)
    (before : ∀ next, index.starts[k + 1]? = some next → offset < next) :
    index.lineOf offset = k + 1 := by
  have atLeast : k < index.lineOf offset := (le_iff_lt_countP increasing found offset).mp reached
  have atMost : index.lineOf offset ≤ k + 1 := by
    cases foundNext : index.starts[k + 1]? with
    | none =>
        exact Nat.le_trans (lineOf_le_lineCount index offset)
          (List.getElem?_eq_none_iff.mp foundNext)
    | some next =>
        apply Nat.le_of_not_lt
        intro further
        have reachedNext := (le_iff_lt_countP increasing foundNext offset).mpr further
        exact absurd (before next foundNext) (Nat.not_lt_of_le reachedNext)
  omega

theorem getElem?_starts_last (index : LineIndex) :
    index.starts[index.lineCount - 1]? = some index.lastStart := by
  rw [lineCount, ← List.getLast?_eq_getElem?, starts, List.getLast?_cons, lastStart,
    List.getLastD_eq_getLast?]

/-- The start of the last line stands on the last line. -/
theorem lineOf_lastStart {index : LineIndex} (increasing : index.starts.Pairwise (· < ·)) :
    index.lineOf index.lastStart = index.lineCount := by
  rw [lineOf_eq_of_starts increasing (getElem?_starts_last index) (Nat.le_refl _),
    Nat.sub_add_cancel index.one_le_lineCount]
  intro next foundNext
  have bound : index.lineCount - 1 + 1 < index.lineCount :=
    (List.getElem?_eq_some_iff.mp foundNext).1
  omega

end LineIndex

end RunAtlas.Text
