import RunAtlas.Proofs.Text.Placeholders

/-!
# Texts divided at their placeholders

A division cuts a text into parts that are kept and parts that are left out.  At placeholders, each
part that is left out is the first placeholder behind the one before it, and the last kept part has
no placeholder.  Every text has exactly one such division.  It is also the one at the matches of an
opening, anything and a closing, each of which begins as far to the left and then ends as early as
it can.  The kept parts are what `removePlaceholders` leaves (`removePlaceholders_keepsLiterals`).
-/

namespace RunAtlas.Text

/-- A text cut into parts that are kept and parts that are left out. -/
inductive Division
  /-- The text is kept as a whole. -/
  | last (kept : List Char)
  /-- A part that is kept, one that is left out, and the rest of the text. -/
  | next (kept removed : List Char) (rest : Division)
deriving Repr, DecidableEq

namespace Division

/-- The text that is divided. -/
def text : Division → List Char
  | last kept => kept
  | next kept removed rest => kept ++ (removed ++ rest.text)

/-- The kept parts, joined. -/
def kept : Division → List Char
  | last kept => kept
  | next kept _ rest => kept ++ rest.kept

@[simp]
theorem text_last (kept : List Char) : (last kept).text = kept :=
  rfl

@[simp]
theorem text_next (kept removed : List Char) (rest : Division) :
    (next kept removed rest).text = kept ++ (removed ++ rest.text) :=
  rfl

@[simp]
theorem kept_last (kept : List Char) : (last kept).kept = kept :=
  rfl

@[simp]
theorem kept_next (kept removed : List Char) (rest : Division) :
    (next kept removed rest).kept = kept ++ rest.kept :=
  rfl

theorem length_kept_le (division : Division) : division.kept.length ≤ division.text.length := by
  induction division with
  | last kept => exact Nat.le_refl _
  | next kept removed rest ih =>
      rw [kept_next, text_next, List.length_append, List.length_append, List.length_append]
      omega

/-- Each part that is left out is the first placeholder behind the one before it, and the text
behind the last one has no opening that a closing follows. -/
inductive AtPlaceholders : Division → Prop
  | last {kept : List Char} (absent : ∀ expression, ¬ placeholder expression <:+: kept) :
      AtPlaceholders (last kept)
  | next {kept removed : List Char} {rest : Division} (reaches : ReachesPlaceholder kept removed)
      (others : AtPlaceholders rest) : AtPlaceholders (next kept removed rest)

end Division

/-! ## Matches -/

/-- A match that begins as far to the left in a text as any, and of those that begin there is the
shortest. -/
structure IsFirstMatch (pattern : List Char → Prop) (before found after : List Char) : Prop where
  isMatch : pattern found
  leftmost : ∀ position < before.length, ∀ other,
    StandsAt other (before ++ (found ++ after)) position → ¬ pattern other
  shortest : ∀ other, other <+: found ++ after → pattern other → found.length ≤ other.length

namespace IsFirstMatch

variable {pattern : List Char → Prop} {before found after : List Char}
  {otherBefore otherFound otherAfter : List Char}

theorem length_le (first : IsFirstMatch pattern before found after)
    (other : IsFirstMatch pattern otherBefore otherFound otherAfter)
    (same : before ++ (found ++ after) = otherBefore ++ (otherFound ++ otherAfter)) :
    before.length ≤ otherBefore.length := by
  apply Nat.le_of_not_lt
  intro earlier
  apply first.leftmost _ earlier otherFound _ other.isMatch
  rw [same]
  exact standsAt_length otherBefore otherFound otherAfter

/-- A text has one first match. -/
theorem unique (first : IsFirstMatch pattern before found after)
    (second : IsFirstMatch pattern otherBefore otherFound otherAfter)
    (same : before ++ (found ++ after) = otherBefore ++ (otherFound ++ otherAfter)) :
    before = otherBefore ∧ found = otherFound ∧ after = otherAfter := by
  have sameLength : before.length = otherBefore.length :=
    Nat.le_antisymm (first.length_le second same) (second.length_le first same.symm)
  obtain ⟨sameBefore, sameRest⟩ := List.append_inj same sameLength
  have notLonger : found.length ≤ otherFound.length :=
    first.shortest otherFound ⟨otherAfter, sameRest.symm⟩ second.isMatch
  have notShorter : otherFound.length ≤ found.length :=
    second.shortest found ⟨after, sameRest⟩ first.isMatch
  exact ⟨sameBefore, List.append_inj sameRest (Nat.le_antisymm notLonger notShorter)⟩

/-- A text with a first match has a match. -/
theorem occurs (first : IsFirstMatch pattern before found after) :
    ¬ ∀ other, other <:+: before ++ (found ++ after) → ¬ pattern other :=
  fun absent => absent found ⟨before, after, List.append_assoc _ _ _⟩ first.isMatch

end IsFirstMatch

/-- Each part that is left out is the first match in the text behind the one before it, and the text
behind the last one has no match. -/
inductive Division.AtMatches (pattern : List Char → Prop) : Division → Prop
  | last {kept : List Char} (absent : ∀ other, other <:+: kept → ¬ pattern other) :
      AtMatches pattern (.last kept)
  | next {kept removed : List Char} {rest : Division}
      (first : IsFirstMatch pattern kept removed rest.text) (others : AtMatches pattern rest) :
      AtMatches pattern (.next kept removed rest)

/-- A text has no two divisions at the matches of one pattern. -/
theorem Division.AtMatches.unique {pattern : List Char → Prop} {first second : Division}
    (firstAt : first.AtMatches pattern) (secondAt : second.AtMatches pattern)
    (same : first.text = second.text) : first = second := by
  induction firstAt generalizing second with
  | last absent =>
      cases secondAt with
      | last _ => exact congrArg Division.last same
      | next firstMatch _ =>
          obtain rfl : _ = _ := same
          exact absurd absent firstMatch.occurs
  | next firstMatch _ ih =>
      cases secondAt with
      | last absent =>
          obtain rfl : _ = _ := same
          exact absurd absent firstMatch.occurs
      | next secondMatch othersAt =>
          obtain ⟨rfl, rfl, sameRest⟩ := firstMatch.unique secondMatch same
          rw [ih othersAt sameRest]

/-! ## Placeholders as matches -/

/-- What is matched: an opening, anything, line breaks included, and a closing. -/
def IsPlaceholder (text : List Char) : Prop :=
  ∃ expression, text = placeholder expression

/-- The first match of a text is the placeholder that is reached first. -/
theorem IsFirstMatch.reachesPlaceholder {kept removed after : List Char}
    (first : IsFirstMatch IsPlaceholder kept removed after) : ReachesPlaceholder kept removed := by
  obtain ⟨expression, rfl⟩ := first.isMatch
  rw [reachesPlaceholder_iff, ← isFirstFrom_closing_iff after]
  refine ⟨?_, Nat.zero_le _, standsAt_length expression closing after, ?_⟩
  · -- An opening in the kept text would begin a match further to the left.
    rintro ⟨front, between, rfl⟩
    have inside : front.length < (front ++ opening ++ between).length := by
      simp only [opening, List.length_append, List.length_cons]
      omega
    have stands := standsAt_length front (placeholder (between ++ opening ++ expression)) after
    have shape : front ++ (placeholder (between ++ opening ++ expression) ++ after) =
        front ++ opening ++ between ++ (placeholder expression ++ after) := by
      simp [placeholder]
    rw [shape] at stands
    exact first.leftmost _ inside _ stands ⟨_, rfl⟩
  · -- An earlier closing would end a shorter match.
    intro earlier before _ stands
    obtain ⟨behind, shape⟩ := stands.exists_eq_append
    have leads : placeholder ((expression ++ (closing ++ after)).take earlier) <+:
        placeholder expression ++ after :=
      ⟨behind, by rw [placeholder_append, placeholder_append, ← shape]⟩
    have shortest := first.shortest _ leads ⟨_, rfl⟩
    rw [length_placeholder, length_placeholder, List.length_take] at shortest
    omega

/-- The placeholder that is reached first is the first match, whatever follows it. -/
theorem ReachesPlaceholder.isFirstMatch {kept removed : List Char}
    (reaches : ReachesPlaceholder kept removed) (after : List Char) :
    IsFirstMatch IsPlaceholder kept removed after := by
  obtain ⟨expression, rfl⟩ := reaches.exists_expression
  obtain ⟨plain, firstClosing⟩ := reachesPlaceholder_iff.mp reaches
  rw [← isFirstFrom_opening_iff (expression ++ (closing ++ after)), ← placeholder_append] at plain
  rw [← isFirstFrom_closing_iff after] at firstClosing
  refine ⟨⟨expression, rfl⟩, ?_, ?_⟩
  · rintro position before _ stands ⟨other, rfl⟩
    exact plain.first position before (Nat.zero_le _)
      ((opening_leads_placeholder other).trans stands)
  · rintro _ ⟨behind, same⟩ ⟨other, rfl⟩
    rw [placeholder_append, placeholder_append, List.append_cancel_left_eq] at same
    have stands := standsAt_length other closing behind
    rw [same] at stands
    rw [length_placeholder, length_placeholder]
    apply Nat.add_le_add_right
    apply Nat.le_of_not_lt
    intro shorter
    exact firstClosing.first _ shorter (Nat.zero_le _) stands

theorem Division.atMatches_iff_atPlaceholders {division : Division} :
    division.AtMatches IsPlaceholder ↔ division.AtPlaceholders := by
  constructor
  · intro atMatches
    induction atMatches with
    | last absent =>
        exact .last fun expression inside => absent _ inside ⟨expression, rfl⟩
    | next first _ ih =>
        exact .next first.reachesPlaceholder ih
  · intro atPlaceholders
    induction atPlaceholders with
    | last absent =>
        apply Division.AtMatches.last
        rintro _ inside ⟨expression, rfl⟩
        exact absent expression inside
    | next reaches _ ih =>
        exact .next (reaches.isFirstMatch _) ih

/-- Every text has a division at its placeholders. -/
theorem exists_division (text : List Char) :
    ∃ division : Division, division.text = text ∧ division.AtPlaceholders := by
  -- A placeholder takes away many characters at once, so the induction is on the length.
  induction bound : text.length using Nat.strong_induction_on generalizing text with
  | _ length ih =>
      subst bound
      by_cases found : ∃ expression, placeholder expression <:+: text
      · obtain ⟨expression, inside⟩ := found
        obtain ⟨kept, removed, back, rfl, reaches⟩ := exists_first_placeholder inside
        obtain ⟨expression, rfl⟩ := reaches.exists_expression
        have shorter : back.length < (kept ++ (placeholder expression ++ back)).length := by
          rw [List.length_append, List.length_append, length_placeholder]
          omega
        obtain ⟨rest, rfl, atPlaceholders⟩ := ih back.length shorter back rfl
        exact ⟨.next kept (placeholder expression) rest, rfl, .next reaches atPlaceholders⟩
      · exact ⟨.last text, rfl, .last (not_exists.mp found)⟩

/-- What is left of a text are the kept parts of its division. -/
theorem Division.AtPlaceholders.removePlaceholders_text {division : Division}
    (atPlaceholders : division.AtPlaceholders) :
    removePlaceholders division.text = division.kept := by
  induction atPlaceholders with
  | last absent => rw [text_last, kept_last, removePlaceholders_of_no_placeholder absent]
  | next reaches _ ih => rw [text_next, removePlaceholders_append reaches, ih, kept_next]

/-! ## What is left -/

/-- Removing the placeholders of a text keeps its literal parts. -/
structure KeepsLiterals (text : List Char) : Prop where
  /-- The text has one division at its placeholders, which is also the one at the matches of their
  pattern.  Its kept parts are left. -/
  divided : ∃ division : Division,
    (∀ other : Division, other.text = text ∧ other.AtPlaceholders ↔ other = division) ∧
    (∀ other : Division, other.text = text ∧ other.AtMatches IsPlaceholder ↔ other = division) ∧
    removePlaceholders text = division.kept
  /-- An opening that is never closed is kept, with everything behind it. -/
  unclosed : ∀ front back, text = front ++ (opening ++ back) → ¬ closing <:+: back →
    removePlaceholders text = removePlaceholders front ++ (opening ++ back)
  /-- The texts without a placeholder are those that stay as they are. -/
  unchanged_iff : removePlaceholders text = text ↔ ∀ expression, ¬ placeholder expression <:+: text
  /-- A placeholder may be empty. -/
  empty : ∀ front back, text = front ++ (placeholder [] ++ back) → ¬ opening <:+: front →
    removePlaceholders text = front ++ removePlaceholders back
  /-- The removal goes on behind a placeholder, and the text before it is not looked at again. -/
  onward : ∀ front removed back, text = front ++ (removed ++ back) →
    ReachesPlaceholder front removed → removePlaceholders text = front ++ removePlaceholders back
  /-- What becomes a placeholder only by the removal is kept. -/
  joined : ∀ front removed back, text = front ++ (removed ++ back) →
    ReachesPlaceholder front removed → (∀ expression, ¬ placeholder expression <:+: back) →
      removePlaceholders text = front ++ back

/-- What is left of a text is the text only if nothing is left out. -/
theorem Division.AtPlaceholders.absent_of_kept_eq {division : Division}
    (atPlaceholders : division.AtPlaceholders) (same : division.kept = division.text)
    (expression : List Char) : ¬ placeholder expression <:+: division.text := by
  cases atPlaceholders with
  | last absent => exact absent expression
  | @next kept removed rest reaches _ =>
      obtain ⟨expression, rfl⟩ := reaches.exists_expression
      have bound := rest.length_kept_le
      have lengths := congrArg List.length same
      rw [kept_next, text_next, List.length_append, List.length_append, List.length_append,
        length_placeholder] at lengths
      omega

/-- Removing placeholders keeps exactly the literal text, in a single pass. -/
theorem removePlaceholders_keepsLiterals (text : List Char) : KeepsLiterals text := by
  obtain ⟨division, rfl, atPlaceholders⟩ := exists_division text
  have left := atPlaceholders.removePlaceholders_text
  -- Divisions at placeholders are divisions at matches, and of those a text has no two.
  have unique : ∀ other : Division,
      other.text = division.text ∧ other.AtPlaceholders ↔ other = division := by
    intro other
    constructor
    · rintro ⟨same, otherAt⟩
      rw [← Division.atMatches_iff_atPlaceholders] at otherAt atPlaceholders
      exact otherAt.unique atPlaceholders same
    · rintro rfl
      exact ⟨rfl, atPlaceholders⟩
  refine ⟨⟨division, unique, ?_, left⟩, ?_, ⟨?_, removePlaceholders_of_no_placeholder⟩, ?_, ?_, ?_⟩
  · intro other
    rw [Division.atMatches_iff_atPlaceholders]
    exact unique other
  · intro front back shape unclosed
    rw [shape]
    exact removePlaceholders_append_of_unclosed unclosed front
  · intro same
    exact atPlaceholders.absent_of_kept_eq (left.symm.trans same)
  · intro front back shape plain
    rw [shape]
    exact removePlaceholders_append
      (reachesPlaceholder_iff.mpr ⟨plain, by decide, by decide⟩) back
  · intro front removed back shape reaches
    rw [shape]
    exact removePlaceholders_append reaches back
  · intro front removed back shape reaches absent
    rw [shape, removePlaceholders_append reaches, removePlaceholders_of_no_placeholder absent]

/-- A name with a dollar sign in front of an opening, a line break in a placeholder, an empty
placeholder, one before a third brace, and an opening that is never closed. -/
def crowdedName : Division :=
  .next "$".toList "$\x7b\x7b a\n\x7d\x7d".toList
    (.next "\x7b\x7b b \x7d\x7d-".toList "$\x7b\x7b\x7d\x7d".toList
      (.next [] "$\x7b\x7bc\x7d\x7d".toList (.last "\x7d $\x7b\x7b d".toList)))

/-- The joined parts of the crowded name spell a placeholder, which stays until the placeholders are
removed once more. -/
theorem removePlaceholders_crowdedName :
    removePlaceholders crowdedName.text = "$\x7b\x7b b \x7d\x7d-\x7d $\x7b\x7b d".toList ∧
    removePlaceholders (removePlaceholders crowdedName.text) = "-\x7d $\x7b\x7b d".toList ∧
    ∃ front, crowdedName.text = front ++ (opening ++ " d".toList) ∧
      removePlaceholders crowdedName.text =
        removePlaceholders front ++ (opening ++ " d".toList) := by
  have unchanged := (removePlaceholders_keepsLiterals "\x7d $\x7b\x7b d".toList).unchanged_iff
  have atPlaceholders : crowdedName.AtPlaceholders :=
    .next (by decide) (.next (by decide) (.next (by decide) (.last (unchanged.mp (by decide)))))
  obtain ⟨⟨division, unique, -, left⟩, unclosed, -⟩ :=
    removePlaceholders_keepsLiterals crowdedName.text
  obtain rfl := (unique crowdedName).mp ⟨rfl, atPlaceholders⟩
  have once : crowdedName.kept = "$\x7b\x7b b \x7d\x7d-\x7d $\x7b\x7b d".toList := by decide
  have again := (removePlaceholders_keepsLiterals crowdedName.kept).onward []
    "$\x7b\x7b b \x7d\x7d".toList "-\x7d $\x7b\x7b d".toList once (by decide)
  refine ⟨left.trans once, ?_, crowdedName.text.take 30, ?_, ?_⟩
  · rw [left, again]
    decide
  · decide
  · exact unclosed _ " d".toList (by decide) (by decide)

end RunAtlas.Text
