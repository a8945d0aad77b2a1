import Mathlib.Data.List.Infix
import RunAtlas.Proofs.Text.Occurrences
import RunAtlas.Text.Placeholder

/-!
# What is left of a text without its placeholders

A text with a placeholder is what stands before the first one, that placeholder, and what stands
after it (`exists_first_placeholder`).  Removing placeholders keeps the first part, leaves the
placeholder out, and goes on with the last part (`removePlaceholders_append`).  If the text holds
only one placeholder, the two outer parts are joined (`removePlaceholders_template`).
-/

namespace RunAtlas.Text

/-- What opens a placeholder. -/
def opening : List Char := ['$', '{', '{']

/-- What closes a placeholder. -/
def closing : List Char := ['}', '}']

/-- A placeholder for an expression. -/
def placeholder (expression : List Char) : List Char :=
  opening ++ expression ++ closing

@[simp]
theorem length_placeholder (expression : List Char) :
    (placeholder expression).length = expression.length + 5 := by
  simp only [placeholder, opening, closing, List.length_append, List.length_cons, List.length_nil]
  omega

theorem opening_leads_placeholder (expression : List Char) : opening <+: placeholder expression :=
  ⟨expression ++ closing, (List.append_assoc _ _ _).symm⟩

theorem placeholder_append (expression back : List Char) :
    placeholder expression ++ back = opening ++ (expression ++ (closing ++ back)) := by
  simp [placeholder]

/-! ## First placeholders -/

/-- An opening cannot begin in a text and end in the opening that follows the text. -/
theorem opening_leads_of_append {c : Char} {text back : List Char}
    (leads : opening <+: c :: (text ++ (opening ++ back))) : opening <+: c :: text := by
  obtain ⟨same, braces⟩ := List.cons_prefix_cons.mp leads
  exact List.cons_prefix_cons.mpr ⟨same, leads_of_leads_append (by decide) braces⟩

/-- A closing cannot begin in a text and end in the opening that follows the text. -/
theorem closing_leads_of_append {c : Char} {text back : List Char}
    (leads : closing <+: c :: (text ++ (opening ++ back))) : closing <+: c :: text := by
  have foreign : '$' ∉ closing := by decide
  have leads : closing <+: (c :: text) ++ '$' :: '{' :: '{' :: back := leads
  exact leads_of_leads_append foreign leads

/-- The opening behind a text is the first one exactly if none occurs in the text. -/
theorem isFirstFrom_opening_iff {front : List Char} (back : List Char) :
    IsFirstFrom opening (front ++ (opening ++ back)) 0 front.length ↔ ¬ opening <:+: front := by
  induction front with
  | nil => exact iff_of_true (isFirstFrom_zero (List.prefix_append opening back)) (by decide)
  | cons c front ih =>
      have same : opening <+: c :: (front ++ (opening ++ back)) ↔ opening <+: c :: front :=
        ⟨opening_leads_of_append, fun leads => leads.trans (List.prefix_append (c :: front) _)⟩
      rw [List.cons_append, List.length_cons, isFirstFrom_cons_iff, ih, same, List.infix_cons_iff,
        not_or]

/-- The closing behind a text is the first one exactly if none occurs in the text and none begins
with the last character of it. -/
theorem isFirstFrom_closing_iff {expression : List Char} (back : List Char) :
    IsFirstFrom closing (expression ++ (closing ++ back)) 0 expression.length ↔
      ¬ closing <:+: expression ∧ expression.getLast? ≠ some '}' := by
  induction expression with
  | nil => exact iff_of_true (isFirstFrom_zero (List.prefix_append closing back)) (by decide)
  | cons c expression ih =>
      rw [List.cons_append, List.length_cons, isFirstFrom_cons_iff, ih, List.infix_cons_iff, not_or]
      cases expression with
      | nil =>
          have swap : '}' = c ↔ c = '}' := eq_comm
          simp [closing, swap]
      | cons second expression => simp [closing, and_assoc]

/-- What follows the kept text is the first placeholder, as the two texts alone show.  It begins
with the first opening of both, and ends with the first closing behind that opening, that is, the
first one that begins at its fourth character or later. -/
structure ReachesPlaceholder (kept removed : List Char) : Prop where
  opens : IsFirstFrom opening (kept ++ removed) 0 kept.length
  closes : IsFirstFrom closing removed opening.length (removed.length - closing.length)

instance (kept removed : List Char) : Decidable (ReachesPlaceholder kept removed) :=
  decidable_of_iff
    (IsFirstFrom opening (kept ++ removed) 0 kept.length ∧
      IsFirstFrom closing removed opening.length (removed.length - closing.length))
    ⟨fun ⟨opens, closes⟩ => ⟨opens, closes⟩, fun reaches => ⟨reaches.opens, reaches.closes⟩⟩

theorem ReachesPlaceholder.exists_expression {kept removed : List Char}
    (reaches : ReachesPlaceholder kept removed) :
    ∃ expression, removed = placeholder expression := by
  obtain ⟨inner, rfl⟩ : opening <+: removed := by
    have leads := reaches.opens.stands
    rwa [StandsAt, List.drop_left] at leads
  obtain ⟨offset, position⟩ := Nat.exists_eq_add_of_le reaches.closes.le
  have stands := reaches.closes.stands
  rw [position, standsAt_append_left_iff] at stands
  obtain ⟨after, shape⟩ := stands.exists_eq_append
  have nothing : after = [] := by
    have lengths := congrArg List.length shape
    simp only [opening, closing, List.length_append, List.length_cons, List.length_nil,
      List.length_take] at lengths position
    exact List.eq_nil_of_length_eq_zero (by omega)
  refine ⟨inner.take offset, ?_⟩
  rw [placeholder, List.append_assoc, ← List.append_nil closing, ← nothing, ← shape]

/-- A placeholder is reached if none opens before it and none is closed before its end. -/
theorem reachesPlaceholder_iff {kept expression : List Char} :
    ReachesPlaceholder kept (placeholder expression) ↔
      ¬ opening <:+: kept ∧ ¬ closing <:+: expression ∧ expression.getLast? ≠ some '}' := by
  have shape : placeholder expression = opening ++ (expression ++ (closing ++ [])) := by
    rw [← placeholder_append, List.append_nil]
  have position : (opening ++ (expression ++ (closing ++ []))).length - closing.length =
      opening.length + expression.length := by
    simp only [List.length_append, List.length_nil]
    omega
  have opens : IsFirstFrom opening (kept ++ placeholder expression) 0 kept.length ↔
      ¬ opening <:+: kept := by
    rw [shape, isFirstFrom_opening_iff]
  have closes : IsFirstFrom closing (placeholder expression) opening.length
      ((placeholder expression).length - closing.length) ↔
        ¬ closing <:+: expression ∧ expression.getLast? ≠ some '}' := by
    rw [shape, position, isFirstFrom_append_left_iff, isFirstFrom_closing_iff]
  rw [← opens, ← closes]
  exact ⟨fun reaches => ⟨reaches.opens, reaches.closes⟩, fun ⟨opens, closes⟩ => ⟨opens, closes⟩⟩

/-- A text with a placeholder has a first one. -/
theorem exists_first_placeholder {expression text : List Char}
    (inside : placeholder expression <:+: text) :
    ∃ kept removed back, text = kept ++ (removed ++ back) ∧ ReachesPlaceholder kept removed := by
  have opened : opening <:+: text :=
    (opening_leads_placeholder expression).isInfix.trans inside
  obtain ⟨front, rest, rfl, first⟩ := exists_first_of_infix opened
  -- The first opening is no later than that of the given placeholder, whose closing follows both.
  have closed : closing <:+: rest := by
    obtain ⟨before, after, shape⟩ := inside
    have opens := standsAt_length before opening (expression ++ (closing ++ after))
    have closes := standsAt_length (before ++ opening ++ expression) closing after
    rw [List.append_assoc, placeholder_append] at shape
    rw [List.append_assoc, List.append_assoc, shape, ← List.append_assoc] at closes
    rw [shape] at opens
    have early : front.length ≤ before.length := by
      apply Nat.le_of_not_lt
      intro earlier
      exact first.first _ earlier (Nat.zero_le _) opens
    apply infix_of_standsAt_append closes
    simp only [List.length_append]
    omega
  obtain ⟨expression, back, rfl, firstClosing⟩ := exists_first_of_infix closed
  refine ⟨front, placeholder expression, back, by rw [placeholder_append], ?_⟩
  exact reachesPlaceholder_iff.mpr
    ⟨(isFirstFrom_opening_iff _).mp first, (isFirstFrom_closing_iff back).mp firstClosing⟩

/-! ## Removing -/

theorem removePlaceholdersFrom_none_cons {c : Char} {rest : List Char}
    (plain : ¬ opening <+: c :: rest) :
    removePlaceholdersFrom none (c :: rest) = c :: removePlaceholdersFrom none rest := by
  rw [removePlaceholdersFrom]
  rintro others rfl rfl
  exact plain ⟨others, rfl⟩

theorem removePlaceholdersFrom_some_cons {c : Char} {rest : List Char}
    (unclosed : ¬ closing <+: c :: rest) (pending : List Char) :
    removePlaceholdersFrom (some pending) (c :: rest) =
      removePlaceholdersFrom (some (c :: pending)) rest := by
  rw [removePlaceholdersFrom]
  rintro others rfl rfl
  exact unclosed ⟨others, rfl⟩

/-- A text in which no placeholder opens stays as it is. -/
theorem removePlaceholders_of_plain {text : List Char} (plain : ¬ opening <:+: text) :
    removePlaceholders text = text := by
  unfold removePlaceholders
  induction text with
  | nil => rfl
  | cons c rest ih =>
      have plainRest : ¬ opening <:+: rest := fun inside => plain (List.infix_cons inside)
      rw [removePlaceholdersFrom_none_cons fun leads => plain leads.isInfix, ih plainRest]

/-- What stands before the first opening is kept. -/
theorem removePlaceholdersFrom_none_append {front back : List Char}
    (first : IsFirstFrom opening (front ++ (opening ++ back)) 0 front.length) :
    removePlaceholdersFrom none (front ++ (opening ++ back)) =
      front ++ removePlaceholdersFrom (some opening.reverse) back := by
  induction front with
  | nil => rfl
  | cons c front ih =>
      rw [List.cons_append, List.length_cons, isFirstFrom_cons_iff] at first
      rw [List.cons_append, removePlaceholdersFrom_none_cons first.1, ih first.2, List.cons_append]

/-- An open placeholder ends with the first closing, and is left out. -/
theorem removePlaceholdersFrom_some_append {expression back : List Char}
    (first : IsFirstFrom closing (expression ++ (closing ++ back)) 0 expression.length)
    (pending : List Char) :
    removePlaceholdersFrom (some pending) (expression ++ (closing ++ back)) =
      removePlaceholdersFrom none back := by
  induction expression generalizing pending with
  | nil => simp [closing, removePlaceholdersFrom]
  | cons c expression ih =>
      rw [List.cons_append, List.length_cons, isFirstFrom_cons_iff] at first
      rw [List.cons_append, removePlaceholdersFrom_some_cons first.1, ih first.2]

/-- A placeholder that is never closed is given back. -/
theorem removePlaceholdersFrom_some_of_unclosed {text : List Char} (unclosed : ¬ closing <:+: text)
    (pending : List Char) :
    removePlaceholdersFrom (some pending) text = pending.reverse ++ text := by
  induction text generalizing pending with
  | nil => simp [removePlaceholdersFrom]
  | cons c text ih =>
      have unclosedRest : ¬ closing <:+: text := fun inside => unclosed (List.infix_cons inside)
      rw [removePlaceholdersFrom_some_cons fun leads => unclosed leads.isInfix, ih unclosedRest,
        List.reverse_cons, List.append_assoc, List.singleton_append]

/-- The first placeholder is left out, and the removal goes on behind it. -/
theorem removePlaceholders_append {kept removed : List Char}
    (reaches : ReachesPlaceholder kept removed) (back : List Char) :
    removePlaceholders (kept ++ (removed ++ back)) = kept ++ removePlaceholders back := by
  obtain ⟨expression, rfl⟩ := reaches.exists_expression
  obtain ⟨plain, firstClosing⟩ := reachesPlaceholder_iff.mp reaches
  rw [removePlaceholders, placeholder_append,
    removePlaceholdersFrom_none_append ((isFirstFrom_opening_iff _).mpr plain),
    removePlaceholdersFrom_some_append ((isFirstFrom_closing_iff back).mpr firstClosing)]
  rfl

/-- An opening that is never closed is kept, with everything behind it, whether or not a
placeholder is open before it. -/
theorem removePlaceholdersFrom_append_of_unclosed {back : List Char}
    (unclosed : ¬ closing <:+: back) (pending : Option (List Char)) (front : List Char) :
    removePlaceholdersFrom pending (front ++ (opening ++ back)) =
      removePlaceholdersFrom pending front ++ (opening ++ back) := by
  fun_induction removePlaceholdersFrom pending front with
  | case1 rest ih => exact ih
  | case2 c rest apart ih =>
      have plain : ¬ opening <+: c :: rest := by
        rintro ⟨others, shape⟩
        obtain ⟨rfl, rfl⟩ := List.cons.inj shape
        exact apart others rfl rfl
      rw [List.cons_append,
        removePlaceholdersFrom_none_cons fun leads => plain (opening_leads_of_append leads), ih,
        List.cons_append]
  | case3 pending rest ih => exact ih
  | case4 pending c rest apart ih =>
      have unclosedHere : ¬ closing <+: c :: rest := by
        rintro ⟨others, shape⟩
        obtain ⟨rfl, rfl⟩ := List.cons.inj shape
        exact apart others rfl rfl
      rw [List.cons_append,
        removePlaceholdersFrom_some_cons fun leads =>
          unclosedHere (closing_leads_of_append leads), ih]
  | case5 => exact removePlaceholdersFrom_some_of_unclosed unclosed opening.reverse
  | case6 pending =>
      have foreign : ∀ c ∈ opening, c ∉ closing := by simp [opening, closing]
      have unclosedToo : ¬ closing <:+: opening ++ back := fun inside =>
        unclosed (infix_of_infix_append foreign inside)
      exact removePlaceholdersFrom_some_of_unclosed unclosedToo pending

theorem removePlaceholders_append_of_unclosed {back : List Char} (unclosed : ¬ closing <:+: back)
    (front : List Char) :
    removePlaceholders (front ++ (opening ++ back)) =
      removePlaceholders front ++ (opening ++ back) :=
  removePlaceholdersFrom_append_of_unclosed unclosed none front

/-- A text without a placeholder stays as it is. -/
theorem removePlaceholders_of_no_placeholder {text : List Char}
    (absent : ∀ expression, ¬ placeholder expression <:+: text) :
    removePlaceholders text = text := by
  by_cases opened : opening <:+: text
  · obtain ⟨front, back, rfl, first⟩ := exists_first_of_infix opened
    have unclosed : ¬ closing <:+: back := by
      rintro ⟨expression, rest, rfl⟩
      exact absent expression ⟨front, rest, by simp [placeholder]⟩
    rw [removePlaceholders_append_of_unclosed unclosed,
      removePlaceholders_of_plain ((isFirstFrom_opening_iff back).mp first)]
  · exact removePlaceholders_of_plain opened

/-- Removing the one placeholder of a text joins what stands around it. -/
theorem removePlaceholders_template {front expression back : List Char}
    (plainFront : ¬ opening <:+: front) (plainBack : ¬ opening <:+: back)
    (unclosed : ¬ closing <:+: expression) (settled : expression.getLast? ≠ some '}') :
    removePlaceholders (front ++ placeholder expression ++ back) = front ++ back := by
  have reaches : ReachesPlaceholder front (placeholder expression) :=
    reachesPlaceholder_iff.mpr ⟨plainFront, unclosed, settled⟩
  rw [List.append_assoc, removePlaceholders_append reaches, removePlaceholders_of_plain plainBack]

end RunAtlas.Text
