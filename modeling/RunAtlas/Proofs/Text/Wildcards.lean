import RunAtlas.Proofs.Text.Placeholders
import RunAtlas.Proofs.Text.Trimming

/-!
# Texts of which nothing is left

Some texts consist of placeholders and blanks alone.  They are the texts of which removing the
placeholders and trimming leaves nothing (`trimBlank_removePlaceholders_eq_nil_iff`).  What is left
of them occurs in every text.
-/

namespace RunAtlas.Text

/-- A text that consists of placeholders and blanks alone. -/
inductive MadeOfPlaceholders : List Char → Prop
  | nil : MadeOfPlaceholders []
  | blank {c : Char} {rest : List Char} (isBlank : isBlank c = true)
      (others : MadeOfPlaceholders rest) : MadeOfPlaceholders (c :: rest)
  | placeholder {expression rest : List Char} (unclosed : ¬ closing <:+: expression)
      (settled : expression.getLast? ≠ some '}') (others : MadeOfPlaceholders rest) :
      MadeOfPlaceholders (placeholder expression ++ rest)

/-- A placeholder at the start of a text is left out. -/
theorem removePlaceholders_placeholder_append {expression : List Char}
    (unclosed : ¬ closing <:+: expression) (settled : expression.getLast? ≠ some '}')
    (rest : List Char) :
    removePlaceholders (placeholder expression ++ rest) = removePlaceholders rest := by
  have reaches : ReachesPlaceholder [] (placeholder expression) :=
    reachesPlaceholder_iff.mpr ⟨by decide, unclosed, settled⟩
  exact removePlaceholders_append reaches rest

/-- If only blanks are left of a text that begins with an opening, it begins with a placeholder:
else what opened it would be left as well. -/
theorem exists_placeholder_of_isBlankText {text : List Char}
    (blank : IsBlankText (removePlaceholders (opening ++ text))) :
    ∃ expression rest, opening ++ text = placeholder expression ++ rest ∧
      ¬ closing <:+: expression ∧ expression.getLast? ≠ some '}' := by
  by_cases closed : closing <:+: text
  · obtain ⟨expression, rest, rfl, first⟩ := exists_first_of_infix closed
    obtain ⟨unclosed, settled⟩ := (isFirstFrom_closing_iff rest).mp first
    exact ⟨expression, rest, (placeholder_append expression rest).symm, unclosed, settled⟩
  · rw [← List.nil_append (opening ++ text), removePlaceholders_append_of_unclosed closed] at blank
    have notBlank := blank '$' (List.mem_append_right _ List.mem_cons_self)
    contradiction

/-- Only blanks are left exactly of texts that consist of placeholders and blanks. -/
theorem isBlankText_removePlaceholders_iff {text : List Char} :
    IsBlankText (removePlaceholders text) ↔ MadeOfPlaceholders text := by
  constructor
  · intro blank
    -- A placeholder takes away many characters at once, so the induction is on the length.
    induction bound : text.length using Nat.strong_induction_on generalizing text with
    | _ length ih =>
        subst bound
        by_cases opens : opening <+: text
        · obtain ⟨inside, rfl⟩ := opens
          obtain ⟨expression, rest, shape, unclosed, settled⟩ :=
            exists_placeholder_of_isBlankText blank
          have shorter : rest.length < (opening ++ inside).length := by
            rw [shape]
            rw [List.length_append, length_placeholder]
            omega
          rw [shape, removePlaceholders_placeholder_append unclosed settled] at blank
          rw [shape]
          exact .placeholder unclosed settled (ih rest.length shorter blank rfl)
        · cases text with
          | nil => exact .nil
          | cons c rest =>
              rw [removePlaceholders, removePlaceholdersFrom_none_cons opens,
                isBlankText_cons] at blank
              exact .blank blank.1 (ih rest.length (Nat.lt_succ_self _) blank.2 rfl)
  · intro made
    induction made with
    | nil => exact List.forall_mem_nil _
    | @blank c rest isBlank _ ih =>
        have notOpening : ¬ opening <+: c :: rest := by
          rintro ⟨others, shape⟩
          obtain rfl := (List.cons.inj shape).1
          contradiction
        rw [removePlaceholders, removePlaceholdersFrom_none_cons notOpening, isBlankText_cons]
        exact ⟨isBlank, ih⟩
    | placeholder unclosed settled _ ih =>
        rw [removePlaceholders_placeholder_append unclosed settled]
        exact ih

/-- Nothing is left exactly of texts that consist of placeholders and blanks. -/
theorem trimBlank_removePlaceholders_eq_nil_iff {text : List Char} :
    trimBlank (removePlaceholders text) = [] ↔ MadeOfPlaceholders text := by
  rw [trimBlank_eq_nil_iff, isBlankText_removePlaceholders_iff]

end RunAtlas.Text
