import RunAtlas.Proofs.Text.Divisions
import RunAtlas.Proofs.Text.Trimming

/-!
# The literal text of a text with placeholders

What the division of a text at its placeholders keeps, joined and trimmed, is its literal text.
Every text has exactly one (`isLiteralText_iff`).
-/

namespace RunAtlas.Text

/-- The literal text: the parts that a division at placeholders keeps, joined, without the blanks at
both ends. -/
def IsLiteralText (text literal : List Char) : Prop :=
  ∃ division : Division, division.text = text ∧ division.AtPlaceholders ∧
    IsTrimmed division.kept literal

/-- Every text has one literal text. -/
theorem isLiteralText_iff {text literal : List Char} :
    IsLiteralText text literal ↔ literal = trimBlank (removePlaceholders text) := by
  constructor
  · rintro ⟨division, rfl, atPlaceholders, trimmed⟩
    rw [atPlaceholders.removePlaceholders_text]
    exact isTrimmed_iff.mp trimmed
  · rintro rfl
    obtain ⟨division, rfl, atPlaceholders⟩ := exists_division text
    rw [atPlaceholders.removePlaceholders_text]
    exact ⟨division, rfl, atPlaceholders, isTrimmed_trimBlank division.kept⟩

end RunAtlas.Text
