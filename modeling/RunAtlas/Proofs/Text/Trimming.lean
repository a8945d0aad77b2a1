import Mathlib.Data.List.DropRight
import RunAtlas.Proofs.Text.Occurrences
import RunAtlas.Text.Blank

/-!
# Trimmed texts

A text is trimmed if only blanks are taken from its two ends and no blank is left there.  Every text
has one trimmed form (`isTrimmed_iff`).

If one of two texts that are joined is blank, the trimmed form comes from the other one alone.  Else
the first is trimmed on its left and the second on its right, and the trimmed form does not occur
where something foreign stands between the two (`not_trimBlank_append_occurs`).
-/

namespace RunAtlas.Text

/-! ## Blank texts -/

/-- A text of blanks only. -/
def IsBlankText (text : List Char) : Prop :=
  ∀ c ∈ text, isBlank c = true

instance (text : List Char) : Decidable (IsBlankText text) :=
  List.decidableBAll _ text

theorem isBlankText_cons {c : Char} {rest : List Char} :
    IsBlankText (c :: rest) ↔ isBlank c = true ∧ IsBlankText rest :=
  List.forall_mem_cons

theorem dropWhile_eq_nil_iff_isBlankText {text : List Char} :
    text.dropWhile isBlank = [] ↔ IsBlankText text :=
  List.dropWhile_eq_nil_iff

theorem isBlankText_reverse {text : List Char} : IsBlankText text.reverse ↔ IsBlankText text := by
  simp [IsBlankText]

/-- Blanks are removed from two texts together as from the first, unless that is blank. -/
theorem dropWhile_append_of_not_blank {front : List Char} (notBlank : ¬ IsBlankText front)
    (back : List Char) :
    (front ++ back).dropWhile isBlank = front.dropWhile isBlank ++ back := by
  rw [List.dropWhile_append, if_neg]
  rw [List.isEmpty_iff, dropWhile_eq_nil_iff_isBlankText]
  exact notBlank

/-! ## Trimming -/

theorem trimBlank_eq (text : List Char) :
    trimBlank text = (text.dropWhile isBlank).rdropWhile isBlank :=
  rfl

/-- A trimmed text occurs in the text. -/
theorem trimBlank_occurs (text : List Char) : trimBlank text <:+: text :=
  (List.rdropWhile_prefix _ _).isInfix.trans (List.dropWhile_suffix _).isInfix

/-- Blanks before a text are trimmed. -/
theorem trimBlank_append_of_blank_left {front : List Char} (blank : IsBlankText front)
    (back : List Char) : trimBlank (front ++ back) = trimBlank back := by
  unfold trimBlank
  rw [List.dropWhile_append_of_pos blank]

/-- Blanks after a text are trimmed. -/
theorem trimBlank_append_of_blank_right (front : List Char) {back : List Char}
    (blank : IsBlankText back) : trimBlank (front ++ back) = trimBlank front := by
  by_cases blankFront : IsBlankText front
  · rw [trimBlank_append_of_blank_left blankFront, trimBlank_eq, trimBlank_eq,
      dropWhile_eq_nil_iff_isBlankText.mpr blank, dropWhile_eq_nil_iff_isBlankText.mpr blankFront]
  · unfold trimBlank
    rw [dropWhile_append_of_not_blank blankFront, List.reverse_append,
      List.dropWhile_append_of_pos (isBlankText_reverse.mpr blank)]

/-- Trimming leaves nothing exactly of blank texts. -/
theorem trimBlank_eq_nil_iff {text : List Char} : trimBlank text = [] ↔ IsBlankText text := by
  constructor
  · intro nothing
    rw [trimBlank_eq, List.rdropWhile_eq_nil_iff] at nothing
    have again := dropWhile_eq_nil_iff_isBlankText.mpr nothing
    rw [List.dropWhile_idempotent] at again
    exact dropWhile_eq_nil_iff_isBlankText.mp again
  · intro blank
    rw [trimBlank_eq, dropWhile_eq_nil_iff_isBlankText.mpr blank, List.rdropWhile_nil]

/-! ## Trimmed forms -/

/-- What is left of a text once the blanks at both of its ends are taken away. -/
structure IsTrimmed (text trimmed : List Char) : Prop where
  around : ∃ front back, text = front ++ (trimmed ++ back) ∧ IsBlankText front ∧ IsBlankText back
  first_not_blank : ∀ c, [c] <+: trimmed → isBlank c = false
  last_not_blank : ∀ c, [c] <:+ trimmed → isBlank c = false

theorem not_blank_of_leads_dropWhile {c : Char} {text : List Char}
    (leads : [c] <+: text.dropWhile isBlank) : isBlank c = false := by
  obtain ⟨rest, shape⟩ := leads
  have first := List.head?_dropWhile_not isBlank text
  rw [← shape] at first
  exact first

theorem dropWhile_eq_self_of_first_not_blank {text : List Char}
    (first : ∀ c, [c] <+: text → isBlank c = false) : text.dropWhile isBlank = text := by
  cases text with
  | nil => rfl
  | cons c rest =>
      apply List.dropWhile_cons_of_neg
      rw [first c ⟨rest, rfl⟩]
      exact Bool.false_ne_true

/-- A text without blanks at its ends is its own trimmed form. -/
theorem trimBlank_eq_self {text : List Char} (first : ∀ c, [c] <+: text → isBlank c = false)
    (last : ∀ c, [c] <:+ text → isBlank c = false) : trimBlank text = text := by
  have reversed : text.reverse.dropWhile isBlank = text.reverse :=
    dropWhile_eq_self_of_first_not_blank fun c leads => last c (List.reverse_prefix.mp leads)
  rw [trimBlank, dropWhile_eq_self_of_first_not_blank first, reversed, List.reverse_reverse]

theorem isTrimmed_trimBlank (text : List Char) : IsTrimmed text (trimBlank text) where
  around := by
    refine ⟨text.takeWhile isBlank, (text.dropWhile isBlank).rtakeWhile isBlank, ?_,
      fun c => List.mem_takeWhile_imp, fun c => List.mem_rtakeWhile_imp⟩
    rw [trimBlank_eq, List.rdropWhile_append_rtakeWhile, List.takeWhile_append_dropWhile]
  first_not_blank c leads :=
    not_blank_of_leads_dropWhile (leads.trans (List.rdropWhile_prefix _ _))
  last_not_blank c ends := by
    rw [trimBlank, ← List.reverse_prefix, List.reverse_reverse] at ends
    exact not_blank_of_leads_dropWhile ends

/-- Every text has one trimmed form. -/
theorem isTrimmed_iff {text trimmed : List Char} :
    IsTrimmed text trimmed ↔ trimmed = trimBlank text := by
  constructor
  · rintro ⟨⟨front, back, rfl, blankFront, blankBack⟩, first, last⟩
    rw [trimBlank_append_of_blank_left blankFront, trimBlank_append_of_blank_right _ blankBack,
      trimBlank_eq_self first last]
  · rintro rfl
    exact isTrimmed_trimBlank text

/-! ## Texts that are joined -/

/-- Of two texts that are not blank, the first is trimmed on its left and the second on its
right. -/
theorem trimBlank_append_of_not_blank {front back : List Char} (notBlankFront : ¬ IsBlankText front)
    (notBlankBack : ¬ IsBlankText back) :
    trimBlank (front ++ back) = front.dropWhile isBlank ++ back.rdropWhile isBlank := by
  unfold trimBlank List.rdropWhile
  rw [dropWhile_append_of_not_blank notBlankFront, List.reverse_append,
    dropWhile_append_of_not_blank (mt isBlankText_reverse.mp notBlankBack), List.reverse_append,
    List.reverse_reverse]

/-- If one of the parts around a placeholder is blank, what is left of both occurs in every text
that has something between them. -/
theorem trimBlank_append_occurs {front back : List Char}
    (blank : IsBlankText front ∨ IsBlankText back) (between : List Char) :
    trimBlank (front ++ back) <:+: front ++ between ++ back := by
  rcases blank with blank | blank
  · rw [trimBlank_append_of_blank_left blank]
    exact (trimBlank_occurs back).trans (List.suffix_append _ _).isInfix
  · rw [trimBlank_append_of_blank_right front blank]
    exact (trimBlank_occurs front).trans ⟨[], between ++ back, by simp⟩

/-- Blanks at its start not counted, a text is no shorter than a piece of it that begins with
none. -/
theorem length_le_of_dropWhile_append_infix {lead rest text : List Char}
    (notBlank : ¬ IsBlankText lead) (inside : lead.dropWhile isBlank ++ rest <:+: text) :
    (lead.dropWhile isBlank).length + rest.length ≤ (text.dropWhile isBlank).length := by
  have tight := List.dropWhile_idempotent isBlank lead
  have tightNotBlank : ¬ IsBlankText (lead.dropWhile isBlank) := by
    rw [← dropWhile_eq_nil_iff_isBlankText, tight, dropWhile_eq_nil_iff_isBlankText]
    exact notBlank
  obtain ⟨before, after, rfl⟩ := inside
  rw [List.append_assoc, List.append_assoc]
  by_cases blank : IsBlankText before
  · rw [List.dropWhile_append_of_pos blank, dropWhile_append_of_not_blank tightNotBlank, tight]
    simp only [List.length_append]
    omega
  · rw [dropWhile_append_of_not_blank blank]
    simp only [List.length_append]
    omega

/-- If neither part around a placeholder is blank, what is left of both does not occur in a text
that has something foreign between them: it is too long for each of them alone. -/
theorem not_trimBlank_append_occurs {front between back : List Char}
    (notBlankFront : ¬ IsBlankText front) (notBlankBack : ¬ IsBlankText back)
    (something : between ≠ []) (foreign : ∀ c ∈ between, c ∉ front ++ back) :
    ¬ trimBlank (front ++ back) <:+: front ++ between ++ back := by
  intro inside
  have foreignPiece : ∀ c ∈ between, c ∉ trimBlank (front ++ back) :=
    fun c member inPiece => foreign c member ((trimBlank_occurs _).subset inPiece)
  have split := infix_of_infix_between something foreignPiece inside
  rw [trimBlank_append_of_not_blank notBlankFront notBlankBack] at split
  have notBlankReverse : ¬ IsBlankText back.reverse := mt isBlankText_reverse.mp notBlankBack
  have someFront : (front.dropWhile isBlank).length ≠ 0 := by
    rw [Ne, List.length_eq_zero_iff, dropWhile_eq_nil_iff_isBlankText]
    exact notBlankFront
  have someBack : (back.reverse.dropWhile isBlank).length ≠ 0 := by
    rw [Ne, List.length_eq_zero_iff, dropWhile_eq_nil_iff_isBlankText]
    exact notBlankReverse
  rcases split with inFront | inBack
  · have short := length_le_of_dropWhile_append_infix notBlankFront inFront
    rw [List.rdropWhile, List.length_reverse] at short
    omega
  · rw [← List.reverse_infix, List.reverse_append, List.rdropWhile, List.reverse_reverse] at inBack
    have short := length_le_of_dropWhile_append_infix notBlankReverse inBack
    rw [List.length_reverse] at short
    omega

end RunAtlas.Text
