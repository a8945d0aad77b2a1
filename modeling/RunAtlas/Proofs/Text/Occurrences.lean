import Mathlib.Data.List.Infix

/-!
# Where a piece stands in a text

A piece stands in a text at the position behind which the text goes on with it.  `IsFirstFrom` tells
the first such position from a given one on.  A piece that occurs at all has a first position
(`exists_first_of_infix`), and it cannot reach over a character that it does not have
(`leads_of_leads_append`).
-/

namespace RunAtlas.Text

variable {piece text : List Char} {position : Nat}

/-- A text goes on with `piece` behind its first `position` characters. -/
def StandsAt (piece text : List Char) (position : Nat) : Prop :=
  piece <+: text.drop position

instance (piece text : List Char) (position : Nat) : Decidable (StandsAt piece text position) :=
  inferInstanceAs (Decidable (piece <+: text.drop position))

/-- The first position from `start` on where a piece stands. -/
structure IsFirstFrom (piece text : List Char) (start position : Nat) : Prop where
  le : start ≤ position
  stands : StandsAt piece text position
  first : ∀ earlier < position, start ≤ earlier → ¬ StandsAt piece text earlier

instance (piece text : List Char) (start position : Nat) :
    Decidable (IsFirstFrom piece text start position) :=
  decidable_of_iff
    (start ≤ position ∧ StandsAt piece text position ∧
      ∀ earlier < position, start ≤ earlier → ¬ StandsAt piece text earlier)
    ⟨fun ⟨le, stands, first⟩ => ⟨le, stands, first⟩,
      fun isFirst => ⟨isFirst.le, isFirst.stands, isFirst.first⟩⟩

/-- A piece stands in a text behind what comes before it. -/
theorem standsAt_length (before piece after : List Char) :
    StandsAt piece (before ++ (piece ++ after)) before.length := by
  rw [StandsAt, List.drop_left]
  exact List.prefix_append piece after

/-- A text is what comes before a piece that stands in it, the piece, and what comes after it. -/
theorem StandsAt.exists_eq_append (stands : StandsAt piece text position) :
    ∃ after, text = text.take position ++ (piece ++ after) := by
  obtain ⟨after, shape⟩ := stands
  exact ⟨after, by rw [shape, List.take_append_drop]⟩

/-- What comes before the text moves the position. -/
theorem standsAt_append_left_iff (front : List Char) :
    StandsAt piece (front ++ text) (front.length + position) ↔ StandsAt piece text position := by
  rw [StandsAt, ← List.drop_drop, List.drop_left]
  rfl

/-- A piece that stands behind `front` occurs in the rest of the text. -/
theorem infix_of_standsAt_append {front : List Char}
    (stands : StandsAt piece (front ++ text) position) (behind : front.length ≤ position) :
    piece <:+: text := by
  obtain ⟨offset, rfl⟩ := Nat.exists_eq_add_of_le behind
  have later : piece <+: text.drop offset := (standsAt_append_left_iff front).mp stands
  exact later.isInfix.trans (List.drop_suffix offset text).isInfix

theorem isFirstFrom_zero (leads : piece <+: text) : IsFirstFrom piece text 0 0 :=
  ⟨Nat.le_refl 0, leads, fun earlier before => absurd before (Nat.not_lt_zero earlier)⟩

/-- Behind the first character a piece stands first where it does in the rest, unless it begins the
text. -/
theorem isFirstFrom_cons_iff {c : Char} :
    IsFirstFrom piece (c :: text) 0 (position + 1) ↔
      ¬ piece <+: c :: text ∧ IsFirstFrom piece text 0 position := by
  constructor
  · intro isFirst
    refine ⟨isFirst.first 0 (Nat.succ_pos position) (Nat.le_refl 0), Nat.zero_le _,
      isFirst.stands, ?_⟩
    intro earlier before _
    exact isFirst.first (earlier + 1) (Nat.succ_lt_succ before) (Nat.zero_le _)
  · rintro ⟨apart, isFirst⟩
    refine ⟨Nat.zero_le _, isFirst.stands, ?_⟩
    intro earlier before _
    cases earlier with
    | zero => exact apart
    | succ earlier => exact isFirst.first earlier (Nat.lt_of_succ_lt_succ before) (Nat.zero_le _)

/-- What comes before the text moves the first position. -/
theorem isFirstFrom_append_left_iff (front : List Char) :
    IsFirstFrom piece (front ++ text) front.length (front.length + position) ↔
      IsFirstFrom piece text 0 position := by
  constructor
  · intro isFirst
    refine ⟨Nat.zero_le _, (standsAt_append_left_iff front).mp isFirst.stands, ?_⟩
    intro earlier before _ stands
    exact isFirst.first (front.length + earlier) (Nat.add_lt_add_left before _)
      (Nat.le_add_right _ _) ((standsAt_append_left_iff front).mpr stands)
  · intro isFirst
    refine ⟨Nat.le_add_right _ _, (standsAt_append_left_iff front).mpr isFirst.stands, ?_⟩
    intro earlier before behind stands
    obtain ⟨offset, rfl⟩ := Nat.exists_eq_add_of_le behind
    exact isFirst.first offset (Nat.lt_of_add_lt_add_left before) (Nat.zero_le _)
      ((standsAt_append_left_iff front).mp stands)

/-- A piece that occurs in a text has a first position. -/
theorem exists_first_of_infix (inside : piece <:+: text) :
    ∃ before after, text = before ++ (piece ++ after) ∧
      IsFirstFrom piece text 0 before.length := by
  induction text with
  | nil =>
      obtain rfl := List.infix_nil.mp inside
      exact ⟨[], [], rfl, by decide⟩
  | cons c rest ih =>
      by_cases leads : piece <+: c :: rest
      · obtain ⟨after, shape⟩ := leads
        exact ⟨[], after, shape.symm, isFirstFrom_zero ⟨after, shape⟩⟩
      · have later : piece <:+: rest := (List.infix_cons_iff.mp inside).resolve_left leads
        obtain ⟨before, after, rfl, isFirst⟩ := ih later
        exact ⟨c :: before, after, rfl, isFirstFrom_cons_iff.mpr ⟨leads, isFirst⟩⟩

/-! ## Pieces and foreign characters -/

/-- A piece that a text begins with ends before the first character that it does not have. -/
theorem leads_of_leads_append {piece front back : List Char} {c : Char} (foreign : c ∉ piece)
    (leads : piece <+: front ++ c :: back) : piece <+: front := by
  have through : front ++ [c] <+: front ++ c :: back := ⟨back, by simp⟩
  rcases List.prefix_or_prefix_of_prefix leads through with short | long
  · rcases List.prefix_concat_iff.mp short with rfl | short
    · exact absurd (List.mem_append_right front List.mem_cons_self) foreign
    · exact short
  · exact absurd (long.subset (List.mem_append_right front List.mem_cons_self)) foreign

/-- A piece does not begin among characters that it does not have. -/
theorem infix_of_infix_append {piece between back : List Char}
    (foreign : ∀ c ∈ between, c ∉ piece) (inside : piece <:+: between ++ back) :
    piece <:+: back := by
  induction between with
  | nil => exact inside
  | cons c between ih =>
      obtain ⟨foreignFirst, foreignRest⟩ := List.forall_mem_cons.mp foreign
      rcases List.infix_cons_iff.mp inside with leads | later
      · have nothing : piece <+: [] := leads_of_leads_append foreignFirst leads
        exact nothing.isInfix.trans (List.nil_infix)
      · exact ih foreignRest later

/-- A piece that shares no character with what stands between two texts occurs in one of them. -/
theorem infix_of_infix_between {piece front between back : List Char} (something : between ≠ [])
    (foreign : ∀ c ∈ between, c ∉ piece) (inside : piece <:+: front ++ between ++ back) :
    piece <:+: front ∨ piece <:+: back := by
  induction front with
  | nil => exact .inr (infix_of_infix_append foreign inside)
  | cons first front ih =>
      rcases List.infix_cons_iff.mp inside with leads | later
      · obtain ⟨c, rest, rfl⟩ := List.exists_cons_of_ne_nil something
        have leads : piece <+: (first :: front) ++ c :: (rest ++ back) := by
          simpa using leads
        exact .inl (leads_of_leads_append (foreign c List.mem_cons_self) leads).isInfix
      · rcases ih later with inFront | inBack
        · exact .inl (List.infix_cons inFront)
        · exact .inr inBack

end RunAtlas.Text
