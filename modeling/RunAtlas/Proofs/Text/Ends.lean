import Mathlib.Data.List.DropRight
import Mathlib.Data.List.Infix
import RunAtlas.Proofs.Text.Cuts

/-!
# Ends of texts

A lead that is not empty is removed as often as it stands at the start of a text, and a character as
often as it stands at the end.  The text is put together from what is removed and what is left, and
what is left neither begins with the lead nor ends with the character.  There is no other way to
take all leads from a text (`dropLeads_eq_iff`).
-/

namespace RunAtlas.Text

/-! ## Leads -/

/-- What remains of a text behind all leads at its start. -/
structure IsBehindLeads (lead text : List Char) (count : Nat) (rest : List Char) : Prop where
  shape : text = (List.replicate count lead).flatten ++ rest
  stops : ¬ lead <+: rest

namespace IsBehindLeads

variable {lead text rest : List Char} {count : Nat}

theorem cons (behind : IsBehindLeads lead text count rest) :
    IsBehindLeads lead (lead ++ text) (count + 1) rest where
  shape := by rw [behind.shape, List.replicate_succ, List.flatten_cons, List.append_assoc]
  stops := behind.stops

/-- The start of what remains begins with no lead either. -/
theorem not_prefix_of_append {kept removed : List Char}
    (behind : IsBehindLeads lead text count (kept ++ removed)) : ¬ lead <+: kept := by
  intro begins
  exact behind.stops (begins.trans (List.prefix_append kept removed))

/-- A text that begins with a lead has one more of them than its remainder. -/
theorem of_append (behind : IsBehindLeads lead (lead ++ text) count rest) :
    ∃ fewer, count = fewer + 1 ∧ IsBehindLeads lead text fewer rest := by
  cases count with
  | zero =>
      have begins : lead <+: rest := ⟨text, behind.shape⟩
      exact absurd begins behind.stops
  | succ fewer =>
      have shape := behind.shape
      rw [List.replicate_succ, List.flatten_cons, List.append_assoc] at shape
      exact ⟨fewer, rfl, List.append_cancel_left shape, behind.stops⟩

/-- There is one way to take all leads from a text. -/
theorem unique {other : List Char} {otherCount : Nat}
    (behind : IsBehindLeads lead text count rest)
    (behindToo : IsBehindLeads lead text otherCount other) : count = otherCount ∧ rest = other := by
  induction count generalizing text otherCount with
  | zero =>
      cases otherCount with
      | zero => exact ⟨rfl, behind.shape.symm.trans behindToo.shape⟩
      | succ fewer =>
          have begins : lead <+: rest := by
            have shape := behind.shape.symm.trans behindToo.shape
            rw [List.replicate_succ, List.flatten_cons, List.append_assoc] at shape
            exact ⟨_, shape.symm⟩
          exact absurd begins behind.stops
  | succ fewer ih =>
      have shape := behind.shape
      rw [List.replicate_succ, List.flatten_cons, List.append_assoc] at shape
      rw [shape] at behindToo
      obtain ⟨otherFewer, rfl, inner⟩ := behindToo.of_append
      obtain ⟨rfl, same⟩ := ih ⟨rfl, behind.stops⟩ inner
      exact ⟨rfl, same⟩

end IsBehindLeads

section Leads

variable {lead text rest : List Char}

/-- A bound that is no less than the length of the text is not met. -/
theorem exists_isBehindLeads_dropLeadsUpTo (nonempty : lead ≠ []) {bound : Nat}
    (enough : text.length ≤ bound) :
    ∃ count, IsBehindLeads lead text count (dropLeadsUpTo lead bound text) := by
  induction bound generalizing text with
  | zero =>
      obtain rfl := List.length_eq_zero_iff.mp (Nat.le_zero.mp enough)
      exact ⟨0, rfl, fun begins => nonempty (List.prefix_nil.mp begins)⟩
  | succ bound ih =>
      rw [dropLeadsUpTo]
      cases removed : afterLead? lead text with
      | none => exact ⟨0, rfl, afterLead?_eq_none_iff.mp removed⟩
      | some remainder =>
          obtain rfl := afterLead?_eq_some_iff.mp removed
          have positive := List.length_pos_of_ne_nil nonempty
          rw [List.length_append] at enough
          have enoughLeft : remainder.length ≤ bound := by omega
          obtain ⟨count, behind⟩ := ih enoughLeft
          exact ⟨count + 1, behind.cons⟩

/-- What is left without its leads is what remains behind all of them. -/
theorem dropLeads_eq_iff (nonempty : lead ≠ []) :
    dropLeads lead text = rest ↔ ∃ count, IsBehindLeads lead text count rest := by
  obtain ⟨count, behind⟩ := exists_isBehindLeads_dropLeadsUpTo nonempty (Nat.le_refl text.length)
  constructor
  · rintro rfl
    exact ⟨count, behind⟩
  · rintro ⟨otherCount, behindToo⟩
    exact (behind.unique behindToo).2

end Leads

/-! ## Trailing characters -/

theorem dropTrailing_eq_rdropWhile (c : Char) (text : List Char) :
    dropTrailing c text = text.rdropWhile (· = c) :=
  rfl

theorem not_suffix_dropTrailing (c : Char) (text : List Char) :
    ¬ [c] <:+ dropTrailing c text := by
  rintro ⟨front, shape⟩
  have nonempty : dropTrailing c text ≠ [] := by
    rw [← shape]
    simp
  have differs := List.rdropWhile_last_not (· = c) text nonempty
  apply differs
  simp [← dropTrailing_eq_rdropWhile, ← shape]

/-- What is removed from the end is the character, some number of times. -/
theorem exists_dropTrailing_append (c : Char) (text : List Char) :
    ∃ count, text = dropTrailing c text ++ List.replicate count c := by
  have removed : ∀ other ∈ text.rtakeWhile (· = c), other = c := by
    intro other member
    simpa using List.mem_rtakeWhile_imp member
  refine ⟨(text.rtakeWhile (· = c)).length, ?_⟩
  rw [← List.eq_replicate_of_mem removed, dropTrailing_eq_rdropWhile,
    List.rdropWhile_append_rtakeWhile]

end RunAtlas.Text
