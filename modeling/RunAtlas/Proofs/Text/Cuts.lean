import Mathlib.Data.List.Infix
import Mathlib.Data.List.TakeWhile
import RunAtlas.Text.Search

/-!
# Cutting texts

A text can be cut before its first separator (`isBeforeFirst_iff`) or at its last one.  What stands
before the cut is the same exactly if the text has no two separators
(`isBeforeFirst_iff_of_splitLast?`).

Of several leads the first one that a text begins with is removed.  If no lead begins a later one,
it is the longest (`findSome?_afterLead?_eq_some_iff`).
-/

namespace RunAtlas.Text

/-! ## Separators -/

/-- The text before the first separator: it has none, and a separator follows it or nothing does. -/
structure IsBeforeFirst (separator : Char) (text before : List Char) : Prop where
  absent : separator ∉ before
  shape : text = before ∨ ∃ after, text = before ++ separator :: after

theorem forall_ne_of_not_mem {separator : Char} {text : List Char} (absent : separator ∉ text) :
    ∀ c ∈ text, decide (c ≠ separator) = true := by
  intro c member
  apply decide_eq_true
  rintro rfl
  exact absent member

theorem beforeFirst_of_not_mem {separator : Char} {text : List Char} (absent : separator ∉ text) :
    beforeFirst separator text = text :=
  List.takeWhile_eq_self_iff.mpr (forall_ne_of_not_mem absent)

theorem beforeFirst_append_cons {separator : Char} {before : List Char}
    (absent : separator ∉ before) (after : List Char) :
    beforeFirst separator (before ++ separator :: after) = before := by
  rw [beforeFirst, List.takeWhile_append_of_pos (forall_ne_of_not_mem absent)]
  simp

theorem isBeforeFirst_beforeFirst (separator : Char) (text : List Char) :
    IsBeforeFirst separator text (beforeFirst separator text) where
  absent := by
    intro member
    have differs := List.mem_takeWhile_imp member
    simp at differs
  shape := by
    have parts : text = beforeFirst separator text ++ text.dropWhile (· ≠ separator) :=
      List.takeWhile_append_dropWhile.symm
    cases behind : text.dropWhile (· ≠ separator) with
    | nil =>
        rw [behind, List.append_nil] at parts
        exact .inl parts
    | cons c after =>
        have stopped := List.head?_dropWhile_not (· ≠ separator) text
        rw [behind] at stopped parts
        obtain rfl : c = separator := by simpa using stopped
        exact .inr ⟨after, parts⟩

/-- Every text has one cut before its first separator. -/
theorem isBeforeFirst_iff {separator : Char} {text before : List Char} :
    IsBeforeFirst separator text before ↔ before = beforeFirst separator text := by
  constructor
  · rintro ⟨absent, rfl | ⟨after, rfl⟩⟩
    · exact (beforeFirst_of_not_mem absent).symm
    · exact (beforeFirst_append_cons absent after).symm
  · rintro rfl
    exact isBeforeFirst_beforeFirst separator text

/-- What stands before the last separator stands before the first one exactly if they are the
same. -/
theorem isBeforeFirst_iff_of_splitLast? {separator : Char} {text before after : List Char}
    (cut : splitLast? separator text = some (before, after)) :
    IsBeforeFirst separator text before ↔ text.count separator ≤ 1 := by
  obtain ⟨rfl, absentAfter⟩ := splitLast?_eq_some_iff.mp cut
  rw [List.count_append, List.count_cons_self, List.count_eq_zero.mpr absentAfter]
  constructor
  · rintro ⟨absent, -⟩
    rw [List.count_eq_zero.mpr absent]
  · intro few
    have absent : separator ∉ before := List.count_eq_zero.mp (by omega)
    exact ⟨absent, .inr ⟨after, rfl⟩⟩

/-! ## Leads -/

theorem afterLead?_eq_none_iff {lead text : List Char} :
    afterLead? lead text = none ↔ ¬ lead <+: text := by
  rw [Option.eq_none_iff_forall_ne_some]
  constructor
  · rintro nothing ⟨rest, shape⟩
    exact nothing rest (afterLead?_eq_some_iff.mpr shape.symm)
  · intro apart rest found
    exact apart ⟨rest, (afterLead?_eq_some_iff.mp found).symm⟩

theorem findSome?_afterLead?_eq_none_iff {leads : List String} {text : List Char} :
    (leads.findSome? fun lead => afterLead? lead.toList text) = none ↔
      ∀ lead ∈ leads, ¬ lead.toList <+: text := by
  rw [List.findSome?_eq_none_iff]
  exact forall₂_congr fun lead _ => afterLead?_eq_none_iff

/-- In a list where no lead begins a later one, the first lead that a text begins with is the
longest: an earlier one that is no longer than a later one would begin it. -/
theorem findSome?_afterLead?_eq_some_iff {leads : List String}
    (ordered : leads.Pairwise fun first second => ¬ first.toList <+: second.toList)
    {text rest : List Char} :
    (leads.findSome? fun lead => afterLead? lead.toList text) = some rest ↔
      ∃ lead ∈ leads, text = lead.toList ++ rest ∧
        ∀ other ∈ leads, other.toList <+: text → other.toList.length ≤ lead.toList.length := by
  induction leads with
  | nil => simp
  | cons first others ih =>
      rcases List.pairwise_cons.mp ordered with ⟨orderedFirst, orderedOthers⟩
      by_cases leadsFirst : first.toList <+: text
      · rcases leadsFirst with ⟨remainder, rfl⟩
        have removed : afterLead? first.toList (first.toList ++ remainder) = some remainder :=
          afterLead?_eq_some_iff.mpr rfl
        rw [List.findSome?_cons, removed, Option.some.injEq]
        constructor
        · rintro rfl
          refine ⟨first, List.mem_cons_self, rfl, ?_⟩
          intro other member leads
          rcases List.mem_cons.mp member with rfl | later
          · exact Nat.le_refl _
          · apply Nat.le_of_not_le
            intro longer
            apply orderedFirst other later
            exact List.prefix_of_prefix_length_le (List.prefix_append _ _) leads longer
        · rintro ⟨lead, member, shape, longest⟩
          rcases List.mem_cons.mp member with rfl | later
          · exact List.append_cancel_left shape
          · have longer := longest first List.mem_cons_self (List.prefix_append _ _)
            have leads : lead.toList <+: first.toList ++ remainder := ⟨rest, shape.symm⟩
            have begins : first.toList <+: lead.toList :=
              List.prefix_of_prefix_length_le (List.prefix_append _ _) leads longer
            exact absurd begins (orderedFirst lead later)
      · rw [List.findSome?_cons, afterLead?_eq_none_iff.mpr leadsFirst, ih orderedOthers]
        constructor
        · rintro ⟨lead, member, shape, longest⟩
          refine ⟨lead, List.mem_cons_of_mem first member, shape, ?_⟩
          exact List.forall_mem_cons.mpr ⟨fun leads => absurd leads leadsFirst, longest⟩
        · rintro ⟨lead, member, shape, longest⟩
          rcases List.mem_cons.mp member with rfl | later
          · exact absurd ⟨rest, shape.symm⟩ leadsFirst
          · exact ⟨lead, later, shape, (List.forall_mem_cons.mp longest).2⟩

end RunAtlas.Text
