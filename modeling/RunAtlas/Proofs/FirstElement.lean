import Mathlib.Tactic.Tauto

/-!
# First elements

The first element of a list that has a property.  It is the one that a search finds, there is no
more than one, and of two lists in a row it is that of the second only if the first has none.
`IsFirstAt` tells its position as well.
-/

namespace RunAtlas

/-- An element is the first of a list that has a property. -/
def IsFirst {α : Type} (property : α → Prop) (elements : List α) (found : α) : Prop :=
  ∃ before after, elements = before ++ found :: after ∧ property found ∧
    ∀ other ∈ before, ¬ property other

section IsFirst

variable {α : Type} {property other : α → Prop} {elements : List α} {found : α}

theorem find?_eq_some_iff_isFirst {test : α → Bool}
    (tests : ∀ element, test element = true ↔ property element) :
    elements.find? test = some found ↔ IsFirst property elements found := by
  rw [List.find?_eq_some_iff_append]
  constructor
  · rintro ⟨passed, before, after, shape, refused⟩
    refine ⟨before, after, shape, (tests found).mp passed, ?_⟩
    intro element member holds
    have refusal := refused element member
    rw [(tests element).mpr holds] at refusal
    contradiction
  · rintro ⟨before, after, shape, holds, none⟩
    refine ⟨(tests found).mpr holds, before, after, shape, ?_⟩
    intro element member
    rw [Bool.not_eq_true', ← Bool.not_eq_true, tests]
    exact none element member

/-- The first element with a property is also the first with another one that the same elements
have. -/
theorem isFirst_congr (same : ∀ element, property element ↔ other element) :
    IsFirst property elements found ↔ IsFirst other elements found := by
  have equal : property = other := funext fun element => propext (same element)
  rw [equal]

/-- An element with a property is no earlier than the first one. -/
theorem exists_isFirst (before after : List α) {element : α} (holds : property element) :
    ∃ front found back, before ++ element :: after = front ++ found :: back ∧
      front.length ≤ before.length ∧ property found ∧ ∀ other ∈ front, ¬ property other := by
  induction before with
  | nil => exact ⟨[], element, after, rfl, Nat.le_refl _, holds, List.forall_mem_nil _⟩
  | cons first before ih =>
      by_cases holdsFirst : property first
      · exact ⟨[], first, before ++ element :: after, rfl, Nat.zero_le _, holdsFirst,
          List.forall_mem_nil _⟩
      · obtain ⟨front, found, back, shape, early, holdsFound, none⟩ := ih
        refine ⟨first :: front, found, back, congrArg (first :: ·) shape,
          Nat.succ_le_succ early, holdsFound, ?_⟩
        exact List.forall_mem_cons.mpr ⟨holdsFirst, none⟩

variable {front back : List α}

theorem IsFirst.mem (first : IsFirst property elements found) : found ∈ elements := by
  rcases first with ⟨before, after, rfl, -, -⟩
  exact List.mem_append_right _ List.mem_cons_self

theorem IsFirst.holds (first : IsFirst property elements found) : property found := by
  rcases first with ⟨-, -, -, holds, -⟩
  exact holds

theorem not_isFirst_nil : ¬ IsFirst property [] found := by
  rintro ⟨before, after, shape, -⟩
  simp at shape

theorem isFirst_cons_iff {element : α} :
    IsFirst property (element :: elements) found ↔
      (property element ∧ element = found) ∨
        (¬ property element ∧ IsFirst property elements found) := by
  constructor
  · rintro ⟨before, after, shape, holds, none⟩
    rcases List.cons_eq_append_iff.mp shape with ⟨rfl, rest⟩ | ⟨others, rfl, rfl⟩
    · cases rest
      exact .inl ⟨holds, rfl⟩
    · rcases List.forall_mem_cons.mp none with ⟨fails, none⟩
      exact .inr ⟨fails, others, after, rfl, holds, none⟩
  · rintro (⟨holds, rfl⟩ | ⟨fails, before, after, rfl, holds, none⟩)
    · exact ⟨[], elements, rfl, holds, List.forall_mem_nil _⟩
    · exact ⟨element :: before, after, rfl, holds, List.forall_mem_cons.mpr ⟨fails, none⟩⟩

/-- The first element of two lists in a row is that of the second only if the first has none. -/
theorem isFirst_append_iff :
    IsFirst property (front ++ back) found ↔
      IsFirst property front found ∨
        ((∀ element ∈ front, ¬ property element) ∧ IsFirst property back found) := by
  induction front with
  | nil => simp [not_isFirst_nil]
  | cons element front ih =>
      rw [List.cons_append, isFirst_cons_iff, isFirst_cons_iff, ih, List.forall_mem_cons]
      tauto

/-- There is no more than one first element. -/
theorem IsFirst.unique {other : α} (first : IsFirst property elements found)
    (second : IsFirst property elements other) : found = other := by
  induction elements with
  | nil => exact absurd first not_isFirst_nil
  | cons element elements ih =>
      rcases isFirst_cons_iff.mp first with ⟨holds, rfl⟩ | ⟨fails, first⟩
      · rcases isFirst_cons_iff.mp second with ⟨-, rfl⟩ | ⟨fails, -⟩
        · rfl
        · contradiction
      · rcases isFirst_cons_iff.mp second with ⟨holds, -⟩ | ⟨-, second⟩
        · contradiction
        · exact ih first second

theorem exists_isFirst_of_mem (some : ∃ element ∈ elements, property element) :
    ∃ found, IsFirst property elements found := by
  rcases some with ⟨element, member, holds⟩
  rcases List.append_of_mem member with ⟨before, after, rfl⟩
  rcases exists_isFirst before after holds with ⟨front, found, back, shape, -, holds, none⟩
  exact ⟨found, front, back, shape, holds, none⟩

end IsFirst

/-- The element at a position of a list has a property, and no element before it does. -/
structure IsFirstAt {α : Type} (property : α → Prop) (elements : List α) (position : Nat)
    (found : α) : Prop where
  found_at : elements[position]? = some found
  holds : property found
  none_before : ∀ other < position, ∀ element, elements[other]? = some element →
    ¬ property element

section IsFirstAt

variable {α : Type} {property : α → Prop} {elements : List α} {position : Nat} {found : α}

theorem isFirst_iff_exists_isFirstAt :
    IsFirst property elements found ↔ ∃ position, IsFirstAt property elements position found := by
  constructor
  · rintro ⟨before, after, rfl, holds, none⟩
    refine ⟨before.length, by simp, holds, fun other earlier element foundOther => ?_⟩
    rw [List.getElem?_append_left earlier] at foundOther
    exact none element (List.mem_of_getElem? foundOther)
  · rintro ⟨position, foundAt, holds, none⟩
    obtain ⟨bound, rfl⟩ := List.getElem?_eq_some_iff.mp foundAt
    refine ⟨elements.take position, elements.drop (position + 1), by simp, holds, ?_⟩
    intro element member
    obtain ⟨other, inside, rfl⟩ := List.mem_take_iff_getElem.mp member
    exact none other (by omega) _ (List.getElem?_eq_getElem (by omega))

theorem findIdx?_eq_some_iff_isFirstAt {test : α → Bool}
    (tests : ∀ element, test element = true ↔ property element) :
    elements.findIdx? test = some position ↔
      ∃ found, IsFirstAt property elements position found := by
  rw [List.findIdx?_eq_some_iff_getElem]
  constructor
  · rintro ⟨bound, passed, none⟩
    refine ⟨elements[position], List.getElem?_eq_getElem bound, (tests _).mp passed, ?_⟩
    intro other earlier element foundOther
    obtain ⟨_, rfl⟩ := List.getElem?_eq_some_iff.mp foundOther
    rw [← tests]
    exact none other earlier
  · rintro ⟨found, foundAt, holds, none⟩
    obtain ⟨bound, rfl⟩ := List.getElem?_eq_some_iff.mp foundAt
    refine ⟨bound, (tests _).mpr holds, fun other earlier => ?_⟩
    rw [tests]
    exact none other earlier _ (List.getElem?_eq_getElem (Nat.lt_trans earlier bound))

/-- An element with a property stands no earlier than the first one. -/
theorem exists_isFirstAt_le (foundAt : elements[position]? = some found)
    (holds : property found) :
    ∃ earliest first, earliest ≤ position ∧ IsFirstAt property elements earliest first := by
  induction position using Nat.strongRecOn generalizing found with
  | ind position ih =>
      by_cases earlier : ∃ other < position, ∃ element,
          elements[other]? = some element ∧ property element
      · obtain ⟨other, less, element, foundOther, holdsOther⟩ := earlier
        obtain ⟨earliest, first, early, isFirst⟩ := ih other less foundOther holdsOther
        exact ⟨earliest, first, Nat.le_trans early (Nat.le_of_lt less), isFirst⟩
      · refine ⟨position, found, Nat.le_refl _, foundAt, holds, ?_⟩
        intro other less element foundOther holdsOther
        exact earlier ⟨other, less, element, foundOther, holdsOther⟩

end IsFirstAt

end RunAtlas
