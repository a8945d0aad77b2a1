import Mathlib.Data.List.Induction
import Mathlib.Data.List.Nodup
import Mathlib.Data.List.Perm.Basic
import RunAtlas.Model.NameMap

/-!
# Workflows under their names

A workflow goes into a name map under the name that it is shown as: its declared name, or the path
of its file.  Under each name the map has the workflow that comes last among those shown as it
(`NameMap.ofWorkflows_lastWins`).

A map keeps its names in increasing order, so that it is known by what is found under each name.
-/

namespace RunAtlas

/-- The element at a position of a list has a property, and no element behind it does. -/
structure IsLastAt {α : Type} (property : α → Prop) (elements : List α) (position : Nat)
    (found : α) : Prop where
  found_at : elements[position]? = some found
  holds : property found
  none_behind : ∀ other, position < other → ∀ element, elements[other]? = some element →
    ¬ property element

section IsLastAt

variable {α : Type} {property : α → Prop} {elements : List α} {position : Nat} {found last : α}

theorem isLastAt_concat_of_holds (holds : property last) :
    IsLastAt property (elements ++ [last]) position found ↔
      position = elements.length ∧ found = last := by
  constructor
  · rintro ⟨foundAt, -, none⟩
    have bound := (List.getElem?_eq_some_iff.mp foundAt).1
    rw [List.length_append, List.length_singleton] at bound
    have atEnd : position = elements.length := by
      by_contra earlier
      exact none elements.length (by omega) last List.getElem?_concat_length holds
    subst atEnd
    rw [List.getElem?_concat_length] at foundAt
    exact ⟨rfl, (Option.some.inj foundAt).symm⟩
  · rintro ⟨rfl, rfl⟩
    refine ⟨List.getElem?_concat_length, holds, ?_⟩
    intro other behind element foundOther
    have bound := (List.getElem?_eq_some_iff.mp foundOther).1
    rw [List.length_append, List.length_singleton] at bound
    omega

theorem isLastAt_concat_of_fails (fails : ¬ property last) :
    IsLastAt property (elements ++ [last]) position found ↔
      IsLastAt property elements position found := by
  have kept {other : Nat} {element : α} (holds : property element) :
      (elements ++ [last])[other]? = some element ↔ elements[other]? = some element := by
    rw [List.getElem?_append]
    split
    · rfl
    · rename_i outside
      rw [List.getElem?_eq_none (Nat.not_lt.mp outside), List.getElem?_singleton]
      split
      · simp only [Option.some.injEq, reduceCtorEq, iff_false]
        rintro rfl
        exact fails holds
      · rfl
  constructor
  · rintro ⟨foundAt, holds, none⟩
    refine ⟨(kept holds).mp foundAt, holds, ?_⟩
    intro other behind element foundOther holdsOther
    exact none other behind element ((kept holdsOther).mpr foundOther) holdsOther
  · rintro ⟨foundAt, holds, none⟩
    refine ⟨(kept holds).mpr foundAt, holds, ?_⟩
    intro other behind element foundOther holdsOther
    exact none other behind element ((kept holdsOther).mp foundOther) holdsOther

end IsLastAt

/-- The name that a workflow is shown as. -/
inductive Workflow.IsShownAs (name : String) (workflow : Workflow) : Prop
  | declared (declared : workflow.definition.name = some name)
  | path (undeclared : workflow.definition.name = none) (path : workflow.origin.path = name)

theorem Workflow.isShownAs_iff {workflow : Workflow} {name : String} :
    workflow.IsShownAs name ↔ workflow.name = name := by
  unfold Workflow.name
  constructor
  · rintro (declared | ⟨undeclared, rfl⟩)
    · rw [declared]
      rfl
    · rw [undeclared]
      rfl
  · rintro rfl
    cases declaration : workflow.definition.name with
    | some name => exact .declared declaration
    | none => exact .path declaration rfl

namespace NameMap

variable {map other : NameMap} {name : String} {workflow : Workflow}

/-- The names in a map. -/
def names (map : NameMap) : List String :=
  map.map Prod.fst

/-- The names in a map increase. -/
def IsOrdered (map : NameMap) : Prop :=
  map.Pairwise fun first second => first.1 < second.1

/-! ## One workflow -/

theorem find?_nil (sought : String) : find? [] sought = none :=
  rfl

theorem find?_cons (name sought : String) (workflow : Workflow) (rest : NameMap) :
    find? ((name, workflow) :: rest) sought =
      if sought = name then some workflow else rest.find? sought := by
  unfold find?
  rw [List.lookup_cons]
  by_cases same : sought = name
  · rw [if_pos same, beq_iff_eq.mpr same]
  · rw [if_neg same, beq_eq_false_iff_ne.mpr same]

theorem mem_names_iff : name ∈ map.names ↔ map.find? name ≠ none := by
  induction map with
  | nil => simp [names, find?_nil]
  | cons first rest ih =>
      obtain ⟨other, old⟩ := first
      rw [names, List.map_cons, List.mem_cons, find?_cons]
      by_cases same : name = other
      · simp [same]
      · rw [if_neg same, or_iff_right same]
        exact ih

/-- What is put into a map is found under its name, and all else as before. -/
theorem find?_insert (map : NameMap) (name sought : String) (workflow : Workflow) :
    (map.insert name workflow).find? sought =
      if sought = name then some workflow else map.find? sought := by
  induction map with
  | nil => exact find?_cons name sought workflow []
  | cons entry rest ih =>
      obtain ⟨other, old⟩ := entry
      rw [insert]
      by_cases replaced : name = other
      · rw [if_pos replaced, find?_cons, find?_cons, ← replaced]
        split <;> rfl
      · rw [if_neg replaced]
        by_cases earlier : name < other
        · rw [if_pos earlier, find?_cons]
        · rw [if_neg earlier, find?_cons, find?_cons, ih]
          by_cases same : sought = name
          · rw [if_pos same, if_pos same, same, if_neg replaced]
          · rw [if_neg same, if_neg same]

theorem mem_insert {entry : String × Workflow} (member : entry ∈ map.insert name workflow) :
    entry = (name, workflow) ∨ entry ∈ map := by
  induction map with
  | nil => exact .inl (List.mem_singleton.mp member)
  | cons first rest ih =>
      obtain ⟨other, old⟩ := first
      rw [insert] at member
      split_ifs at member
      · rcases List.mem_cons.mp member with same | later
        · exact .inl same
        · exact .inr (List.mem_cons_of_mem _ later)
      · rcases List.mem_cons.mp member with same | later
        · exact .inl same
        · exact .inr later
      · rcases List.mem_cons.mp member with rfl | later
        · exact .inr List.mem_cons_self
        · rcases ih later with same | earlier
          · exact .inl same
          · exact .inr (List.mem_cons_of_mem _ earlier)

theorem IsOrdered.insert (ordered : map.IsOrdered) (name : String) (workflow : Workflow) :
    (map.insert name workflow).IsOrdered := by
  induction map with
  | nil => exact List.pairwise_singleton _ _
  | cons first rest ih =>
      obtain ⟨other, old⟩ := first
      obtain ⟨least, orderedRest⟩ := List.pairwise_cons.mp ordered
      rw [NameMap.insert]
      split_ifs with same earlier
      · subst same
        exact List.pairwise_cons.mpr ⟨least, orderedRest⟩
      · refine List.pairwise_cons.mpr ⟨?_, ordered⟩
        rw [List.forall_mem_cons]
        exact ⟨earlier, fun entry member => String.lt_trans earlier (least entry member)⟩
      · refine List.pairwise_cons.mpr ⟨?_, ih orderedRest⟩
        intro entry member
        rcases mem_insert member with rfl | old
        · exact Std.lt_of_le_of_ne earlier (Ne.symm same)
        · exact least entry old

/-! ## Many workflows -/

theorem ofWorkflows_concat (workflows : List Workflow) (last : Workflow) :
    ofWorkflows (workflows ++ [last]) = (ofWorkflows workflows).insert last.name last := by
  rw [ofWorkflows, List.foldl_concat]
  rfl

theorem isOrdered_ofWorkflows (workflows : List Workflow) : (ofWorkflows workflows).IsOrdered := by
  induction workflows using List.reverseRecOn with
  | nil => exact List.Pairwise.nil
  | append_singleton workflows last ih =>
      rw [ofWorkflows_concat]
      exact ih.insert last.name last

/-- Under each name the last workflow shown as it is found. -/
theorem find?_ofWorkflows_eq_some_iff {workflows : List Workflow} :
    (ofWorkflows workflows).find? name = some workflow ↔
      ∃ position, IsLastAt (Workflow.IsShownAs name) workflows position workflow := by
  induction workflows using List.reverseRecOn with
  | nil =>
      constructor
      · intro found
        contradiction
      · rintro ⟨position, foundAt, -, -⟩
        contradiction
  | append_singleton workflows last ih =>
      rw [ofWorkflows_concat, find?_insert]
      by_cases shown : last.IsShownAs name
      · rw [if_pos (Workflow.isShownAs_iff.mp shown).symm]
        simp only [isLastAt_concat_of_holds shown]
        rw [exists_eq_left, Option.some.injEq, eq_comm]
      · rw [if_neg (fun same => shown (Workflow.isShownAs_iff.mpr same.symm)), ih]
        simp only [isLastAt_concat_of_fails shown]

theorem find?_ofWorkflows_append (front back : List Workflow) (name : String) :
    (ofWorkflows (front ++ back)).find? name =
      ((ofWorkflows back).find? name).or ((ofWorkflows front).find? name) := by
  induction back using List.reverseRecOn with
  | nil => simp [ofWorkflows, find?]
  | append_singleton back last ih =>
      rw [← List.append_assoc, ofWorkflows_concat, ofWorkflows_concat, find?_insert, find?_insert,
        ih]
      split <;> rfl

theorem mem_names_ofWorkflows_iff {workflows : List Workflow} :
    name ∈ (ofWorkflows workflows).names ↔ ∃ workflow ∈ workflows, workflow.IsShownAs name := by
  induction workflows using List.reverseRecOn with
  | nil => simp [ofWorkflows, names]
  | append_singleton workflows last ih =>
      rw [mem_names_iff, ofWorkflows_concat, find?_insert]
      by_cases shown : last.IsShownAs name
      · rw [if_pos (Workflow.isShownAs_iff.mp shown).symm]
        constructor
        · intro _
          exact ⟨last, List.mem_append_right _ List.mem_cons_self, shown⟩
        · intro _
          exact Option.some_ne_none last
      · rw [if_neg (fun same => shown (Workflow.isShownAs_iff.mpr same.symm)), ← mem_names_iff, ih]
        constructor
        · rintro ⟨workflow, member, shownToo⟩
          exact ⟨workflow, List.mem_append_left _ member, shownToo⟩
        · rintro ⟨workflow, member, shownToo⟩
          rcases List.mem_append.mp member with earlier | isLast
          · exact ⟨workflow, earlier, shownToo⟩
          · rw [List.mem_singleton.mp isLast] at shownToo
            exact absurd shownToo shown

/-! ## Maps by what is found in them -/

theorem mem_iff_find?_eq_some (ordered : map.IsOrdered) :
    (name, workflow) ∈ map ↔ map.find? name = some workflow := by
  induction map with
  | nil => simp [find?_nil]
  | cons first rest ih =>
      obtain ⟨other, old⟩ := first
      obtain ⟨least, orderedRest⟩ := List.pairwise_cons.mp ordered
      rw [List.mem_cons, Prod.mk.injEq, find?_cons]
      by_cases same : name = other
      · subst same
        have notLater : (name, workflow) ∉ rest := by
          intro later
          exact String.lt_irrefl name (least _ later)
        simp [notLater, eq_comm]
      · simp [same, ih orderedRest]

theorem IsOrdered.nodup_names (ordered : map.IsOrdered) : map.names.Nodup := by
  apply List.pairwise_map.mpr
  apply ordered.imp
  intro first second less same
  exact String.lt_irrefl _ (same ▸ less)

/-- Maps in which the same is found under each name are the same. -/
theorem eq_of_find?_eq (ordered : map.IsOrdered) (orderedOther : other.IsOrdered)
    (same : ∀ name, map.find? name = other.find? name) : map = other := by
  apply List.Perm.eq_of_pairwise _ ordered orderedOther
  · apply (List.perm_ext_iff_of_nodup (List.Nodup.of_map Prod.fst ordered.nodup_names)
      (List.Nodup.of_map Prod.fst orderedOther.nodup_names)).mpr
    rintro ⟨name, workflow⟩
    rw [mem_iff_find?_eq_some ordered, mem_iff_find?_eq_some orderedOther, same]
  · intro first second _ _ less greater
    exact absurd greater (String.lt_asymm less)

section Distinct

variable {workflows others : List Workflow} (distinct : (workflows.map Workflow.name).Nodup)
include distinct

/-- Where no two workflows are shown alike, each one is the last under its name. -/
theorem find?_ofWorkflows_eq_some_iff_mem :
    (ofWorkflows workflows).find? name = some workflow ↔
      workflow ∈ workflows ∧ workflow.IsShownAs name := by
  rw [find?_ofWorkflows_eq_some_iff]
  constructor
  · rintro ⟨position, foundAt, shown, -⟩
    exact ⟨List.mem_of_getElem? foundAt, shown⟩
  · rintro ⟨member, shown⟩
    obtain ⟨position, foundAt⟩ := List.mem_iff_getElem?.mp member
    refine ⟨position, foundAt, shown, ?_⟩
    intro other behind element foundOther shownToo
    have bound := (List.getElem?_eq_some_iff.mp foundOther).1
    have inside : other < (workflows.map Workflow.name).length := by
      rw [List.length_map]
      exact bound
    apply List.nodup_iff_getElem?_ne_getElem?.mp distinct position other behind inside
    rw [List.getElem?_map, List.getElem?_map, foundAt, foundOther, Option.map_some, Option.map_some,
      Workflow.isShownAs_iff.mp shown, Workflow.isShownAs_iff.mp shownToo]

/-- Where no two workflows are shown alike, their order does not matter. -/
theorem ofWorkflows_perm (reordered : others.Perm workflows) :
    ofWorkflows others = ofWorkflows workflows := by
  have distinctToo : (others.map Workflow.name).Nodup :=
    (reordered.map Workflow.name).nodup_iff.mpr distinct
  apply eq_of_find?_eq (isOrdered_ofWorkflows others) (isOrdered_ofWorkflows workflows)
  intro name
  apply Option.ext
  intro workflow
  rw [find?_ofWorkflows_eq_some_iff_mem distinct, find?_ofWorkflows_eq_some_iff_mem distinctToo,
    reordered.mem_iff]

end Distinct

/-- The names in a map of workflows are those that some workflow is shown as, each of them once, and
the last workflow shown as a name is found under it.  So the map of two lists in a row is the map of
the first overridden by that of the second, and workflows of which no two are shown alike make the
same map in any order. -/
theorem ofWorkflows_lastWins (workflows : List Workflow) :
    (∀ name, name ∈ (ofWorkflows workflows).names ↔
      ∃ workflow ∈ workflows, workflow.IsShownAs name) ∧
    (ofWorkflows workflows).names.Nodup ∧
    (∀ name workflow, (ofWorkflows workflows).find? name = some workflow ↔
      ∃ position, IsLastAt (Workflow.IsShownAs name) workflows position workflow) ∧
    (∀ others name, (ofWorkflows (workflows ++ others)).find? name =
      ((ofWorkflows others).find? name).or ((ofWorkflows workflows).find? name)) ∧
    ((workflows.map Workflow.name).Nodup → ∀ others, others.Perm workflows →
      ofWorkflows others = ofWorkflows workflows) := by
  refine ⟨fun name => mem_names_ofWorkflows_iff, (isOrdered_ofWorkflows workflows).nodup_names,
    fun name workflow => find?_ofWorkflows_eq_some_iff, find?_ofWorkflows_append workflows, ?_⟩
  intro distinct others reordered
  exact ofWorkflows_perm distinct reordered

/-- A workflow without jobs in a file. -/
def bare (name : Option String) (path : String) : Workflow :=
  ⟨⟨name, none, [], []⟩, 1, [], ⟨none, path⟩⟩

/-- A file whose path is the declared name of an earlier workflow takes its place. -/
theorem ofWorkflows_ciAndRelease :
    let ci := bare (some "CI") "ci.yml"
    let renamed := bare (some "b.yml") "a.yml"
    let unnamed := bare none "b.yml"
    (ofWorkflows [ci, renamed, unnamed]).find? "b.yml" = some unnamed ∧
    ([unnamed, ci].map Workflow.name).Nodup ∧
    ofWorkflows [ci, unnamed] = ofWorkflows [unnamed, ci] := by
  intro ci renamed unnamed
  have distinct : ([unnamed, ci].map Workflow.name).Nodup := by decide
  obtain ⟨-, -, last, -, -⟩ := ofWorkflows_lastWins [ci, renamed, unnamed]
  obtain ⟨-, -, -, -, anyOrder⟩ := ofWorkflows_lastWins [unnamed, ci]
  have lastShown : IsLastAt (Workflow.IsShownAs "b.yml") [ci, renamed, unnamed] 2 unnamed := by
    refine ⟨rfl, .path rfl rfl, ?_⟩
    intro other behind element foundOther
    rw [List.getElem?_eq_none behind] at foundOther
    contradiction
  exact ⟨(last "b.yml" unnamed).mpr ⟨2, lastShown⟩, distinct,
    anyOrder distinct _ (.swap unnamed ci [])⟩

end NameMap

end RunAtlas
