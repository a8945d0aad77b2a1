import Mathlib.Data.List.Pairwise
import RunAtlas.Json.Decode
import RunAtlas.Proofs.Definition.Fields

/-!
# Slots and the order of members

Every record is read into a draft with a slot for each of its fields: a member that goes by a name
of a slot fills it, once, and any other member is skipped.  Slots that do not touch each other are
filled in any order, so that the members of a record can be given in any order
(`AreIndependent.foldlM_perm`) and among others that the record does not know
(`ReadsSlots.ofMembers_of_given`).
-/

namespace RunAtlas

namespace Json

/-- A slot of a draft: the names that its member goes by, the name under which a second one is
reported, and how the value of its member is read. -/
structure Slot (δ : Type) where
  names : List String
  reported : String
  content : Type
  read : Json → Except JsonFault content
  get : δ → Option content
  set : δ → Option content → δ

/-- A slot whose member has one name. -/
def Slot.named {δ α : Type} (name : String) (read : Json → Except JsonFault α)
    (get : δ → Option α) (set : δ → Option α → δ) : Slot δ where
  names := [name]
  reported := name
  content := α
  read := read
  get := get
  set := set

/-- Take one member into its slot, or skip it. -/
def takeInto {δ : Type} (slots : List (Slot δ)) (draft : δ) :
    String × Json → Except JsonFault δ
  | (name, value) =>
      match slots.find? (name ∈ ·.names) with
      | some slot => do
          let content ← fill slot.reported (slot.get draft) (slot.read value)
          pure (slot.set draft content)
      | none => skip draft value

/-- Two slots go by different names, and to fill one of them does not touch the other. -/
@[mk_iff]
structure Slot.IsApart {δ : Type} (first second : Slot δ) : Prop where
  disjoint : ∀ name ∈ first.names, name ∉ second.names
  get_first : ∀ draft content, first.get (second.set draft content) = first.get draft
  get_second : ∀ draft content, second.get (first.set draft content) = second.get draft
  set_set : ∀ draft content other,
    second.set (first.set draft content) other = first.set (second.set draft other) content

/-- The slots of a draft hold what they are filled with and do not touch each other. -/
structure AreIndependent {δ : Type} (slots : List (Slot δ)) : Prop where
  get_set : ∀ slot ∈ slots, ∀ draft content, slot.get (slot.set draft content) = content
  pairwise : slots.Pairwise Slot.IsApart

/-- Members that a record does not know: their names are none of its fields', and their values can
be skipped. -/
def AreForeign (known : List String) (members : List (String × Json)) : Prop :=
  ∀ member ∈ members, member.1 ∉ known ∧ member.2.intact = true

section Slots

variable {δ : Type} {slots : List (Slot δ)} {draft next final : δ}

/-! ## One member -/

theorem fill_eq_ok_iff {α : Type} {name : String} {slot filled : Option α}
    {read : Except JsonFault α} :
    fill name slot read = .ok filled ↔
      slot = none ∧ ∃ content, read = .ok content ∧ some content = filled :=
  fillOnce_eq_ok_iff

theorem skip_eq_ok_iff {value : Json} :
    skip draft value = .ok next ↔ value.intact = true ∧ draft = next := by
  unfold skip
  cases value.intact <;> simp

/-- A member that has a slot fills it, which has to be empty. -/
theorem takeInto_slot_eq_ok_iff {slot : Slot δ} {name : String} {value : Json}
    (found : slots.find? (name ∈ ·.names) = some slot) :
    takeInto slots draft (name, value) = .ok next ↔
      slot.get draft = none ∧
        ∃ content, slot.read value = .ok content ∧ slot.set draft (some content) = next := by
  rw [takeInto, found]
  simp only [Except.bind_eq_ok_iff, Except.pure_eq_ok_iff, fill_eq_ok_iff]
  constructor
  · rintro ⟨_, ⟨empty, content, reading, rfl⟩, rfl⟩
    exact ⟨empty, content, reading, rfl⟩
  · rintro ⟨empty, content, reading, rfl⟩
    exact ⟨_, ⟨empty, content, reading, rfl⟩, rfl⟩

/-- A member that has no slot is skipped. -/
theorem takeInto_foreign_eq_ok_iff {name : String} {value : Json}
    (foreign : slots.find? (name ∈ ·.names) = none) :
    takeInto slots draft (name, value) = .ok next ↔ value.intact = true ∧ draft = next := by
  rw [takeInto, foreign]
  exact skip_eq_ok_iff

instance : Std.Symm (@Slot.IsApart δ) where
  symm _ _ apart :=
    { disjoint := fun name isSecond isFirst => apart.disjoint name isFirst isSecond
      get_first := apart.get_second
      get_second := apart.get_first
      set_set := fun draft content other => (apart.set_set draft other content).symm }

namespace AreIndependent

variable (independent : AreIndependent slots)
include independent

/-- Members that have both been taken in can be taken in the other way around. -/
theorem takeInto_comm {first second : String × Json}
    (takenFirst : takeInto slots draft first = .ok next)
    (takenSecond : takeInto slots next second = .ok final) :
    ∃ other, takeInto slots draft second = .ok other ∧ takeInto slots other first = .ok final := by
  obtain ⟨firstName, firstValue⟩ := first
  obtain ⟨secondName, secondValue⟩ := second
  cases foundFirst : slots.find? (firstName ∈ ·.names) with
  | none =>
      obtain ⟨intact, rfl⟩ := (takeInto_foreign_eq_ok_iff foundFirst).mp takenFirst
      exact ⟨final, takenSecond, (takeInto_foreign_eq_ok_iff foundFirst).mpr ⟨intact, rfl⟩⟩
  | some slot =>
      cases foundSecond : slots.find? (secondName ∈ ·.names) with
      | none =>
          obtain ⟨intact, rfl⟩ := (takeInto_foreign_eq_ok_iff foundSecond).mp takenSecond
          exact ⟨draft, (takeInto_foreign_eq_ok_iff foundSecond).mpr ⟨intact, rfl⟩, takenFirst⟩
      | some other =>
          obtain ⟨empty, content, reading, rfl⟩ :=
            (takeInto_slot_eq_ok_iff foundFirst).mp takenFirst
          obtain ⟨emptyToo, otherContent, otherReading, rfl⟩ :=
            (takeInto_slot_eq_ok_iff foundSecond).mp takenSecond
          have isSlot := List.mem_of_find?_eq_some foundFirst
          have isOther := List.mem_of_find?_eq_some foundSecond
          have different : slot ≠ other := by
            -- A slot cannot be filled twice.
            rintro rfl
            rw [independent.get_set slot isSlot] at emptyToo
            exact nomatch emptyToo
          have apart : slot.IsApart other :=
            independent.pairwise.forall isSlot isOther different
          rw [apart.get_second] at emptyToo
          refine ⟨other.set draft (some otherContent), ?_, ?_⟩
          · exact (takeInto_slot_eq_ok_iff foundSecond).mpr
              ⟨emptyToo, otherContent, otherReading, rfl⟩
          · rw [apart.set_set]
            exact (takeInto_slot_eq_ok_iff foundFirst).mpr
              ⟨(apart.get_first draft _).trans empty, content, reading, rfl⟩

/-! ## All members -/

/-- Members that have been taken in can be taken in in any order. -/
theorem foldlM_perm {members other : List (String × Json)} (reordered : members.Perm other)
    (taken : members.foldlM (takeInto slots) draft = .ok final) :
    other.foldlM (takeInto slots) draft = .ok final := by
  induction reordered generalizing draft with
  | nil => exact taken
  | cons member _ ih =>
      rw [List.foldlM_cons, Except.bind_eq_ok_iff] at taken ⊢
      obtain ⟨next, takenFirst, takenRest⟩ := taken
      exact ⟨next, takenFirst, ih takenRest⟩
  | swap first second rest =>
      simp only [List.foldlM_cons, Except.bind_eq_ok_iff] at taken ⊢
      obtain ⟨next, takenSecond, after, takenFirst, takenRest⟩ := taken
      obtain ⟨between, takenFirst, takenSecond⟩ :=
        independent.takeInto_comm takenSecond takenFirst
      exact ⟨between, takenFirst, after, takenSecond, takenRest⟩
  | trans _ _ ih ihNext => exact ihNext (ih taken)

end AreIndependent

/-- Foreign members change nothing. -/
theorem foldlM_foreign {further : List (String × Json)}
    (foreign : AreForeign (slots.flatMap (·.names)) further) :
    further.foldlM (takeInto slots) draft = .ok draft := by
  induction further with
  | nil => rfl
  | cons member rest ih =>
      obtain ⟨⟨unknown, intact⟩, foreignRest⟩ := List.forall_mem_cons.mp foreign
      have noSlot : slots.find? (member.1 ∈ ·.names) = none := by
        rw [List.find?_eq_none]
        intro slot isSlot isName
        exact unknown (List.mem_flatMap.mpr ⟨slot, isSlot, of_decide_eq_true isName⟩)
      rw [List.foldlM_cons, Except.bind_eq_ok_iff]
      exact ⟨draft, (takeInto_foreign_eq_ok_iff noSlot).mpr ⟨intact, rfl⟩, ih foreignRest⟩

end Slots

/-! ## Records -/

/-- A record is read by taking all members into independent slots. -/
structure ReadsSlots {δ ρ : Type} (ofMembers : List (String × Json) → Except JsonFault ρ)
    (slots : List (Slot δ)) : Prop where
  independent : AreIndependent slots
  ofMembers_eq : ∃ initial finish, ∀ members,
    ofMembers members = members.foldlM (takeInto slots) initial >>= finish

/-- What is read from some members is read from them in any order and among foreign ones. -/
theorem ReadsSlots.ofMembers_of_given {δ ρ : Type} {slots : List (Slot δ)}
    {ofMembers : List (String × Json) → Except JsonFault ρ} (reads : ReadsSlots ofMembers slots)
    {members given further : List (String × Json)} {record : ρ}
    (read : ofMembers given = .ok record)
    (foreign : AreForeign (slots.flatMap (·.names)) further)
    (reordered : members.Perm (given ++ further)) : ofMembers members = .ok record := by
  obtain ⟨initial, finish, ofMembers_eq⟩ := reads.ofMembers_eq
  rw [ofMembers_eq, Except.bind_eq_ok_iff] at read ⊢
  obtain ⟨final, taken, finished⟩ := read
  refine ⟨final, reads.independent.foldlM_perm reordered.symm ?_, finished⟩
  rw [List.foldlM_append, Except.bind_eq_ok_iff]
  exact ⟨final, taken, foldlM_foreign foreign⟩

end Json

end RunAtlas
