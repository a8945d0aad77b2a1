import Mathlib.Data.List.Induction
import Mathlib.Data.List.Nodup
import RunAtlas.Definition.Encode
import RunAtlas.Proofs.Definition.Fields

/-!
# Records

All definitions are read and written alike: an entry under the name of a field fills the slot of
this field in a draft, every other entry is kept as an extra one, and the fields are written in
order before the extra entries.  A `Plan` lists the fields of a kind of definition, so that what
reading and writing do is proved once.

* Over any entries, every field is a reading, and the extra entries have distinct names that are no
  field's (`Plan.IsLawful.exists_read`, `Plan.IsLawful.areExtra`).
* A value that is found under the plain name of a field is read as this field
  (`Plan.IsLawful.read_of_valueOf?`), and among plain keys a field is nothing else
  (`Plan.IsLawful.reading_of_plainKeys`).
* Over entries with distinct plain names, each field is the reading of the value under its name, and
  the extra entries are the others in order (`Plan.IsLawful.decode_eq_ok_iff`).
* What is written is read as the same definition exactly if this is so for each field
  (`Plan.IsLawful.decode_written_iff`).
-/

namespace RunAtlas

open Yaml

namespace Decode

/-! ## Plans -/

/-- A field: the name of its entry, how its value is read and written, what it is without a value
unless it has to have one, its slot in a draft, and its place in a definition. -/
structure Field (δ ρ : Type) where
  name : String
  content : Type
  read : Value → Except Mismatch content
  write : content → Value
  absent : Option content
  get : δ → Option content
  set : δ → Option content → δ
  value : ρ → content

/-- The fields of a kind of definition, where the extra entries are in a draft and in a definition,
the draft before the first entry, and how a draft becomes a definition. -/
structure Plan (δ ρ : Type) where
  fields : List (Field δ ρ)
  extra : δ → Extra
  setExtra : δ → Extra → δ
  extraOf : ρ → Extra
  initial : δ
  finish : δ → Except Mismatch ρ

namespace Plan

variable {δ ρ : Type}

/-- The names of the fields. -/
def names (plan : Plan δ ρ) : List String :=
  plan.fields.map (·.name)

/-- Take in one entry. -/
def take (plan : Plan δ ρ) (draft : δ) (name : String) (value : Value) : Except Mismatch δ :=
  match plan.fields.find? (name = ·.name) with
  | some field => do
      let content ← fill name (field.get draft) (field.read value)
      pure (field.set draft content)
  | none => do
      let extra ← keepExtra (plan.extra draft) name value
      pure (plan.setExtra draft extra)

/-- Read a definition from entries. -/
def decode (plan : Plan δ ρ) (pairs : List (Value × Value)) : Except Mismatch ρ :=
  entries plan.take plan.initial pairs >>= plan.finish

/-- The entries as which a definition is written. -/
def written (plan : Plan δ ρ) (record : ρ) : Extra :=
  plan.fields.map (fun field => (field.name, field.write (field.value record))) ++
    plan.extraOf record

/-- A draft consists of slots and extra entries, each of which can be set alone, and becomes a
definition once each slot is filled or may be left empty. -/
structure IsLawful (plan : Plan δ ρ) : Prop where
  nodup_names : plan.names.Nodup
  get_set : ∀ field ∈ plan.fields, ∀ draft content, field.get (field.set draft content) = content
  get_set_of_ne : ∀ field ∈ plan.fields, ∀ other ∈ plan.fields, other.name ≠ field.name →
    ∀ draft content, other.get (field.set draft content) = other.get draft
  get_setExtra : ∀ field ∈ plan.fields, ∀ draft extra,
    field.get (plan.setExtra draft extra) = field.get draft
  get_initial : ∀ field ∈ plan.fields, field.get plan.initial = none
  extra_set : ∀ field ∈ plan.fields, ∀ draft content,
    plan.extra (field.set draft content) = plan.extra draft
  extra_setExtra : ∀ draft extra, plan.extra (plan.setExtra draft extra) = extra
  extra_initial : plan.extra plan.initial = []
  finish_eq_ok_iff : ∀ draft record, plan.finish draft = .ok record ↔
    (∀ field ∈ plan.fields, (field.get draft).or field.absent = some (field.value record)) ∧
      plan.extra draft = plan.extraOf record
  read_null : ∀ field ∈ plan.fields, ∀ content, field.absent = some content →
    field.read .null = .ok content

end Plan

/-! ## One entry -/

theorem keepExtra_eq_ok_iff {extra next : Extra} {name : String} {value : Value} :
    keepExtra extra name value = .ok next ↔
      value.hasTag = false ∧ assign extra name value = next := by
  unfold keepExtra
  cases value.hasTag <;> simp

theorem require_eq_ok_iff {α : Type} {name : String} {content : Option α} {field : α} :
    require name content = .ok field ↔ content = some field := by
  cases content <;> simp [require]

namespace Plan

variable {δ ρ : Type} {plan : Plan δ ρ} {field : Field δ ρ} {draft next : δ} {name : String}
  {value : Value}

theorem mem_names (isField : field ∈ plan.fields) : field.name ∈ plan.names :=
  List.mem_map_of_mem isField

theorem find?_eq_none_iff : plan.fields.find? (name = ·.name) = none ↔ name ∉ plan.names := by
  rw [List.find?_eq_none]
  constructor
  · intro different member
    rcases List.mem_map.mp member with ⟨field, isField, rfl⟩
    exact different field isField (decide_eq_true rfl)
  · intro other field isField same
    rw [of_decide_eq_true same] at other
    exact other (mem_names isField)

/-- An entry either has a field or has none. -/
theorem exists_field_or_other (plan : Plan δ ρ) (name : String) :
    (∃ field ∈ plan.fields, field.name = name) ∨ name ∉ plan.names := by
  by_cases known : name ∈ plan.names
  · exact .inl (List.mem_map.mp known)
  · exact .inr known

/-- An entry that has no field is kept, unless it is tagged. -/
theorem take_other_eq_ok_iff (other : name ∉ plan.names) :
    plan.take draft name value = .ok next ↔
      value.hasTag = false ∧ plan.setExtra draft (assign (plan.extra draft) name value) = next := by
  rw [take, find?_eq_none_iff.mpr other]
  simp only [Except.bind_eq_ok_iff, Except.pure_eq_ok_iff, keepExtra_eq_ok_iff]
  constructor
  · rintro ⟨_, ⟨untagged, rfl⟩, rfl⟩
    exact ⟨untagged, rfl⟩
  · rintro ⟨untagged, rfl⟩
    exact ⟨_, ⟨untagged, rfl⟩, rfl⟩

namespace IsLawful

variable (lawful : plan.IsLawful)
include lawful

theorem find?_name (isField : field ∈ plan.fields) :
    plan.fields.find? (field.name = ·.name) = some field := by
  cases found : plan.fields.find? (field.name = ·.name) with
  | none =>
      have unknown := find?_eq_none_iff.mp found
      exact absurd (mem_names isField) unknown
  | some other =>
      have same : field.name = other.name := by simpa using List.find?_some found
      have isOther := List.mem_of_find?_eq_some found
      rw [List.inj_on_of_nodup_map lawful.nodup_names isField isOther same]

/-- An entry that has a field fills its slot, which has to be empty. -/
theorem take_field_eq_ok_iff (isField : field ∈ plan.fields) :
    plan.take draft field.name value = .ok next ↔
      field.get draft = none ∧
        ∃ content, field.read value = .ok content ∧ field.set draft (some content) = next := by
  rw [take, lawful.find?_name isField]
  simp only [fill, Except.bind_eq_ok_iff, Except.pure_eq_ok_iff, fillOnce_eq_ok_iff]
  constructor
  · rintro ⟨_, ⟨empty, content, reading, rfl⟩, rfl⟩
    exact ⟨empty, content, reading, rfl⟩
  · rintro ⟨empty, content, reading, rfl⟩
    exact ⟨_, ⟨empty, content, reading, rfl⟩, rfl⟩

/-- An entry that is taken in changes the slot of its field alone. -/
theorem get_of_take (isField : field ∈ plan.fields) (different : field.name ≠ name)
    (taken : plan.take draft name value = .ok next) : field.get next = field.get draft := by
  rcases exists_field_or_other plan name with ⟨other, isOther, rfl⟩ | unknown
  · rcases (lawful.take_field_eq_ok_iff isOther).mp taken with ⟨-, content, -, rfl⟩
    exact lawful.get_set_of_ne other isOther field isField different _ _
  · rcases (take_other_eq_ok_iff unknown).mp taken with ⟨-, rfl⟩
    exact lawful.get_setExtra field isField _ _

/-- The fields of a plan are fields of the function that takes in entries. -/
theorem isField (member : field ∈ plan.fields) :
    IsField plan.take field.name field.get field.read where
  filled taken := by
    rcases (lawful.take_field_eq_ok_iff member).mp taken with ⟨empty, content, reading, rfl⟩
    exact ⟨empty, content, reading, lawful.get_set field member _ _⟩
  kept different taken := lawful.get_of_take member different.symm taken

end IsLawful

end Plan

/-! ## Any entries -/

/-- Extra entries have distinct names, which are none of the known ones, and no tags. -/
structure AreExtra (known : List String) (extra : Extra) : Prop where
  nodup : (extra.map Prod.fst).Nodup
  unknown : ∀ entry ∈ extra, entry.1 ∉ known
  untagged : ∀ entry ∈ extra, entry.2.hasTag = false

theorem mem_assign {α : Type} {done : List (String × α)} {name : String} {value : α}
    {entry : String × α} (member : entry ∈ assign done name value) :
    entry = (name, value) ∨ entry ∈ done := by
  induction done with
  | nil => exact .inl (List.mem_singleton.mp member)
  | cons first rest ih =>
      rw [assign] at member
      split at member
      · rcases List.mem_cons.mp member with same | later
        · exact .inl same
        · exact .inr (List.mem_cons_of_mem _ later)
      · rcases List.mem_cons.mp member with same | later
        · exact .inr (same ▸ List.mem_cons_self)
        · rcases ih later with isNew | earlier
          · exact .inl isNew
          · exact .inr (List.mem_cons_of_mem _ earlier)

theorem AreExtra.assign {known : List String} {extra : Extra} (areExtra : AreExtra known extra)
    {name : String} {value : Value} (other : name ∉ known) (untagged : value.hasTag = false) :
    AreExtra known (assign extra name value) where
  nodup := nodup_names_assign areExtra.nodup name value
  unknown := by
    intro entry member
    rcases mem_assign member with rfl | earlier
    · exact other
    · exact areExtra.unknown entry earlier
  untagged := by
    intro entry member
    rcases mem_assign member with rfl | earlier
    · exact untagged
    · exact areExtra.untagged entry earlier

namespace Plan.IsLawful

variable {δ ρ : Type} {plan : Plan δ ρ} {field : Field δ ρ} {draft next final : δ} {record : ρ}
  {pairs : List (Value × Value)}
variable (lawful : plan.IsLawful)
include lawful

theorem areExtra_of_take {name : String} {value : Value}
    (areExtra : AreExtra plan.names (plan.extra draft))
    (taken : plan.take draft name value = .ok next) : AreExtra plan.names (plan.extra next) := by
  rcases exists_field_or_other plan name with ⟨field, isField, rfl⟩ | other
  · rcases (lawful.take_field_eq_ok_iff isField).mp taken with ⟨-, content, -, rfl⟩
    rw [lawful.extra_set field isField]
    exact areExtra
  · rcases (take_other_eq_ok_iff other).mp taken with ⟨untagged, rfl⟩
    rw [lawful.extra_setExtra]
    exact areExtra.assign other untagged

theorem areExtra_of_entries (areExtra : AreExtra plan.names (plan.extra draft))
    (taken : entries plan.take draft pairs = .ok final) :
    AreExtra plan.names (plan.extra final) := by
  induction pairs generalizing draft with
  | nil =>
      cases taken
      exact areExtra
  | cons pair rest ih =>
      rcases entries_cons_eq_ok_iff.mp taken with ⟨name, -, next, takenFirst, takenRest⟩
      exact ih (lawful.areExtra_of_take areExtra takenFirst) takenRest

/-- A slot that has been filled holds a reading. -/
theorem exists_read_of_entries (isField : field ∈ plan.fields) (empty : field.get draft = none)
    (taken : entries plan.take draft pairs = .ok final) {content : field.content}
    (filled : field.get final = some content) : ∃ value, field.read value = .ok content := by
  induction pairs generalizing draft with
  | nil =>
      cases taken
      rw [empty] at filled
      contradiction
  | cons pair rest ih =>
      rcases entries_cons_eq_ok_iff.mp taken with ⟨name, -, next, takenFirst, takenRest⟩
      by_cases same : field.name = name
      · subst same
        rcases (lawful.isField isField).filled takenFirst with ⟨-, first, reading, filledFirst⟩
        have unchanged := (lawful.isField isField).slot_of_filled filledFirst takenRest
        rw [filled] at unchanged
        cases unchanged
        exact ⟨pair.2, reading⟩
      · rw [← lawful.get_of_take isField same takenFirst] at empty
        exact ih empty takenRest

/-- Whatever the keys are, only entries that can be extra ones are kept. -/
theorem areExtra (decoded : plan.decode pairs = .ok record) :
    AreExtra plan.names (plan.extraOf record) := by
  rcases Except.bind_eq_ok_iff.mp decoded with ⟨draft, taken, finished⟩
  rw [← ((lawful.finish_eq_ok_iff draft record).mp finished).2]
  apply lawful.areExtra_of_entries _ taken
  rw [lawful.extra_initial]
  exact ⟨List.nodup_nil, List.forall_mem_nil _, List.forall_mem_nil _⟩

/-- Whatever the keys are, every field is a reading, be it that of null. -/
theorem exists_read (isField : field ∈ plan.fields) (decoded : plan.decode pairs = .ok record) :
    ∃ value, field.read value = .ok (field.value record) := by
  rcases Except.bind_eq_ok_iff.mp decoded with ⟨draft, taken, finished⟩
  have complete := ((lawful.finish_eq_ok_iff draft record).mp finished).1 field isField
  cases filled : field.get draft with
  | some content =>
      rw [filled] at complete
      cases complete
      exact lawful.exists_read_of_entries isField (lawful.get_initial field isField) taken filled
  | none =>
      rw [filled] at complete
      exact ⟨.null, lawful.read_null field isField _ complete⟩

end Plan.IsLawful

/-! ## Looking up a name -/

/-- The reading of the value under the name of a field. -/
def Field.reading {δ ρ : Type} (field : Field δ ρ) (valueOf : String → Option Value) :
    Except Mismatch field.content :=
  match valueOf field.name with
  | some value => field.read value
  | none =>
      match field.absent with
      | some content => .ok content
      | none => .error (.missingField field.name)

/-- The slot of a field as the value under its name fills it. -/
def Field.slot {δ ρ : Type} (field : Field δ ρ) (valueOf : String → Option Value) :
    Except Mismatch (Option field.content) :=
  match valueOf field.name with
  | some value => (field.read value).map some
  | none => .ok none

theorem Field.reading_eq_ok_iff {δ ρ : Type} {field : Field δ ρ} {valueOf : String → Option Value}
    {content : field.content} :
    field.reading valueOf = .ok content ↔
      ∃ slot, field.slot valueOf = .ok slot ∧ slot.or field.absent = some content := by
  unfold reading slot
  cases valueOf field.name with
  | some value => simp [Except.map_eq_ok_iff]
  | none => cases field.absent <;> simp

theorem Plan.plainKeys_of_decode {δ ρ : Type} {plan : Plan δ ρ} {pairs : List (Value × Value)}
    {record : ρ} (untagged : ∀ pair ∈ pairs, pair.1.untag = pair.1)
    (decoded : plan.decode pairs = .ok record) : PlainKeys pairs := by
  rcases Except.bind_eq_ok_iff.mp decoded with ⟨draft, taken, -⟩
  exact plainKeys_of_entries untagged taken

namespace Plan.IsLawful

variable {δ ρ : Type} {plan : Plan δ ρ} {pairs : List (Value × Value)} {record : ρ}
variable (lawful : plan.IsLawful)
include lawful

/-- Among plain keys every field is the reading of the value that is found under its name. -/
theorem reading_of_plainKeys (plain : PlainKeys pairs) (decoded : plan.decode pairs = .ok record) :
    ∀ field ∈ plan.fields, field.reading (Value.valueOf? pairs) = .ok (field.value record) := by
  intro field isField
  rcases Except.bind_eq_ok_iff.mp decoded with ⟨draft, taken, finished⟩
  have complete := ((lawful.finish_eq_ok_iff draft record).mp finished).1 field isField
  refine Field.reading_eq_ok_iff.mpr ⟨_, ?_, complete⟩
  rcases (lawful.isField isField).slot_entries plain taken with
    ⟨absent, unfilled⟩ | ⟨value, content, found, -, reading, filled⟩
  · rw [Field.slot, absent, unfilled, lawful.get_initial field isField]
  · simp only [Field.slot, found, reading, filled, Except.map]

/-- A value that is found under the name of a field is read as this field, even among tagged
keys. -/
theorem read_of_valueOf? (decoded : plan.decode pairs = .ok record) :
    ∀ field ∈ plan.fields, ∀ value, Value.valueOf? pairs field.name = some value →
      field.read value = .ok (field.value record) := by
  intro field isField value found
  rcases Except.bind_eq_ok_iff.mp decoded with ⟨draft, taken, finished⟩
  have complete := ((lawful.finish_eq_ok_iff draft record).mp finished).1 field isField
  have member := Value.mem_of_valueOf? found
  rcases (lawful.isField isField).slot_of_mem member rfl taken with ⟨content, reading, filled⟩
  rw [filled] at complete
  cases complete
  exact reading

end Plan.IsLawful

/-! ## Entries with distinct plain names -/

/-- The value under a name. -/
def valueUnder (pairs : Extra) (name : String) : Option Value :=
  pairs.lookup name

/-- The entries that have none of the known names, in order. -/
def others (known : List String) (pairs : Extra) : Extra :=
  pairs.filter fun entry => entry.1 ∉ known

/-- Extra entries are those that have none of the known names, unchanged and in order, and none of
them is tagged. -/
structure KeepsOthers (known : List String) (pairs extra : Extra) : Prop where
  extra_eq : extra = others known pairs
  untagged : ∀ entry ∈ extra, entry.2.hasTag = false

theorem entries_append {δ : Type} {take : δ → String → Value → Except Mismatch δ} {draft : δ}
    (front back : List (Value × Value)) :
    entries take draft (front ++ back) =
      entries take draft front >>= fun next => entries take next back := by
  induction front generalizing draft with
  | nil => rfl
  | cons pair rest ih => simp only [List.cons_append, entries, ih, bind_assoc]

theorem entries_concat_eq_ok_iff {δ : Type} {take : δ → String → Value → Except Mismatch δ}
    {draft final : δ} {pairs : Extra} {name : String} {value : Value} :
    entries take draft (Encode.entries (pairs ++ [(name, value)])) = .ok final ↔
      ∃ next, entries take draft (Encode.entries pairs) = .ok next ∧
        take next name value = .ok final := by
  rw [Encode.entries, List.map_append, entries_append, Except.bind_eq_ok_iff]
  constructor
  · rintro ⟨next, takenFront, takenLast⟩
    rcases entries_cons_eq_ok_iff.mp takenLast with ⟨_, ⟨⟩, last, taken, ⟨⟩⟩
    exact ⟨next, takenFront, taken⟩
  · rintro ⟨next, takenFront, taken⟩
    exact ⟨next, takenFront, entries_cons_eq_ok_iff.mpr ⟨name, rfl, final, taken, rfl⟩⟩

section Lookup

variable {pairs : Extra} {name : String} {value : Value}

theorem valueUnder_eq_none (missing : name ∉ pairs.map Prod.fst) :
    valueUnder pairs name = none := by
  rw [valueUnder, List.lookup_eq_none_iff]
  intro pair member
  rw [bne_iff_ne]
  rintro rfl
  exact missing (List.mem_map_of_mem member)

/-- With distinct names every value stands under its own. -/
theorem valueUnder_of_mem (distinct : (pairs.map Prod.fst).Nodup) (member : (name, value) ∈ pairs) :
    valueUnder pairs name = some value := by
  induction pairs with
  | nil => contradiction
  | cons first rest ih =>
      rcases List.nodup_cons.mp distinct with ⟨fresh, distinctRest⟩
      rcases List.mem_cons.mp member with rfl | later
      · simp [valueUnder]
      · have different : name ≠ first.1 := by
          rintro rfl
          exact fresh (List.mem_map.mpr ⟨_, later, rfl⟩)
        rw [← ih distinctRest later, valueUnder, valueUnder, List.lookup_cons,
          beq_eq_false_iff_ne.mpr different]

theorem valueUnder_concat (fresh : name ∉ pairs.map Prod.fst) (sought : String) :
    valueUnder (pairs ++ [(name, value)]) sought =
      if sought = name then some value else valueUnder pairs sought := by
  rw [valueUnder, List.lookup_append]
  by_cases same : sought = name
  · subst same
    have missing := valueUnder_eq_none fresh
    rw [valueUnder] at missing
    simp [missing]
  · simp [List.lookup_cons, beq_eq_false_iff_ne.mpr same, same, valueUnder]

theorem others_concat (known : List String) (pairs : Extra) (name : String) (value : Value) :
    others known (pairs ++ [(name, value)]) =
      others known pairs ++ if name ∈ known then [] else [(name, value)] := by
  rw [others, List.filter_append]
  split <;> simp_all [others]

end Lookup

namespace Plan

variable {δ ρ : Type}

/-- A draft holds the reading of the value under the name of each field, and all other entries. -/
structure Holds (plan : Plan δ ρ) (pairs : Extra) (draft : δ) : Prop where
  slot_eq : ∀ field ∈ plan.fields, field.slot (valueUnder pairs) = .ok (field.get draft)
  extra : KeepsOthers plan.names pairs (plan.extra draft)

namespace IsLawful

variable {plan : Plan δ ρ} {final : δ} {record : ρ} {pairs : Extra}
variable (lawful : plan.IsLawful)
include lawful

/-- A draft that holds entries holds one more once it has taken it in. -/
theorem holds_of_take {name : String} {value : Value} {draft next : δ}
    (fresh : name ∉ pairs.map Prod.fst) (holds : plan.Holds pairs draft)
    (taken : plan.take draft name value = .ok next) :
    plan.Holds (pairs ++ [(name, value)]) next := by
  refine ⟨?_, ?_, ?_⟩
  · intro field isField
    by_cases same : field.name = name
    · subst same
      rcases (lawful.take_field_eq_ok_iff isField).mp taken with ⟨-, content, reading, rfl⟩
      rw [lawful.get_set field isField]
      simp only [Field.slot, valueUnder_concat fresh, if_true, reading, Except.map]
    · rw [lawful.get_of_take isField same taken, ← holds.slot_eq field isField]
      simp only [Field.slot, valueUnder_concat fresh, if_neg same]
  · rw [others_concat]
    rcases exists_field_or_other plan name with ⟨field, isField, rfl⟩ | other
    · rcases (lawful.take_field_eq_ok_iff isField).mp taken with ⟨-, content, -, rfl⟩
      rw [lawful.extra_set field isField, if_pos (mem_names isField), List.append_nil]
      exact holds.extra.extra_eq
    · rcases (take_other_eq_ok_iff other).mp taken with ⟨-, rfl⟩
      have new : name ∉ (plan.extra draft).map Prod.fst := by
        rw [holds.extra.extra_eq]
        intro member
        rcases List.mem_map.mp member with ⟨entry, isOther, rfl⟩
        exact fresh (List.mem_map_of_mem (List.mem_of_mem_filter isOther))
      rw [lawful.extra_setExtra, if_neg other, assign_of_not_mem new, holds.extra.extra_eq]
  · rcases exists_field_or_other plan name with ⟨field, isField, rfl⟩ | other
    · rcases (lawful.take_field_eq_ok_iff isField).mp taken with ⟨-, content, -, rfl⟩
      rw [lawful.extra_set field isField]
      exact holds.extra.untagged
    · rcases (take_other_eq_ok_iff other).mp taken with ⟨untagged, rfl⟩
      rw [lawful.extra_setExtra]
      intro entry member
      rcases mem_assign member with rfl | earlier
      · exact untagged
      · exact holds.extra.untagged entry earlier

theorem holds_of_entries (distinct : (pairs.map Prod.fst).Nodup)
    (taken : entries plan.take plan.initial (Encode.entries pairs) = .ok final) :
    plan.Holds pairs final := by
  induction pairs using List.reverseRecOn generalizing final with
  | nil =>
      cases taken
      refine ⟨fun field isField => ?_, lawful.extra_initial, ?_⟩
      · rw [lawful.get_initial field isField]
        rfl
      · rw [lawful.extra_initial]
        exact List.forall_mem_nil _
  | append_singleton pairs pair ih =>
      rw [List.map_append, List.nodup_append_comm] at distinct
      rcases List.nodup_cons.mp distinct with ⟨fresh, distinctFront⟩
      rcases entries_concat_eq_ok_iff.mp taken with ⟨next, takenFront, takenLast⟩
      exact lawful.holds_of_take fresh (ih distinctFront takenFront) takenLast

/-- Entries can be taken in if the values of fields can be read and the others have no tags. -/
theorem exists_of_fits (distinct : (pairs.map Prod.fst).Nodup)
    (fits : ∀ field ∈ plan.fields, ∃ slot, field.slot (valueUnder pairs) = .ok slot)
    (untagged : ∀ entry ∈ others plan.names pairs, entry.2.hasTag = false) :
    ∃ final, entries plan.take plan.initial (Encode.entries pairs) = .ok final := by
  induction pairs using List.reverseRecOn with
  | nil => exact ⟨plan.initial, rfl⟩
  | append_singleton pairs pair ih =>
      obtain ⟨name, value⟩ := pair
      rw [List.map_append, List.nodup_append_comm] at distinct
      rcases List.nodup_cons.mp distinct with ⟨fresh, distinctFront⟩
      have missing := valueUnder_eq_none fresh
      simp only [Field.slot, valueUnder_concat fresh] at fits
      rw [others_concat, List.forall_mem_append] at untagged
      have fitsFront : ∀ field ∈ plan.fields, ∃ slot, field.slot (valueUnder pairs) = .ok slot := by
        intro field isField
        have fit := fits field isField
        by_cases same : field.name = name
        · rw [← same] at missing
          exact ⟨none, by rw [Field.slot, missing]⟩
        · rw [if_neg same] at fit
          exact fit
      rcases ih distinctFront fitsFront untagged.1 with ⟨next, takenFront⟩
      have holds := lawful.holds_of_entries distinctFront takenFront
      simp only [entries_concat_eq_ok_iff]
      rcases exists_field_or_other plan name with ⟨field, isField, rfl⟩ | other
      · rcases fits field isField with ⟨_, reading⟩
        rw [if_pos rfl] at reading
        rcases Except.map_eq_ok_iff.mp reading with ⟨content, read, -⟩
        have empty := holds.slot_eq field isField
        simp only [Field.slot, missing, Except.ok.injEq] at empty
        exact ⟨_, next, takenFront,
          (lawful.take_field_eq_ok_iff isField).mpr ⟨empty.symm, content, read, rfl⟩⟩
      · rw [if_neg other] at untagged
        have plain := untagged.2 _ (List.mem_singleton_self _)
        exact ⟨_, next, takenFront, (take_other_eq_ok_iff other).mpr ⟨plain, rfl⟩⟩

/-- A definition is read from entries with distinct names exactly if its fields are the readings of
the values under their names, no matter where these stand, and its extra entries are the others. -/
theorem decode_eq_ok_iff (distinct : (pairs.map Prod.fst).Nodup) :
    plan.decode (Encode.entries pairs) = .ok record ↔
      (∀ field ∈ plan.fields, field.reading (valueUnder pairs) = .ok (field.value record)) ∧
        KeepsOthers plan.names pairs (plan.extraOf record) := by
  rw [decode, Except.bind_eq_ok_iff]
  constructor
  · rintro ⟨draft, taken, finished⟩
    rcases lawful.holds_of_entries distinct taken with ⟨slots, kept⟩
    rcases (lawful.finish_eq_ok_iff draft record).mp finished with ⟨complete, extra⟩
    rw [← extra]
    refine ⟨fun field isField => ?_, kept⟩
    exact Field.reading_eq_ok_iff.mpr ⟨_, slots field isField, complete field isField⟩
  · rintro ⟨readings, kept⟩
    have untagged := kept.untagged
    rw [kept.extra_eq] at untagged
    have fits : ∀ field ∈ plan.fields, ∃ slot, field.slot (valueUnder pairs) = .ok slot := by
      intro field isField
      rcases Field.reading_eq_ok_iff.mp (readings field isField) with ⟨slot, fit, -⟩
      exact ⟨slot, fit⟩
    rcases lawful.exists_of_fits distinct fits untagged with ⟨draft, taken⟩
    rcases lawful.holds_of_entries distinct taken with ⟨slots, keptToo⟩
    refine ⟨draft, taken, (lawful.finish_eq_ok_iff draft record).mpr ⟨?_, ?_⟩⟩
    · intro field isField
      rcases Field.reading_eq_ok_iff.mp (readings field isField) with ⟨slot, fit, complete⟩
      rw [slots field isField] at fit
      rw [Except.ok.inj fit]
      exact complete
    · rw [keptToo.extra_eq, kept.extra_eq]

/-! ## What is written -/

theorem nodup_names_written (areExtra : AreExtra plan.names (plan.extraOf record)) :
    ((plan.written record).map Prod.fst).Nodup := by
  rw [written, List.map_append, List.map_map, List.nodup_append']
  refine ⟨lawful.nodup_names, areExtra.nodup, ?_⟩
  intro name known isExtra
  rcases List.mem_map.mp isExtra with ⟨entry, member, rfl⟩
  exact areExtra.unknown entry member known

omit lawful in
theorem others_written (areExtra : AreExtra plan.names (plan.extraOf record)) :
    others plan.names (plan.written record) = plan.extraOf record := by
  rw [others, written, List.filter_append, List.filter_eq_nil_iff.mpr, List.filter_eq_self.mpr,
    List.nil_append]
  · intro entry member
    exact decide_eq_true (areExtra.unknown entry member)
  · intro entry member
    rcases List.mem_map.mp member with ⟨field, isField, rfl⟩
    simpa using mem_names isField

theorem reading_written (areExtra : AreExtra plan.names (plan.extraOf record))
    {field : Field δ ρ} (isField : field ∈ plan.fields) :
    field.reading (valueUnder (plan.written record)) =
      field.read (field.write (field.value record)) := by
  have member : (field.name, field.write (field.value record)) ∈ plan.written record :=
    List.mem_append_left _ (List.mem_map.mpr ⟨field, isField, rfl⟩)
  rw [Field.reading, valueUnder_of_mem (lawful.nodup_names_written areExtra) member]

/-- What is written is read as the same definition exactly if what is written of each field is read
as this field. -/
theorem decode_written_iff (areExtra : AreExtra plan.names (plan.extraOf record)) :
    plan.decode (Encode.entries (plan.written record)) = .ok record ↔
      ∀ field ∈ plan.fields,
        field.read (field.write (field.value record)) = .ok (field.value record) := by
  rw [lawful.decode_eq_ok_iff (lawful.nodup_names_written areExtra)]
  constructor
  · rintro ⟨readings, -⟩ field isField
    rw [← lawful.reading_written areExtra isField]
    exact readings field isField
  · intro readings
    refine ⟨?_, (others_written areExtra).symm, areExtra.untagged⟩
    intro field isField
    rw [lawful.reading_written areExtra isField]
    exact readings field isField

end IsLawful

end Plan

end Decode

end RunAtlas
