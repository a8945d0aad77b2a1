import Mathlib.Data.List.Forall2
import Mathlib.Data.List.Nodup
import RunAtlas.Definition.Decode
import RunAtlas.Proofs.Outcome

/-!
# What reading does with each entry

A draft fills every field from the first entry that has its name, and a second one is an error.  So
of entries whose keys are plain strings a field holds the reading of the value that is found under
its name (`Decode.IsField.slot_entries`).  A mapping from names is read entry by entry, in order, as
long as its names are distinct (`Decode.forall₂_of_namedValues`).
-/

namespace RunAtlas

open Yaml

namespace Decode

/-- All keys are plain strings. -/
def PlainKeys (pairs : List (Value × Value)) : Prop :=
  ∀ pair ∈ pairs, ∃ name, pair.1 = .string name

/-! ## Fields -/

/-- The entry under the name of a field fills its slot once, and no other entry changes it. -/
structure IsField {δ α : Type} (take : δ → String → Value → Except Mismatch δ) (field : String)
    (slot : δ → Option α) (read : Value → Except Mismatch α) : Prop where
  filled : ∀ {draft next : δ} {value : Value}, take draft field value = .ok next →
    slot draft = none ∧ ∃ result, read value = .ok result ∧ slot next = some result
  kept : ∀ {draft next : δ} {name : String} {value : Value}, name ≠ field →
    take draft name value = .ok next → slot next = slot draft

theorem toFieldName_eq_ok_iff {key : Value} {name : String} :
    key.toFieldName = .ok name ↔ key.untag = .string name := by
  unfold Value.toFieldName
  split <;> simp_all

theorem toText_eq_ok_iff {key : Value} {name : String} :
    key.toText = .ok name ↔ key.untag = .string name := by
  unfold Value.toText
  split <;> simp_all

theorem entries_cons_eq_ok_iff {δ : Type} {take : δ → String → Value → Except Mismatch δ}
    {draft final : δ} {key value : Value} {rest : List (Value × Value)} :
    entries take draft ((key, value) :: rest) = .ok final ↔
      ∃ name, key.untag = .string name ∧ ∃ next, take draft name value = .ok next ∧
        entries take next rest = .ok final := by
  simp only [entries, Except.bind_eq_ok_iff, toFieldName_eq_ok_iff]

/-- Entries that can be read have strings as keys. -/
theorem plainKeys_of_entries {δ : Type} {take : δ → String → Value → Except Mismatch δ}
    {draft final : δ} {pairs : List (Value × Value)}
    (untagged : ∀ pair ∈ pairs, pair.1.untag = pair.1)
    (decoded : entries take draft pairs = .ok final) : PlainKeys pairs := by
  induction pairs generalizing draft with
  | nil => simp [PlainKeys]
  | cons pair rest ih =>
      obtain ⟨first, others⟩ := List.forall_mem_cons.mp untagged
      obtain ⟨name, key, next, -, remaining⟩ := entries_cons_eq_ok_iff.mp decoded
      exact List.forall_mem_cons.mpr ⟨⟨name, first ▸ key⟩, ih others remaining⟩

theorem valueOf?_cons (name field : String) (value : Value) (rest : List (Value × Value)) :
    Value.valueOf? ((.string name, value) :: rest) field =
      if name = field then some value else Value.valueOf? rest field := by
  by_cases same : name = field <;> simp [Value.valueOf?, Value.isKey, same]

/-- A field ends up with the reading of the value under its name, and as it was without one. -/
theorem IsField.slot_entries {δ α : Type} {take : δ → String → Value → Except Mismatch δ}
    {field : String} {slot : δ → Option α} {read : Value → Except Mismatch α}
    (isField : IsField take field slot read) {draft final : δ} {pairs : List (Value × Value)}
    (plain : PlainKeys pairs) (decoded : entries take draft pairs = .ok final) :
    (Value.valueOf? pairs field = none ∧ slot final = slot draft) ∨
      ∃ value result, Value.valueOf? pairs field = some value ∧ slot draft = none ∧
        read value = .ok result ∧ slot final = some result := by
  induction pairs generalizing draft with
  | nil =>
      cases decoded
      exact Or.inl ⟨rfl, rfl⟩
  | cons pair rest ih =>
      obtain ⟨key, value⟩ := pair
      obtain ⟨⟨name, rfl⟩, plainRest⟩ := List.forall_mem_cons.mp plain
      obtain ⟨_, ⟨⟩, next, taken, remaining⟩ := entries_cons_eq_ok_iff.mp decoded
      rw [valueOf?_cons]
      by_cases same : name = field
      · subst same
        obtain ⟨empty, result, reading, holds⟩ := isField.filled taken
        rcases ih plainRest remaining with ⟨-, unchanged⟩ | ⟨_, _, -, unfilled, -⟩
        · exact Or.inr ⟨value, result, if_pos rfl, empty, reading, unchanged.trans holds⟩
        · simp [holds] at unfilled
      · rw [if_neg same, ← isField.kept same taken]
        exact ih plainRest remaining

/-- A slot that is filled stays as it is: a second entry for its field would be an error. -/
theorem IsField.slot_of_filled {δ α : Type} {take : δ → String → Value → Except Mismatch δ}
    {field : String} {slot : δ → Option α} {read : Value → Except Mismatch α}
    (isField : IsField take field slot read) {draft final : δ} {pairs : List (Value × Value)}
    {result : α} (filled : slot draft = some result)
    (decoded : entries take draft pairs = .ok final) : slot final = some result := by
  induction pairs generalizing draft with
  | nil =>
      cases decoded
      exact filled
  | cons pair rest ih =>
      obtain ⟨name, _, next, taken, remaining⟩ := entries_cons_eq_ok_iff.mp decoded
      by_cases same : name = field
      · subst same
        obtain ⟨empty, -⟩ := isField.filled taken
        rw [filled] at empty
        contradiction
      · apply ih _ remaining
        rw [isField.kept same taken]
        exact filled

/-- A field ends up with the reading of a value that stands under its name, tagged or not. -/
theorem IsField.slot_of_mem {δ α : Type} {take : δ → String → Value → Except Mismatch δ}
    {field : String} {slot : δ → Option α} {read : Value → Except Mismatch α}
    (isField : IsField take field slot read) {draft final : δ} {pairs : List (Value × Value)}
    {key value : Value} (member : (key, value) ∈ pairs) (named : key.untag = .string field)
    (decoded : entries take draft pairs = .ok final) :
    ∃ result, read value = .ok result ∧ slot final = some result := by
  induction pairs generalizing draft with
  | nil => contradiction
  | cons pair rest ih =>
      obtain ⟨name, isName, next, taken, remaining⟩ := entries_cons_eq_ok_iff.mp decoded
      rcases List.mem_cons.mp member with rfl | later
      · rw [named, Value.string.injEq] at isName
        subst isName
        obtain ⟨-, result, reading, filled⟩ := isField.filled taken
        exact ⟨result, reading, isField.slot_of_filled filled remaining⟩
      · exact ih later remaining

/-! ## Names -/

theorem assign_of_not_mem {α : Type} {done : List (String × α)} {name : String}
    (fresh : name ∉ done.map Prod.fst) (value : α) :
    assign done name value = done ++ [(name, value)] := by
  induction done with
  | nil => rfl
  | cons first rest ih =>
      simp only [List.map_cons, List.mem_cons, not_or] at fresh
      simp [assign, Ne.symm fresh.1, ih fresh.2]

theorem names_assign_of_mem {α : Type} {done : List (String × α)} {name : String}
    (known : name ∈ done.map Prod.fst) (value : α) :
    (assign done name value).map Prod.fst = done.map Prod.fst := by
  induction done with
  | nil => contradiction
  | cons first rest ih =>
      by_cases same : first.1 = name
      · simp [assign, same]
      · have later : name ∈ rest.map Prod.fst := by
          rcases List.mem_cons.mp known with isFirst | later
          · exact absurd isFirst.symm same
          · exact later
        simp [assign, same, ih later]

/-- Names stay distinct when one of them is given another value, or a new one its first. -/
theorem nodup_names_assign {α : Type} {done : List (String × α)}
    (distinct : (done.map Prod.fst).Nodup) (name : String) (value : α) :
    ((assign done name value).map Prod.fst).Nodup := by
  by_cases known : name ∈ done.map Prod.fst
  · rw [names_assign_of_mem known]
    exact distinct
  · rw [assign_of_not_mem known, List.map_append]
    exact List.nodup_append_comm.mp (List.nodup_cons.mpr ⟨known, distinct⟩)

/-- Named values have distinct names, whatever the keys are from which the names are read. -/
theorem nodup_names_of_namedValues {α : Type} {read : Value → Except Mismatch α}
    {done result : List (String × α)} {pairs : List (Value × Value)}
    (distinct : (done.map Prod.fst).Nodup) (decoded : namedValues read done pairs = .ok result) :
    (result.map Prod.fst).Nodup := by
  induction pairs generalizing done with
  | nil =>
      cases decoded
      exact distinct
  | cons pair rest ih =>
      simp only [namedValues, Except.bind_eq_ok_iff] at decoded
      rcases decoded with ⟨name, -, value, -, remaining⟩
      apply ih _ remaining
      exact nodup_names_assign distinct name value

theorem nodup_names_of_toNamedValues {α : Type} {read : Value → Except Mismatch α} {value : Value}
    {result : List (String × α)} (decoded : toNamedValues read value = .ok result) :
    (result.map Prod.fst).Nodup := by
  rw [toNamedValues, Except.bind_eq_ok_iff] at decoded
  rcases decoded with ⟨pairs, -, decoded⟩
  apply nodup_names_of_namedValues _ decoded
  exact List.nodup_nil

/-- Entries with distinct names are read one by one. -/
theorem forall₂_of_namedValues {α : Type} {read : Value → Except Mismatch α}
    {done result : List (String × α)} {pairs : List (Value × Value)}
    (untagged : ∀ pair ∈ pairs, pair.1.untag = pair.1) (distinct : (pairs.map Prod.fst).Nodup)
    (fresh : ∀ pair ∈ pairs, ∀ named ∈ done, pair.1 ≠ .string named.1)
    (decoded : namedValues read done pairs = .ok result) :
    ∃ added, result = done ++ added ∧
      List.Forall₂ (fun pair named => pair.1 = .string named.1 ∧ read pair.2 = .ok named.2)
        pairs added := by
  induction pairs generalizing done with
  | nil =>
      cases decoded
      exact ⟨[], by simp, .nil⟩
  | cons pair rest ih =>
      obtain ⟨key, value⟩ := pair
      obtain ⟨first, others⟩ := List.forall_mem_cons.mp untagged
      obtain ⟨freshFirst, freshOthers⟩ := List.forall_mem_cons.mp fresh
      obtain ⟨unique, distinctRest⟩ := List.nodup_cons.mp distinct
      simp only [namedValues, Except.bind_eq_ok_iff, toText_eq_ok_iff] at decoded
      obtain ⟨name, isName, reading, readValue, remaining⟩ := decoded
      obtain rfl : key = .string name := first.symm.trans isName
      have new : name ∉ done.map Prod.fst := by
        intro member
        obtain ⟨named, isDone, rfl⟩ := List.mem_map.mp member
        exact freshFirst named isDone rfl
      rw [assign_of_not_mem new] at remaining
      have freshRest : ∀ pair ∈ rest, ∀ named ∈ done ++ [(name, reading)],
          pair.1 ≠ .string named.1 := by
        intro other member named isDone same
        rcases List.mem_append.mp isDone with earlier | last
        · exact freshOthers other member named earlier same
        · obtain rfl := List.mem_singleton.mp last
          exact unique (List.mem_map.mpr ⟨other, member, same⟩)
      obtain ⟨added, rfl, readRest⟩ := ih others distinctRest freshRest remaining
      exact ⟨(name, reading) :: added, by simp, .cons ⟨rfl, readValue⟩ readRest⟩

/-- All items of a list are read one by one. -/
theorem forall₂_of_readAll {α : Type} {read : Value → Except Mismatch α} {values : List Value}
    {results : List α} (decoded : Value.readAll read values = .ok results) :
    List.Forall₂ (fun value result => read value = .ok result) values results := by
  induction values generalizing results with
  | nil =>
      cases decoded
      exact .nil
  | cons value rest ih =>
      simp only [Value.readAll, Except.bind_eq_ok_iff, Except.pure_eq_ok_iff] at decoded
      obtain ⟨first, readFirst, others, readRest, rfl⟩ := decoded
      exact .cons readFirst (ih readRest)

end Decode

open Decode

theorem fillOnce_eq_ok_iff {ε α : Type} {duplicate : ε} {slot next : Option α}
    {read : Except ε α} :
    fillOnce duplicate slot read = .ok next ↔
      slot = none ∧ ∃ result, read = .ok result ∧ some result = next := by
  cases slot <;> cases read <;> simp [fillOnce, Except.map]

end RunAtlas
