import RunAtlas.Definition.Decode
import RunAtlas.Definition.Encode

/-!
# The names of tags

A value that is kept in any shape keeps its tags.  When it is read, a mark at the start of the name
of a tag is dropped unless nothing follows it, so that exactly the values whose tags have plain
names are read as they are (`Yaml.Value.retag_eq_self_iff`).
-/

namespace RunAtlas.Yaml.Value

/-- In the name of a tag no mark stands before other characters. -/
def IsPlainTag (tag : String) : Prop :=
  ∀ c name, tag.toList ≠ '!' :: c :: name

mutual

/-- The names of all tags in a value. -/
def tags : Value → List String
  | .tagged tag value => tag :: tags value
  | .sequence items => tagsOfItems items
  | .mapping entries => tagsOfEntries entries
  | _ => []

/-- The names of all tags in items. -/
def tagsOfItems : List Value → List String
  | [] => []
  | item :: rest => tags item ++ tagsOfItems rest

/-- The names of all tags in entries. -/
def tagsOfEntries : List (Value × Value) → List String
  | [] => []
  | (key, value) :: rest => tags key ++ tags value ++ tagsOfEntries rest

end

/-- All tags in a value have plain names. -/
def HasPlainTags (value : Value) : Prop :=
  ∀ tag ∈ value.tags, IsPlainTag tag

theorem readTag_eq_self_iff {tag : String} : readTag tag = tag ↔ IsPlainTag tag := by
  unfold readTag
  split
  · rename_i c name marked
    constructor
    · intro same
      rw [← same, String.toList_ofList] at marked
      simpa using congrArg List.length marked
    · intro plain
      exact absurd marked (plain c name)
  · rename_i unmarked
    exact iff_of_true rfl unmarked

instance : DecidablePred IsPlainTag :=
  fun _ => decidable_of_iff _ readTag_eq_self_iff

instance (value : Value) : Decidable value.HasPlainTags :=
  inferInstanceAs (Decidable (∀ tag ∈ value.tags, IsPlainTag tag))

mutual

theorem retag_eq_self_iff (value : Value) : value.retag = value ↔ value.HasPlainTags := by
  unfold HasPlainTags
  cases value with
  | tagged tag value =>
      have inner := retag_eq_self_iff value
      simp only [retag, tags, tagged.injEq, readTag_eq_self_iff, List.forall_mem_cons]
      exact and_congr_right fun _ => inner
  | sequence items => rw [retag, tags, sequence.injEq, retagItems_eq_self_iff]
  | mapping entries => rw [retag, tags, mapping.injEq, retagEntries_eq_self_iff]
  | _ => simp [retag, tags]

theorem retagItems_eq_self_iff (items : List Value) :
    retagItems items = items ↔ ∀ tag ∈ tagsOfItems items, IsPlainTag tag := by
  cases items with
  | nil => simp [retagItems, tagsOfItems]
  | cons item rest =>
      simp only [retagItems, tagsOfItems, List.cons.injEq, List.forall_mem_append]
      exact and_congr (retag_eq_self_iff item) (retagItems_eq_self_iff rest)

theorem retagEntries_eq_self_iff (entries : List (Value × Value)) :
    retagEntries entries = entries ↔ ∀ tag ∈ tagsOfEntries entries, IsPlainTag tag := by
  match entries with
  | [] => simp [retagEntries, tagsOfEntries]
  | (key, value) :: rest =>
      simp only [retagEntries, tagsOfEntries, List.cons.injEq, Prod.mk.injEq,
        List.forall_mem_append]
      exact and_congr (and_congr (retag_eq_self_iff key) (retag_eq_self_iff value))
        (retagEntries_eq_self_iff rest)

end

mutual

theorem tags_eq_nil_of_hasTag (value : Value) (untagged : value.hasTag = false) :
    value.tags = [] := by
  cases value with
  | tagged tag value => simp [hasTag] at untagged
  | sequence items =>
      rw [tags]
      exact tagsOfItems_eq_nil_of_hasTag items untagged
  | mapping entries =>
      rw [tags]
      exact tagsOfEntries_eq_nil_of_hasTag entries untagged
  | _ => rfl

theorem tagsOfItems_eq_nil_of_hasTag (items : List Value) (untagged : itemsHaveTag items = false) :
    tagsOfItems items = [] := by
  cases items with
  | nil => rfl
  | cons item rest =>
      rw [itemsHaveTag, Bool.or_eq_false_iff] at untagged
      rw [tagsOfItems, tags_eq_nil_of_hasTag item untagged.1,
        tagsOfItems_eq_nil_of_hasTag rest untagged.2]
      rfl

theorem tagsOfEntries_eq_nil_of_hasTag (entries : List (Value × Value))
    (untagged : entriesHaveTag entries = false) : tagsOfEntries entries = [] := by
  match entries with
  | [] => rfl
  | (key, value) :: rest =>
      simp only [entriesHaveTag, Bool.or_eq_false_iff] at untagged
      rw [tagsOfEntries, tags_eq_nil_of_hasTag key untagged.1.1,
        tags_eq_nil_of_hasTag value untagged.1.2, tagsOfEntries_eq_nil_of_hasTag rest untagged.2]
      rfl

end

theorem hasPlainTags_of_hasTag {value : Value} (untagged : value.hasTag = false) :
    value.HasPlainTags := by
  rw [HasPlainTags, tags_eq_nil_of_hasTag value untagged]
  exact List.forall_mem_nil _

@[simp]
theorem hasPlainTags_null : HasPlainTags .null :=
  List.forall_mem_nil _

@[simp]
theorem hasPlainTags_string (text : String) : HasPlainTags (.string text) :=
  List.forall_mem_nil _

theorem hasPlainTags_sequence_iff {items : List Value} :
    (Value.sequence items).HasPlainTags ↔ ∀ item ∈ items, item.HasPlainTags := by
  rw [HasPlainTags, tags]
  induction items with
  | nil => simp [tagsOfItems]
  | cons item rest ih =>
      rw [tagsOfItems, List.forall_mem_append, ih, List.forall_mem_cons]
      rfl

theorem hasPlainTags_named_iff {α : Type} {write : α → Value} {named : List (String × α)} :
    (Value.mapping (Encode.named write named)).HasPlainTags ↔
      ∀ entry ∈ named, (write entry.2).HasPlainTags := by
  rw [HasPlainTags, tags]
  induction named with
  | nil => simp [Encode.named, tagsOfEntries]
  | cons entry rest ih =>
      have name : tags (.string entry.1) = [] := rfl
      rw [Encode.named, List.map_cons, tagsOfEntries, name, List.nil_append,
        List.forall_mem_append, List.forall_mem_cons, ← ih]
      rfl

/-! ## Reading any value -/

theorem toValue_eq_ok_iff {value content : Value} :
    value.toValue = .ok content ↔
      value.retag.hasDistinctKeys = true ∧ value.retag = content := by
  unfold toValue
  split <;> simp_all

theorem retag_ne_null {value : Value} (isValue : value ≠ .null) : value.retag ≠ .null := by
  cases value <;> simp_all [retag]

end RunAtlas.Yaml.Value
