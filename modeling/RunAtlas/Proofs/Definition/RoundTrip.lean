import RunAtlas.Definition.Read
import RunAtlas.Proofs.Definition.Plans
import RunAtlas.Proofs.Definition.Tags
import RunAtlas.Proofs.Model.Stages
import RunAtlas.Proofs.Yaml.Value

/-!
# Definitions are read as they are written

A definition that has been read from a text and is written as a value is read from this value as the
same definition, and so is written as the same value again, exactly if all tags that it holds have
plain names.  Nothing but the names of tags can be changed: texts, missing fields, extra entries and
the order of everything are kept.

What is read and written again is followed through the readers, from texts and kept values over
sequences and named values to the fields of plans.
-/

namespace RunAtlas

open Yaml

namespace Decode

/-- What has been read and is written is read as it was exactly if all tags in it have plain
names. -/
def Rereads {α : Type} (read : Value → Except Mismatch α) (write : α → Value) : Prop :=
  ∀ value content, read value = .ok content →
    (read (write content) = .ok content ↔ (write content).HasPlainTags)

/-! ## Scalars and kept values -/

theorem rereads_text : Rereads Value.toText Value.string := by
  intro value content _
  exact iff_of_true rfl (Value.hasPlainTags_string content)

theorem rereads_requiredScalarText : Rereads Value.toRequiredScalarText Value.string := by
  intro value content _
  exact iff_of_true rfl (Value.hasPlainTags_string content)

theorem rereads_scalarText : Rereads Value.toScalarText Encode.text := by
  intro value content _
  cases content with
  | none => exact iff_of_true rfl Value.hasPlainTags_null
  | some text => exact iff_of_true rfl (Value.hasPlainTags_string text)

theorem rereads_value : Rereads Value.toValue id := by
  intro value content reading
  rcases Value.toValue_eq_ok_iff.mp reading with ⟨distinct, rfl⟩
  rw [Value.toValue_eq_ok_iff, id, Value.retag_eq_self_iff, and_iff_right_iff_imp]
  intro plain
  rw [(Value.retag_eq_self_iff _).mpr plain]
  exact distinct

/-! ## Values that may be null -/

section Optional

variable {α : Type} {read : Value → Except Mismatch α} {write : α → Value}

theorem toOptional_of_ne_null {value : Value} (isValue : value ≠ .null) :
    value.toOptional read = (read value).map some := by
  cases value <;> first | rfl | contradiction

/-- Something is none exactly for null, so what is written of it may not be null. -/
theorem Rereads.optional (rereads : Rereads read write)
    (write_ne_null : ∀ value content, value ≠ .null → read value = .ok content →
      write content ≠ .null) :
    Rereads (Value.toOptional read) fun content => Encode.value (content.map write) := by
  intro value content reading
  by_cases isNull : value = .null
  · subst isNull
    cases reading
    exact iff_of_true rfl Value.hasPlainTags_null
  · rw [toOptional_of_ne_null isNull, Except.map_eq_ok_iff] at reading
    rcases reading with ⟨content, reading, rfl⟩
    change Value.toOptional read (write content) = .ok (some content) ↔ (write content).HasPlainTags
    rw [toOptional_of_ne_null (write_ne_null value content isNull reading),
      ← rereads value content reading, Except.map_eq_ok_iff]
    simp

end Optional

theorem rereads_optionalValue : Rereads (Value.toOptional Value.toValue) Encode.value := by
  have rereads := rereads_value.optional fun value content isValue reading => by
    rw [← (Value.toValue_eq_ok_iff.mp reading).2]
    exact Value.retag_ne_null isValue
  simpa only [Option.map_id_fun, id] using rereads

/-! ## Sequences -/

section Sequences

variable {α : Type} {read : Value → Except Mismatch α} {write : α → Value}

theorem readAll_map_eq_ok_iff {items : List α} :
    Value.readAll read (items.map write) = .ok items ↔
      ∀ item ∈ items, read (write item) = .ok item := by
  induction items with
  | nil => exact iff_of_true rfl (List.forall_mem_nil _)
  | cons item rest ih =>
      rw [List.map_cons, Value.readAll, List.forall_mem_cons, ← ih]
      simp only [Except.bind_eq_ok_iff, Except.pure_eq_ok_iff, List.cons.injEq]
      constructor
      · rintro ⟨_, readFirst, _, readRest, rfl, rfl⟩
        exact ⟨readFirst, readRest⟩
      · rintro ⟨readFirst, readRest⟩
        exact ⟨item, readFirst, rest, readRest, rfl, rfl⟩

/-- Every item of a sequence that has been read is a reading. -/
theorem exists_read_of_toList {value : Value} {items : List α}
    (reading : value.toList read = .ok items) {item : α} (member : item ∈ items) :
    ∃ source, read source = .ok item := by
  rw [Value.toList, Except.bind_eq_ok_iff] at reading
  rcases reading with ⟨sources, -, reading⟩
  have readings := forall₂_of_readAll reading
  rcases List.mem_iff_getElem.mp member with ⟨position, inside, rfl⟩
  exact ⟨_, readings.get (readings.length_eq ▸ inside) inside⟩

theorem Rereads.list (rereads : Rereads read write) :
    Rereads (Value.toList read) fun items => .sequence (items.map write) := by
  intro value items reading
  have written : Value.toList read (.sequence (items.map write)) =
      Value.readAll read (items.map write) := rfl
  rw [written, readAll_map_eq_ok_iff, Value.hasPlainTags_sequence_iff, List.forall_mem_map]
  apply forall₂_congr
  intro item member
  rcases exists_read_of_toList reading member with ⟨source, reading⟩
  exact rereads source item reading

end Sequences

/-! ## Named values -/

section Named

variable {α : Type} {read : Value → Except Mismatch α} {write : α → Value}

/-- Every named value that has been read is a reading. -/
theorem exists_read_of_namedValues {done result : List (String × α)} {pairs : List (Value × Value)}
    (reading : namedValues read done pairs = .ok result) {entry : String × α}
    (member : entry ∈ result) : entry ∈ done ∨ ∃ source, read source = .ok entry.2 := by
  induction pairs generalizing done with
  | nil =>
      cases reading
      exact .inl member
  | cons pair rest ih =>
      simp only [namedValues, Except.bind_eq_ok_iff] at reading
      rcases reading with ⟨name, -, content, readFirst, readRest⟩
      rcases ih readRest with earlier | later
      · rcases mem_assign earlier with rfl | earlier
        · exact .inr ⟨_, readFirst⟩
        · exact .inl earlier
      · exact .inr later

/-- Values with distinct names are read after others one by one. -/
theorem namedValues_named_eq_ok_iff {done named result : List (String × α)}
    (distinct : ((done ++ named).map Prod.fst).Nodup) :
    namedValues read done (Encode.named write named) = .ok result ↔
      ∃ added, result = done ++ added ∧
        List.Forall₂ (fun entry other => other.1 = entry.1 ∧ read (write entry.2) = .ok other.2)
          named added := by
  induction named generalizing done with
  | nil =>
      rw [Encode.named, List.map_nil, namedValues]
      simp [eq_comm]
  | cons entry rest ih =>
      obtain ⟨name, content⟩ := entry
      have fresh : name ∉ done.map Prod.fst := by
        rw [List.map_append, List.map_cons, List.nodup_middle, List.nodup_cons] at distinct
        exact fun member => distinct.1 (List.mem_append_left _ member)
      have distinctRest (other : α) : ((done ++ [(name, other)] ++ rest).map Prod.fst).Nodup := by
        simpa using distinct
      have first : namedValues read done (Encode.named write ((name, content) :: rest)) =
          read (write content) >>= fun other =>
            namedValues read (assign done name other) (Encode.named write rest) := rfl
      simp only [first, Except.bind_eq_ok_iff, assign_of_not_mem fresh, ih (distinctRest _)]
      constructor
      · rintro ⟨other, readFirst, added, rfl, readRest⟩
        exact ⟨(name, other) :: added, List.append_assoc .., .cons ⟨rfl, readFirst⟩ readRest⟩
      · rintro ⟨_, rfl, readings⟩
        rcases readings with _ | ⟨⟨rfl, readFirst⟩, readRest⟩
        exact ⟨_, readFirst, _, List.append_cons .., readRest⟩

theorem Rereads.named (rereads : Rereads read write) :
    Rereads (toNamedValues read) fun named => .mapping (Encode.named write named) := by
  intro value named reading
  have distinct : (([] ++ named).map Prod.fst).Nodup := nodup_names_of_toNamedValues reading
  have written : toNamedValues read (.mapping (Encode.named write named)) =
      namedValues read [] (Encode.named write named) := rfl
  have readAs : toNamedValues read (.mapping (Encode.named write named)) = .ok named ↔
      ∀ entry ∈ named, read (write entry.2) = .ok entry.2 := by
    simp [written, namedValues_named_eq_ok_iff distinct, List.forall₂_same]
  rw [readAs, Value.hasPlainTags_named_iff]
  rw [toNamedValues, Except.bind_eq_ok_iff] at reading
  rcases reading with ⟨pairs, -, reading⟩
  apply forall₂_congr
  intro entry member
  rcases (exists_read_of_namedValues reading member).resolve_left List.not_mem_nil with
    ⟨source, reading⟩
  exact rereads source entry.2 reading

end Named

/-! ## Plans -/

namespace Plan.IsLawful

variable {δ ρ : Type} {plan : Plan δ ρ}
variable (lawful : plan.IsLawful)
include lawful

omit lawful in
/-- The tags in what is written are those in what is written of the fields, as extra entries have
none. -/
theorem hasPlainTags_written_iff {record : ρ}
    (areExtra : AreExtra plan.names (plan.extraOf record)) :
    (Value.mapping (Encode.entries (plan.written record))).HasPlainTags ↔
      ∀ field ∈ plan.fields, (field.write (field.value record)).HasPlainTags := by
  have entries : Encode.entries (plan.written record) = Encode.named id (plan.written record) := rfl
  rw [entries, Value.hasPlainTags_named_iff, written, List.forall_mem_append, List.forall_mem_map]
  apply and_iff_left
  intro entry isExtra
  exact Value.hasPlainTags_of_hasTag (areExtra.untagged entry isExtra)

/-- A definition that has been read and is written is read as it was if this is so for each of its
fields. -/
theorem decode_written_iff_hasPlainTags
    (rereads : ∀ field ∈ plan.fields, Rereads field.read field.write)
    {pairs : List (Value × Value)} {record : ρ} (decoded : plan.decode pairs = .ok record) :
    plan.decode (Encode.entries (plan.written record)) = .ok record ↔
      (Value.mapping (Encode.entries (plan.written record))).HasPlainTags := by
  have areExtra := lawful.areExtra decoded
  rw [lawful.decode_written_iff areExtra, hasPlainTags_written_iff areExtra]
  apply forall₂_congr
  intro field isField
  rcases lawful.exists_read isField decoded with ⟨value, reading⟩
  exact rereads field isField value _ reading

theorem rereads {decode : Value → Except Mismatch ρ} {encode : ρ → Value} {expected : String}
    (decode_eq : ∀ value, decode value = value.toEntries expected >>= plan.decode)
    (encode_eq : ∀ record, encode record = .mapping (Encode.entries (plan.written record)))
    (rereads : ∀ field ∈ plan.fields, Rereads field.read field.write) :
    Rereads decode encode := by
  intro value record reading
  rw [decode_eq, Except.bind_eq_ok_iff] at reading
  rcases reading with ⟨pairs, -, decoded⟩
  rw [decode_eq, encode_eq]
  exact lawful.decode_written_iff_hasPlainTags rereads decoded

end Plan.IsLawful

end Decode

open Decode

theorem StepDefinition.rereads : Rereads StepDefinition.decode StepDefinition.encode := by
  apply plan_isLawful.rereads decode_eq encode_eq
  simp only [plan, List.forall_mem_cons]
  have inputs : Rereads (Value.toOptional (toNamedValues Value.toValue)) writeInputs :=
    rereads_value.named.optional nofun
  exact ⟨rereads_scalarText, rereads_scalarText, rereads_scalarText, rereads_scalarText, inputs,
    List.forall_mem_nil _⟩

theorem StrategyDefinition.rereads :
    Rereads StrategyDefinition.decode StrategyDefinition.encode := by
  apply plan_isLawful.rereads decode_eq encode_eq
  simp only [plan, List.forall_mem_cons]
  exact ⟨rereads_optionalValue, List.forall_mem_nil _⟩

theorem JobDefinition.rereads : Rereads JobDefinition.decode JobDefinition.encode := by
  apply plan_isLawful.rereads decode_eq encode_eq
  simp only [plan, List.forall_mem_cons]
  have steps : Rereads (Value.toOptional (Value.toList StepDefinition.decode)) writeSteps :=
    StepDefinition.rereads.list.optional nofun
  have strategy : Rereads (Value.toOptional StrategyDefinition.decode) writeStrategy :=
    StrategyDefinition.rereads.optional nofun
  exact ⟨rereads_scalarText, rereads_optionalValue, rereads_scalarText, rereads_optionalValue,
    steps, strategy, List.forall_mem_nil _⟩

theorem RunsDefinition.rereads : Rereads RunsDefinition.decode RunsDefinition.encode := by
  apply plan_isLawful.rereads decode_eq encode_eq
  simp only [plan, List.forall_mem_cons]
  exact ⟨rereads_text, StepDefinition.rereads.list, List.forall_mem_nil _⟩

/-- A workflow that has been read and is written is read as it was exactly if all tags in it have
plain names. -/
theorem WorkflowDefinition.decode_written_iff {root : List (Value × Value)}
    {workflow : WorkflowDefinition} (decoded : decode root = .ok workflow) :
    decode (Encode.entries (plan.written workflow)) = .ok workflow ↔
      workflow.encode.HasPlainTags := by
  rw [decode_eq] at decoded ⊢
  apply plan_isLawful.decode_written_iff_hasPlainTags _ decoded
  simp only [plan, List.forall_mem_cons]
  exact ⟨rereads_scalarText, rereads_optionalValue, JobDefinition.rereads.named,
    List.forall_mem_nil _⟩

/-- A composite action that has been read and is written is read as it was exactly if all tags in it
have plain names. -/
theorem CompositeDefinition.decode_written_iff {root : List (Value × Value)}
    {action : CompositeDefinition} (decoded : decode root = .ok action) :
    decode (Encode.entries (plan.written action)) = .ok action ↔ action.encode.HasPlainTags := by
  rw [decode_eq] at decoded ⊢
  apply plan_isLawful.decode_written_iff_hasPlainTags _ decoded
  simp only [plan, List.forall_mem_cons]
  exact ⟨rereads_requiredScalarText, rereads_scalarText, RunsDefinition.rereads,
    List.forall_mem_nil _⟩

/-- A workflow and a composite action in a text are written as mappings.  What is read from such a
mapping is what was written, and so is written as the same mapping again, exactly if all tags in it
have plain names. -/
theorem decode_encode_ofText (text : String) :
    (∀ workflow, WorkflowDefinition.ofText text = .ok workflow →
      ∃ root, workflow.encode = .mapping root ∧
        (WorkflowDefinition.decode root = .ok workflow ↔ workflow.encode.HasPlainTags) ∧
        (workflow.encode.HasPlainTags →
          (WorkflowDefinition.decode root).map WorkflowDefinition.encode = .ok workflow.encode)) ∧
    (∀ action, CompositeDefinition.ofText text = .ok action →
      ∃ root, action.encode = .mapping root ∧
        (CompositeDefinition.decode root = .ok action ↔ action.encode.HasPlainTags) ∧
        (action.encode.HasPlainTags →
          (CompositeDefinition.decode root).map CompositeDefinition.encode =
            .ok action.encode)) := by
  constructor
  · intro workflow accepted
    rcases WorkflowDefinition.ofText_eq_ok_iff.mp accepted with ⟨root, jobs, -, -, -, decoded⟩
    have rereads := WorkflowDefinition.decode_written_iff decoded
    refine ⟨_, WorkflowDefinition.encode_eq workflow, rereads, ?_⟩
    intro plain
    rw [rereads.mpr plain]
    rfl
  · intro action accepted
    rcases CompositeDefinition.ofText_eq_ok_iff.mp accepted with ⟨root, -, -, decoded, -⟩
    have rereads := CompositeDefinition.decode_written_iff decoded
    refine ⟨_, CompositeDefinition.encode_eq action, rereads, ?_⟩
    intro plain
    rw [rereads.mpr plain]
    rfl

/-- A workflow with a plain tag, in which texts are numbers and some fields are null. -/
def taggedWorkflowText : String :=
  "name: 7\non: !event push\nenv: [1, x]\njobs:\n  b:\n    name: ~\n    steps:\n" ++
    "      - uses: act\n        with: \x7bz: !t 1, a: 2\x7d\n  a:\n"

/-- A composite action with a tagged input. -/
def taggedActionText : String :=
  "runs:\n  using: composite\n  steps:\n    - with: \x7bx: !t [1]\x7d\n  id: 1\nname: 7\n"

theorem decode_encode_taggedTexts :
    (∃ workflow root, WorkflowDefinition.ofText taggedWorkflowText = .ok workflow ∧
      workflow.encode.tags = ["event", "t"] ∧ workflow.encode = .mapping root ∧
      WorkflowDefinition.decode root = .ok workflow) ∧
    (∃ action root, CompositeDefinition.ofText taggedActionText = .ok action ∧
      action.encode.tags = ["t"] ∧ action.encode = .mapping root ∧
      CompositeDefinition.decode root = .ok action) := by
  constructor
  · have reported : (WorkflowDefinition.ofText taggedWorkflowText).toOption.map (·.encode.tags) =
        some ["event", "t"] := by
      decide +kernel
    rcases Except.exists_of_map_toOption reported with ⟨workflow, accepted, tags⟩
    have plain : workflow.encode.HasPlainTags := by
      rw [Value.HasPlainTags, tags]
      decide
    rcases (decode_encode_ofText taggedWorkflowText).1 workflow accepted with
      ⟨root, written, rereads, -⟩
    exact ⟨workflow, root, accepted, tags, written, rereads.mpr plain⟩
  · have reported : (CompositeDefinition.ofText taggedActionText).toOption.map (·.encode.tags) =
        some ["t"] := by
      decide +kernel
    rcases Except.exists_of_map_toOption reported with ⟨action, accepted, tags⟩
    have plain : action.encode.HasPlainTags := by
      rw [Value.HasPlainTags, tags]
      decide
    rcases (decode_encode_ofText taggedActionText).2 action accepted with
      ⟨root, written, rereads, -⟩
    exact ⟨action, root, accepted, tags, written, rereads.mpr plain⟩

/-- A workflow with a tag whose name starts with a mark. -/
def markedWorkflowText : String :=
  "on: !<!!!!x> push\njobs:\n  a:\n"

/-- What is written of the workflow is read as another one, whose tag has lost its mark. -/
theorem decode_encode_markedWorkflow :
    ∃ workflow root again, WorkflowDefinition.ofText markedWorkflowText = .ok workflow ∧
      workflow.encode = .mapping root ∧ WorkflowDefinition.decode root = .ok again ∧
      workflow.triggers = some (.tagged "!x" (.string "push")) ∧
      again.triggers = some (.tagged "x" (.string "push")) := by
  have reported : (WorkflowDefinition.ofText markedWorkflowText).toOption.map (fun workflow =>
      (workflow.triggers, (WorkflowDefinition.decode
        (Encode.entries (WorkflowDefinition.plan.written workflow))).toOption.map (·.triggers))) =
      some (some (.tagged "!x" (.string "push")), some (some (.tagged "x" (.string "push")))) := by
    decide +kernel
  rcases Except.exists_of_map_toOption reported with ⟨workflow, accepted, reported⟩
  rw [Prod.mk.injEq] at reported
  rcases reported with ⟨triggers, rereported⟩
  rcases Except.exists_of_map_toOption rereported with ⟨again, decoded, triggersAgain⟩
  exact ⟨workflow, _, again, accepted, WorkflowDefinition.encode_eq workflow, decoded, triggers,
    triggersAgain⟩

end RunAtlas
