import Mathlib.Tactic.SplitIfs
import RunAtlas.Proofs.Definition.Records

/-!
# The plans of the definitions

Each of the six kinds of definitions has a plan: the function that takes in an entry of it is
`Plan.take` of this plan, it is read by `Plan.decode`, and it is written as `Plan.written`.  From
what is known of plans follows, for each kind, when a definition is read from entries with distinct
names (`decode_eq_ok_iff`), and from which values the steps of a job and the jobs of a workflow are
read.
-/

namespace RunAtlas

open Yaml

namespace Decode

/-! ## Fields with and without a value -/

section Fields

variable {δ ρ α : Type}

/-- A field that is none without a value. -/
def Field.optional (name : String) (read : Value → Except Mismatch (Option α))
    (write : Option α → Value) (get : δ → Option (Option α)) (set : δ → Option (Option α) → δ)
    (value : ρ → Option α) : Field δ ρ :=
  ⟨name, Option α, read, write, some none, get, set, value⟩

/-- A field that has to have a value. -/
def Field.required (name : String) (read : Value → Except Mismatch α) (write : α → Value)
    (get : δ → Option α) (set : δ → Option α → δ) (value : ρ → α) : Field δ ρ :=
  ⟨name, α, read, write, none, get, set, value⟩

/-- The reading of the value under a name, which is none if the value is missing or null. -/
def optionalField (valueOf : String → Option Value) (name : String)
    (read : Value → Except Mismatch (Option α)) : Except Mismatch (Option α) :=
  match valueOf name with
  | none => .ok none
  | some .null => .ok none
  | some value => read value

/-- The reading of the value under a name, which may not be missing. -/
def requiredField (valueOf : String → Option Value) (name : String)
    (read : Value → Except Mismatch α) : Except Mismatch α :=
  match valueOf name with
  | some value => read value
  | none => .error (.missingField name)

theorem Field.reading_optional {name : String} {read : Value → Except Mismatch (Option α)}
    {write : Option α → Value} {get : δ → Option (Option α)} {set : δ → Option (Option α) → δ}
    {value : ρ → Option α} {valueOf : String → Option Value} (read_null : read .null = .ok none) :
    (Field.optional name read write get set value).reading valueOf =
      optionalField valueOf name read := by
  unfold reading optionalField
  cases found : valueOf name with
  | none => simp [optional, found]
  | some value => cases value <;> simp [optional, found, read_null]

theorem Field.reading_required {name : String} {read : Value → Except Mismatch α}
    {write : α → Value} {get : δ → Option α} {set : δ → Option α → δ} {value : ρ → α}
    {valueOf : String → Option Value} :
    (Field.required name read write get set value).reading valueOf =
      requiredField valueOf name read := by
  unfold reading requiredField
  cases found : valueOf name <;> simp [required, found]

theorem optionalField_eq_ok_iff {valueOf : String → Option Value} {name : String}
    {read : Value → Except Mismatch (Option α)} {content : Option α}
    (read_null : read .null = .ok none) :
    optionalField valueOf name read = .ok content ↔
      (valueOf name = none ∧ content = none) ∨
        ∃ value, valueOf name = some value ∧ read value = .ok content := by
  unfold optionalField
  cases valueOf name with
  | none => simp [eq_comm]
  | some value => cases value <;> simp [read_null]

theorem requiredField_eq_ok_iff {valueOf : String → Option Value} {name : String}
    {read : Value → Except Mismatch α} {content : α} :
    requiredField valueOf name read = .ok content ↔
      ∃ value, valueOf name = some value ∧ read value = .ok content := by
  unfold requiredField
  cases valueOf name <;> simp

end Fields

@[simp]
theorem toOptional_null {α : Type} (read : Value → Except Mismatch α) :
    Value.toOptional read .null = .ok none :=
  rfl

@[simp]
theorem toScalarText_null : Value.toScalarText .null = .ok none :=
  rfl

end Decode

open Decode

/-! ## Steps -/

namespace StepDefinition

/-- The names of the fields of a step. -/
def fieldNames : List String :=
  ["id", "name", "uses", "run", "with"]

/-- Inputs as they are written. -/
def writeInputs (inputs : Option Extra) : Value :=
  Encode.value (inputs.map fun inputs => .mapping (Encode.entries inputs))

/-- The plan of a step. -/
def plan : Plan Draft StepDefinition where
  fields :=
    [.optional "id" Value.toScalarText Encode.text Draft.id
        (fun draft slot => { draft with id := slot }) (·.id),
      .optional "name" Value.toScalarText Encode.text Draft.name
        (fun draft slot => { draft with name := slot }) (·.name),
      .optional "uses" Value.toScalarText Encode.text Draft.uses
        (fun draft slot => { draft with uses := slot }) (·.uses),
      .optional "run" Value.toScalarText Encode.text Draft.run
        (fun draft slot => { draft with run := slot }) (·.run),
      .optional "with" (Value.toOptional (toNamedValues Value.toValue)) writeInputs Draft.inputs
        (fun draft slot => { draft with inputs := slot }) (·.inputs)]
  extra := Draft.extra
  setExtra draft extra := { draft with extra := extra }
  extraOf := (·.extra)
  initial := ⟨none, none, none, none, none, []⟩
  finish draft := pure
    { id := draft.id.getD none
      name := draft.name.getD none
      uses := draft.uses.getD none
      run := draft.run.getD none
      inputs := draft.inputs.getD none
      extra := draft.extra }

theorem plan_isLawful : plan.IsLawful where
  nodup_names := by simp [Plan.names, plan, Field.optional]
  get_set := by simp [plan, Field.optional]
  get_set_of_ne := by simp [plan, Field.optional]
  get_setExtra := by simp [plan, Field.optional]
  get_initial := by simp [plan, Field.optional]
  extra_set := by simp [plan, Field.optional]
  extra_setExtra := by simp [plan]
  extra_initial := rfl
  finish_eq_ok_iff := by
    rintro ⟨⟩ ⟨⟩
    simp [plan, Field.optional, Except.pure_eq_ok_iff, and_assoc, -Option.or_eq_some_iff]
  read_null := by simp [plan, Field.optional]

theorem take_eq : take = plan.take := by
  funext draft name value
  simp only [take, Plan.take, plan, Field.optional, List.find?_cons, List.find?_nil]
  split_ifs <;> simp_all

theorem decode_eq (value : Value) :
    decode value = value.toEntries "struct StepValue" >>= plan.decode := by
  rw [decode, take_eq]
  rfl

theorem encode_eq (step : StepDefinition) :
    step.encode = .mapping (Encode.entries (plan.written step)) :=
  rfl

/-- Every field of a step is the reading of the value under its name. -/
structure HasFields (valueOf : String → Option Value) (step : StepDefinition) : Prop where
  id_eq : optionalField valueOf "id" Value.toScalarText = .ok step.id
  name_eq : optionalField valueOf "name" Value.toScalarText = .ok step.name
  uses_eq : optionalField valueOf "uses" Value.toScalarText = .ok step.uses
  run_eq : optionalField valueOf "run" Value.toScalarText = .ok step.run
  inputs_eq : optionalField valueOf "with" (Value.toOptional (toNamedValues Value.toValue)) =
    .ok step.inputs

theorem hasFields_iff {valueOf : String → Option Value} {step : StepDefinition} :
    step.HasFields valueOf ↔
      ∀ field ∈ plan.fields, field.reading valueOf = .ok (field.value step) := by
  simp only [plan, List.forall_mem_cons, Field.reading_optional toScalarText_null,
    Field.reading_optional (toOptional_null _)]
  constructor
  · rintro ⟨id, name, uses, run, inputs⟩
    exact ⟨id, name, uses, run, inputs, List.forall_mem_nil _⟩
  · rintro ⟨id, name, uses, run, inputs, -⟩
    exact ⟨id, name, uses, run, inputs⟩

/-- A step is read from entries with distinct names exactly if its fields are the
readings of the values under their names and its extra entries are the others. -/
theorem decode_eq_ok_iff {pairs : Extra} {step : StepDefinition}
    (distinct : (pairs.map Prod.fst).Nodup) :
    decode (.mapping (Encode.entries pairs)) = .ok step ↔
      step.HasFields (valueUnder pairs) ∧ KeepsOthers fieldNames pairs step.extra := by
  rw [decode_eq, hasFields_iff]
  exact plan_isLawful.decode_eq_ok_iff distinct

end StepDefinition

/-! ## Strategies -/

namespace StrategyDefinition

/-- The names of the fields of a strategy. -/
def fieldNames : List String :=
  ["matrix"]

/-- The plan of a strategy. -/
def plan : Plan Draft StrategyDefinition where
  fields :=
    [.optional "matrix" (Value.toOptional Value.toValue) Encode.value Draft.matrix
        (fun draft slot => { draft with matrix := slot }) (·.matrix)]
  extra := Draft.extra
  setExtra draft extra := { draft with extra := extra }
  extraOf := (·.extra)
  initial := ⟨none, []⟩
  finish draft := pure
    { matrix := draft.matrix.getD none
      extra := draft.extra }

theorem plan_isLawful : plan.IsLawful where
  nodup_names := by simp [Plan.names, plan, Field.optional]
  get_set := by simp [plan, Field.optional]
  get_set_of_ne := by simp [plan, Field.optional]
  get_setExtra := by simp [plan, Field.optional]
  get_initial := by simp [plan, Field.optional]
  extra_set := by simp [plan, Field.optional]
  extra_setExtra := by simp [plan]
  extra_initial := rfl
  finish_eq_ok_iff := by
    rintro ⟨⟩ ⟨⟩
    simp [plan, Field.optional, Except.pure_eq_ok_iff, -Option.or_eq_some_iff]
  read_null := by simp [plan, Field.optional]

theorem take_eq : take = plan.take := by
  funext draft name value
  simp only [take, Plan.take, plan, Field.optional, List.find?_cons, List.find?_nil]
  split_ifs <;> simp_all

theorem decode_eq (value : Value) :
    decode value = value.toEntries "struct StrategyValue" >>= plan.decode := by
  rw [decode, take_eq]
  rfl

theorem encode_eq (strategy : StrategyDefinition) :
    strategy.encode = .mapping (Encode.entries (plan.written strategy)) :=
  rfl

/-- Every field of a strategy is the reading of the value under its name. -/
structure HasFields (valueOf : String → Option Value) (strategy : StrategyDefinition) : Prop where
  matrix_eq : optionalField valueOf "matrix" (Value.toOptional Value.toValue) = .ok strategy.matrix

theorem hasFields_iff {valueOf : String → Option Value} {strategy : StrategyDefinition} :
    strategy.HasFields valueOf ↔
      ∀ field ∈ plan.fields, field.reading valueOf = .ok (field.value strategy) := by
  simp only [plan, List.forall_mem_cons, Field.reading_optional (toOptional_null _)]
  constructor
  · rintro ⟨matrix⟩
    exact ⟨matrix, List.forall_mem_nil _⟩
  · rintro ⟨matrix, -⟩
    exact ⟨matrix⟩

/-- A strategy is read from entries with distinct names exactly if its fields are the
readings of the values under their names and its extra entries are the others. -/
theorem decode_eq_ok_iff {pairs : Extra} {strategy : StrategyDefinition}
    (distinct : (pairs.map Prod.fst).Nodup) :
    decode (.mapping (Encode.entries pairs)) = .ok strategy ↔
      strategy.HasFields (valueUnder pairs) ∧ KeepsOthers fieldNames pairs strategy.extra := by
  rw [decode_eq, hasFields_iff]
  exact plan_isLawful.decode_eq_ok_iff distinct

end StrategyDefinition

/-! ## Jobs -/

namespace JobDefinition

/-- The names of the fields of a job. -/
def fieldNames : List String :=
  ["name", "runs-on", "uses", "needs", "steps", "strategy"]

/-- Steps as they are written, if there are any. -/
def writeSteps (steps : Option (List StepDefinition)) : Value :=
  Encode.value (steps.map fun steps => .sequence (steps.map StepDefinition.encode))

/-- A strategy as it is written, if there is one. -/
def writeStrategy (strategy : Option StrategyDefinition) : Value :=
  Encode.value (strategy.map StrategyDefinition.encode)

/-- The plan of a job. -/
def plan : Plan Draft JobDefinition where
  fields :=
    [.optional "name" Value.toScalarText Encode.text Draft.name
        (fun draft slot => { draft with name := slot }) (·.name),
      .optional "runs-on" (Value.toOptional Value.toValue) Encode.value Draft.runsOn
        (fun draft slot => { draft with runsOn := slot }) (·.runsOn),
      .optional "uses" Value.toScalarText Encode.text Draft.uses
        (fun draft slot => { draft with uses := slot }) (·.uses),
      .optional "needs" (Value.toOptional Value.toValue) Encode.value Draft.needs
        (fun draft slot => { draft with needs := slot }) (·.needs),
      .optional "steps" (Value.toOptional (Value.toList StepDefinition.decode)) writeSteps
        Draft.steps (fun draft slot => { draft with steps := slot }) (·.steps),
      .optional "strategy" (Value.toOptional StrategyDefinition.decode) writeStrategy Draft.strategy
        (fun draft slot => { draft with strategy := slot }) (·.strategy)]
  extra := Draft.extra
  setExtra draft extra := { draft with extra := extra }
  extraOf := (·.extra)
  initial := ⟨none, none, none, none, none, none, []⟩
  finish draft := pure
    { name := draft.name.getD none
      runsOn := draft.runsOn.getD none
      uses := draft.uses.getD none
      needs := draft.needs.getD none
      steps := draft.steps.getD none
      strategy := draft.strategy.getD none
      extra := draft.extra }

theorem plan_isLawful : plan.IsLawful where
  nodup_names := by simp [Plan.names, plan, Field.optional]
  get_set := by simp [plan, Field.optional]
  get_set_of_ne := by simp [plan, Field.optional]
  get_setExtra := by simp [plan, Field.optional]
  get_initial := by simp [plan, Field.optional]
  extra_set := by simp [plan, Field.optional]
  extra_setExtra := by simp [plan]
  extra_initial := rfl
  finish_eq_ok_iff := by
    rintro ⟨⟩ ⟨⟩
    simp [plan, Field.optional, Except.pure_eq_ok_iff, and_assoc, -Option.or_eq_some_iff]
  read_null := by simp [plan, Field.optional]

theorem take_eq : take = plan.take := by
  funext draft name value
  simp only [take, Plan.take, plan, Field.optional, List.find?_cons, List.find?_nil]
  split_ifs <;> simp_all

theorem decode_eq (value : Value) :
    decode value = value.toEntries "struct JobValue" >>= plan.decode := by
  rw [decode, take_eq]
  rfl

theorem encode_eq (job : JobDefinition) :
    job.encode = .mapping (Encode.entries (plan.written job)) :=
  rfl

/-- Every field of a job is the reading of the value under its name. -/
structure HasFields (valueOf : String → Option Value) (job : JobDefinition) : Prop where
  name_eq : optionalField valueOf "name" Value.toScalarText = .ok job.name
  runsOn_eq : optionalField valueOf "runs-on" (Value.toOptional Value.toValue) = .ok job.runsOn
  uses_eq : optionalField valueOf "uses" Value.toScalarText = .ok job.uses
  needs_eq : optionalField valueOf "needs" (Value.toOptional Value.toValue) = .ok job.needs
  steps_eq : optionalField valueOf "steps" (Value.toOptional (Value.toList StepDefinition.decode)) =
    .ok job.steps
  strategy_eq : optionalField valueOf "strategy" (Value.toOptional StrategyDefinition.decode) =
    .ok job.strategy

theorem hasFields_iff {valueOf : String → Option Value} {job : JobDefinition} :
    job.HasFields valueOf ↔
      ∀ field ∈ plan.fields, field.reading valueOf = .ok (field.value job) := by
  simp only [plan, List.forall_mem_cons, Field.reading_optional toScalarText_null,
    Field.reading_optional (toOptional_null _)]
  constructor
  · rintro ⟨name, runsOn, uses, needs, steps, strategy⟩
    exact ⟨name, runsOn, uses, needs, steps, strategy, List.forall_mem_nil _⟩
  · rintro ⟨name, runsOn, uses, needs, steps, strategy, -⟩
    exact ⟨name, runsOn, uses, needs, steps, strategy⟩

/-- A job is read from entries with distinct names exactly if its fields are the
readings of the values under their names and its extra entries are the others. -/
theorem decode_eq_ok_iff {pairs : Extra} {job : JobDefinition}
    (distinct : (pairs.map Prod.fst).Nodup) :
    decode (.mapping (Encode.entries pairs)) = .ok job ↔
      job.HasFields (valueUnder pairs) ∧ KeepsOthers fieldNames pairs job.extra := by
  rw [decode_eq, hasFields_iff]
  exact plan_isLawful.decode_eq_ok_iff distinct

/-- The steps of a job are read from the value under their name; there are none without one. -/
theorem steps_of_decode {pairs : List (Value × Value)} {job : JobDefinition}
    (untagged : ∀ pair ∈ pairs, pair.1.untag = pair.1)
    (decoded : decode (.mapping pairs) = .ok job) :
    PlainKeys pairs ∧
      ((Value.valueOf? pairs "steps" = none ∧ job.steps = none) ∨
        ∃ steps, Value.valueOf? pairs "steps" = some steps ∧
          steps.toOptional (Value.toList StepDefinition.decode) = .ok job.steps) := by
  rw [decode_eq] at decoded
  have plain := Plan.plainKeys_of_decode untagged decoded
  have fields := hasFields_iff.mpr (plan_isLawful.reading_of_plainKeys plain decoded)
  exact ⟨plain, (optionalField_eq_ok_iff (toOptional_null _)).mp fields.steps_eq⟩

end JobDefinition

/-! ## Workflows -/

namespace WorkflowDefinition

/-- The names of the fields of a workflow. -/
def fieldNames : List String :=
  ["name", "on", "jobs"]

/-- Jobs as they are written. -/
def writeJobs (jobs : List (String × JobDefinition)) : Value :=
  .mapping (Encode.named JobDefinition.encode jobs)

/-- The plan of a workflow. -/
def plan : Plan Draft WorkflowDefinition where
  fields :=
    [.optional "name" Value.toScalarText Encode.text Draft.name
        (fun draft slot => { draft with name := slot }) (·.name),
      .optional "on" (Value.toOptional Value.toValue) Encode.value Draft.triggers
        (fun draft slot => { draft with triggers := slot }) (·.triggers),
      .required "jobs" (toNamedValues JobDefinition.decode) writeJobs Draft.jobs
        (fun draft slot => { draft with jobs := slot }) (·.jobs)]
  extra := Draft.extra
  setExtra draft extra := { draft with extra := extra }
  extraOf := (·.extra)
  initial := ⟨none, none, none, []⟩
  finish draft := do
    let jobs ← require "jobs" draft.jobs
    pure
      { name := draft.name.getD none
        triggers := draft.triggers.getD none
        jobs := jobs
        extra := draft.extra }

theorem plan_isLawful : plan.IsLawful where
  nodup_names := by simp [Plan.names, plan, Field.optional, Field.required]
  get_set := by simp [plan, Field.optional, Field.required]
  get_set_of_ne := by simp [plan, Field.optional, Field.required]
  get_setExtra := by simp [plan, Field.optional, Field.required]
  get_initial := by simp [plan, Field.optional, Field.required]
  extra_set := by simp [plan, Field.optional, Field.required]
  extra_setExtra := by simp [plan]
  extra_initial := rfl
  finish_eq_ok_iff := by
    rintro ⟨⟩ ⟨⟩
    simp [plan, Field.optional, Field.required, Except.bind_eq_ok_iff, Except.pure_eq_ok_iff,
      require_eq_ok_iff, and_assoc, and_comm, and_left_comm, -bind_pure_comp,
      -Option.or_eq_some_iff]
  read_null := by simp [plan, Field.optional, Field.required]

theorem take_eq : take = plan.take := by
  funext draft name value
  simp only [take, Plan.take, plan, Field.optional, Field.required, List.find?_cons, List.find?_nil]
  split_ifs <;> simp_all

theorem decode_eq (root : List (Value × Value)) : decode root = plan.decode root := by
  rw [decode, take_eq]
  rfl

theorem encode_eq (workflow : WorkflowDefinition) :
    workflow.encode = .mapping (Encode.entries (plan.written workflow)) :=
  rfl

/-- Every field of a workflow is the reading of the value under its name. -/
structure HasFields (valueOf : String → Option Value) (workflow : WorkflowDefinition) : Prop where
  name_eq : optionalField valueOf "name" Value.toScalarText = .ok workflow.name
  triggers_eq : optionalField valueOf "on" (Value.toOptional Value.toValue) = .ok workflow.triggers
  jobs_eq : requiredField valueOf "jobs" (toNamedValues JobDefinition.decode) = .ok workflow.jobs

theorem hasFields_iff {valueOf : String → Option Value} {workflow : WorkflowDefinition} :
    workflow.HasFields valueOf ↔
      ∀ field ∈ plan.fields, field.reading valueOf = .ok (field.value workflow) := by
  simp only [plan, List.forall_mem_cons, Field.reading_optional toScalarText_null,
    Field.reading_optional (toOptional_null _), Field.reading_required]
  constructor
  · rintro ⟨name, triggers, jobs⟩
    exact ⟨name, triggers, jobs, List.forall_mem_nil _⟩
  · rintro ⟨name, triggers, jobs, -⟩
    exact ⟨name, triggers, jobs⟩

/-- A workflow is read from entries with distinct names exactly if its fields are the
readings of the values under their names and its extra entries are the others. -/
theorem decode_eq_ok_iff {pairs : Extra} {workflow : WorkflowDefinition}
    (distinct : (pairs.map Prod.fst).Nodup) :
    decode (Encode.entries pairs) = .ok workflow ↔
      workflow.HasFields (valueUnder pairs) ∧ KeepsOthers fieldNames pairs workflow.extra := by
  rw [decode_eq, hasFields_iff]
  exact plan_isLawful.decode_eq_ok_iff distinct

/-- The jobs of a workflow are read from the value under their name. -/
theorem jobs_of_decode {root : List (Value × Value)} {workflow : WorkflowDefinition}
    (untagged : ∀ pair ∈ root, pair.1.untag = pair.1) (decoded : decode root = .ok workflow) :
    PlainKeys root ∧ ∃ jobs, Value.valueOf? root "jobs" = some jobs ∧
      toNamedValues JobDefinition.decode jobs = .ok workflow.jobs := by
  rw [decode_eq] at decoded
  have plain := Plan.plainKeys_of_decode untagged decoded
  have fields := hasFields_iff.mpr (plan_isLawful.reading_of_plainKeys plain decoded)
  exact ⟨plain, requiredField_eq_ok_iff.mp fields.jobs_eq⟩

/-- The jobs of a workflow are read from the value under their plain name, even among tagged
keys. -/
theorem jobs_of_decode_of_valueOf? {root : List (Value × Value)} {workflow : WorkflowDefinition}
    {jobs : Value} (found : Value.valueOf? root "jobs" = some jobs)
    (decoded : decode root = .ok workflow) :
    toNamedValues JobDefinition.decode jobs = .ok workflow.jobs := by
  rw [decode_eq] at decoded
  have readings := plan_isLawful.read_of_valueOf? decoded
  simp only [plan, List.forall_mem_cons] at readings
  obtain ⟨-, -, readJobs, -⟩ := readings
  exact readJobs jobs found

end WorkflowDefinition

/-! ## Ways to run -/

namespace RunsDefinition

/-- The names of the fields of a way to run. -/
def fieldNames : List String :=
  ["using", "steps"]

/-- Steps as they are written. -/
def writeSteps (steps : List StepDefinition) : Value :=
  .sequence (steps.map StepDefinition.encode)

/-- The plan of a way to run. -/
def plan : Plan Draft RunsDefinition where
  fields :=
    [.required "using" Value.toText Value.string Draft.engine
        (fun draft slot => { draft with engine := slot }) (·.engine),
      .required "steps" (Value.toList StepDefinition.decode) writeSteps Draft.steps
        (fun draft slot => { draft with steps := slot }) (·.steps)]
  extra := Draft.extra
  setExtra draft extra := { draft with extra := extra }
  extraOf := (·.extra)
  initial := ⟨none, none, []⟩
  finish draft := do
    let engine ← require "using" draft.engine
    let steps ← require "steps" draft.steps
    pure
      { engine := engine
        steps := steps
        extra := draft.extra }

theorem plan_isLawful : plan.IsLawful where
  nodup_names := by simp [Plan.names, plan, Field.required]
  get_set := by simp [plan, Field.required]
  get_set_of_ne := by simp [plan, Field.required]
  get_setExtra := by simp [plan, Field.required]
  get_initial := by simp [plan, Field.required]
  extra_set := by simp [plan, Field.required]
  extra_setExtra := by simp [plan]
  extra_initial := rfl
  finish_eq_ok_iff := by
    rintro ⟨⟩ ⟨⟩
    simp [plan, Field.required, Except.bind_eq_ok_iff, Except.pure_eq_ok_iff,
      require_eq_ok_iff, and_assoc, and_comm, and_left_comm, -bind_pure_comp,
      -Option.or_eq_some_iff]
  read_null := by simp [plan, Field.required]

theorem take_eq : take = plan.take := by
  funext draft name value
  simp only [take, Plan.take, plan, Field.required, List.find?_cons, List.find?_nil]
  split_ifs <;> simp_all

theorem decode_eq (value : Value) :
    decode value = value.toEntries "struct CompositeRuns" >>= plan.decode := by
  rw [decode, take_eq]
  rfl

theorem encode_eq (runs : RunsDefinition) :
    runs.encode = .mapping (Encode.entries (plan.written runs)) :=
  rfl

/-- Every field of a way to run is the reading of the value under its name. -/
structure HasFields (valueOf : String → Option Value) (runs : RunsDefinition) : Prop where
  engine_eq : requiredField valueOf "using" Value.toText = .ok runs.engine
  steps_eq : requiredField valueOf "steps" (Value.toList StepDefinition.decode) = .ok runs.steps

theorem hasFields_iff {valueOf : String → Option Value} {runs : RunsDefinition} :
    runs.HasFields valueOf ↔
      ∀ field ∈ plan.fields, field.reading valueOf = .ok (field.value runs) := by
  simp only [plan, List.forall_mem_cons, Field.reading_required]
  constructor
  · rintro ⟨engine, steps⟩
    exact ⟨engine, steps, List.forall_mem_nil _⟩
  · rintro ⟨engine, steps, -⟩
    exact ⟨engine, steps⟩

/-- A way to run is read from entries with distinct names exactly if its fields are the
readings of the values under their names and its extra entries are the others. -/
theorem decode_eq_ok_iff {pairs : Extra} {runs : RunsDefinition}
    (distinct : (pairs.map Prod.fst).Nodup) :
    decode (.mapping (Encode.entries pairs)) = .ok runs ↔
      runs.HasFields (valueUnder pairs) ∧ KeepsOthers fieldNames pairs runs.extra := by
  rw [decode_eq, hasFields_iff]
  exact plan_isLawful.decode_eq_ok_iff distinct

end RunsDefinition

/-! ## Composite actions -/

namespace CompositeDefinition

/-- The names of the fields of a composite action. -/
def fieldNames : List String :=
  ["name", "description", "runs"]

/-- The plan of a composite action. -/
def plan : Plan Draft CompositeDefinition where
  fields :=
    [.required "name" Value.toRequiredScalarText Value.string Draft.name
        (fun draft slot => { draft with name := slot }) (·.name),
      .optional "description" Value.toScalarText Encode.text Draft.description
        (fun draft slot => { draft with description := slot }) (·.description),
      .required "runs" RunsDefinition.decode RunsDefinition.encode Draft.runs
        (fun draft slot => { draft with runs := slot }) (·.runs)]
  extra := Draft.extra
  setExtra draft extra := { draft with extra := extra }
  extraOf := (·.extra)
  initial := ⟨none, none, none, []⟩
  finish draft := do
    let name ← require "name" draft.name
    let runs ← require "runs" draft.runs
    pure
      { name := name
        description := draft.description.getD none
        runs := runs
        extra := draft.extra }

theorem plan_isLawful : plan.IsLawful where
  nodup_names := by simp [Plan.names, plan, Field.optional, Field.required]
  get_set := by simp [plan, Field.optional, Field.required]
  get_set_of_ne := by simp [plan, Field.optional, Field.required]
  get_setExtra := by simp [plan, Field.optional, Field.required]
  get_initial := by simp [plan, Field.optional, Field.required]
  extra_set := by simp [plan, Field.optional, Field.required]
  extra_setExtra := by simp [plan]
  extra_initial := rfl
  finish_eq_ok_iff := by
    rintro ⟨⟩ ⟨⟩
    simp [plan, Field.optional, Field.required, Except.bind_eq_ok_iff, Except.pure_eq_ok_iff,
      require_eq_ok_iff, and_assoc, and_comm, and_left_comm, -bind_pure_comp,
      -Option.or_eq_some_iff]
  read_null := by simp [plan, Field.optional, Field.required]

theorem take_eq : take = plan.take := by
  funext draft name value
  simp only [take, Plan.take, plan, Field.optional, Field.required, List.find?_cons, List.find?_nil]
  split_ifs <;> simp_all

theorem decode_eq (root : List (Value × Value)) : decode root = plan.decode root := by
  rw [decode, take_eq]
  rfl

theorem encode_eq (action : CompositeDefinition) :
    action.encode = .mapping (Encode.entries (plan.written action)) :=
  rfl

/-- Every field of a composite action is the reading of the value under its name. -/
structure HasFields (valueOf : String → Option Value) (action : CompositeDefinition) : Prop where
  name_eq : requiredField valueOf "name" Value.toRequiredScalarText = .ok action.name
  description_eq : optionalField valueOf "description" Value.toScalarText = .ok action.description
  runs_eq : requiredField valueOf "runs" RunsDefinition.decode = .ok action.runs

theorem hasFields_iff {valueOf : String → Option Value} {action : CompositeDefinition} :
    action.HasFields valueOf ↔
      ∀ field ∈ plan.fields, field.reading valueOf = .ok (field.value action) := by
  simp only [plan, List.forall_mem_cons, Field.reading_optional toScalarText_null,
    Field.reading_required]
  constructor
  · rintro ⟨name, description, runs⟩
    exact ⟨name, description, runs, List.forall_mem_nil _⟩
  · rintro ⟨name, description, runs, -⟩
    exact ⟨name, description, runs⟩

/-- A composite action is read from entries with distinct names exactly if its fields are the
readings of the values under their names and its extra entries are the others. -/
theorem decode_eq_ok_iff {pairs : Extra} {action : CompositeDefinition}
    (distinct : (pairs.map Prod.fst).Nodup) :
    decode (Encode.entries pairs) = .ok action ↔
      action.HasFields (valueUnder pairs) ∧ KeepsOthers fieldNames pairs action.extra := by
  rw [decode_eq, hasFields_iff]
  exact plan_isLawful.decode_eq_ok_iff distinct

end CompositeDefinition

end RunAtlas
