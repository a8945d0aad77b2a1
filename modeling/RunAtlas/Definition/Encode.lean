import RunAtlas.Definition.Basic

/-!
# Writing definitions as values

A definition is written as a mapping with every field in the order of its declaration, null for
those that are missing, and the extra entries after them.
-/

namespace RunAtlas

open Yaml

namespace Encode

/-- An optional text. -/
def text : Option String → Value
  | some text => .string text
  | none => .null

/-- An optional value. -/
def value : Option Value → Value
  | some value => value
  | none => .null

/-- Named values of one kind. -/
def named {α : Type} (encode : α → Value) (entries : List (String × α)) :
    List (Value × Value) :=
  entries.map fun entry => (.string entry.1, encode entry.2)

/-- Named values. -/
def entries (values : Extra) : List (Value × Value) :=
  values.map fun entry => (.string entry.1, entry.2)

/-- A mapping from fields and extra entries. -/
def record (fields : List (String × Value)) (extra : Extra) : Value :=
  .mapping (entries (fields ++ extra))

end Encode

namespace StepDefinition

/-- Write a step. -/
def encode (step : StepDefinition) : Value :=
  Encode.record
    [("id", Encode.text step.id), ("name", Encode.text step.name),
      ("uses", Encode.text step.uses), ("run", Encode.text step.run),
      ("with", Encode.value (step.inputs.map fun inputs => .mapping (Encode.entries inputs)))]
    step.extra

end StepDefinition

namespace StrategyDefinition

/-- Write a strategy. -/
def encode (strategy : StrategyDefinition) : Value :=
  Encode.record [("matrix", Encode.value strategy.matrix)] strategy.extra

end StrategyDefinition

namespace JobDefinition

/-- Write a job. -/
def encode (job : JobDefinition) : Value :=
  Encode.record
    [("name", Encode.text job.name), ("runs-on", Encode.value job.runsOn),
      ("uses", Encode.text job.uses), ("needs", Encode.value job.needs),
      ("steps",
        Encode.value (job.steps.map fun steps => .sequence (steps.map StepDefinition.encode))),
      ("strategy", Encode.value (job.strategy.map StrategyDefinition.encode))]
    job.extra

end JobDefinition

namespace WorkflowDefinition

/-- Write a workflow. -/
def encode (workflow : WorkflowDefinition) : Value :=
  Encode.record
    [("name", Encode.text workflow.name), ("on", Encode.value workflow.triggers),
      ("jobs", .mapping (Encode.named JobDefinition.encode workflow.jobs))]
    workflow.extra

end WorkflowDefinition

namespace RunsDefinition

/-- Write a way to run. -/
def encode (runs : RunsDefinition) : Value :=
  Encode.record
    [("using", .string runs.engine), ("steps", .sequence (runs.steps.map StepDefinition.encode))]
    runs.extra

end RunsDefinition

namespace CompositeDefinition

/-- Write a composite action. -/
def encode (action : CompositeDefinition) : Value :=
  Encode.record
    [("name", .string action.name), ("description", Encode.text action.description),
      ("runs", action.runs.encode)]
    action.extra

end CompositeDefinition

end RunAtlas
