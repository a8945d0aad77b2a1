import RunAtlas.Yaml.Value

/-!
# Definitions of workflows and actions

A definition is the typed form of a file.  The keys that matter have fields of their own; all other
keys are kept as extra entries, in order, so that nothing that is declared is lost.  Jobs keep the
order of their declaration, which positions are matched by later.
-/

namespace RunAtlas

open Yaml

/-- Named values in order. -/
abbrev Extra := List (String × Value)

/-- A step of a job or of a composite action. -/
structure StepDefinition where
  id : Option String
  name : Option String
  uses : Option String
  run : Option String
  /-- The inputs of the action that the step uses. -/
  inputs : Option Extra
  extra : Extra
deriving Repr, Inhabited

/-- How the instances of a job are made. -/
structure StrategyDefinition where
  /-- The matrix in any shape: a mapping, or an expression. -/
  matrix : Option Value
  extra : Extra
deriving Repr, Inhabited

/-- A job of a workflow. -/
structure JobDefinition where
  name : Option String
  runsOn : Option Value
  uses : Option String
  needs : Option Value
  steps : Option (List StepDefinition)
  strategy : Option StrategyDefinition
  extra : Extra
deriving Repr, Inhabited

namespace JobDefinition

/-- The labels of the runner: a text, a sequence of texts, or either in a mapping. -/
def runsOnLabels (job : JobDefinition) : List String :=
  match job.runsOn with
  | some (.mapping group) => ((Value.valueOf? group "labels").map Value.scalarTexts).getD []
  | some value => value.scalarTexts
  | none => []

/-- The ids of the jobs that have to come first. -/
def neededJobs (job : JobDefinition) : List String :=
  (job.needs.map Value.scalarTexts).getD []

/-- Whether a job is declared once for many instances. -/
def isMatrix (job : JobDefinition) : Bool :=
  job.strategy.any (·.matrix.isSome)

end JobDefinition

/-- A workflow. -/
structure WorkflowDefinition where
  name : Option String
  /-- What starts the workflow, in any shape. -/
  triggers : Option Value
  jobs : List (String × JobDefinition)
  extra : Extra
deriving Repr, Inhabited

namespace WorkflowDefinition

/-- The trigger by which other workflows call a workflow. -/
def callTrigger : String := "workflow_call"

/-- Whether other workflows can call the workflow. -/
def isCallable (workflow : WorkflowDefinition) : Bool :=
  match workflow.triggers with
  | some (.string trigger) => trigger = callTrigger
  | some (.sequence triggers) => triggers.any (·.string? == some callTrigger)
  | some (.mapping triggers) => (Value.valueOf? triggers callTrigger).isSome
  | _ => false

/-- The names of the inputs with which other workflows call the workflow. -/
def inputNames (workflow : WorkflowDefinition) : List String :=
  let inputs := do
    let triggers ← workflow.triggers
    let call ← triggers.get? callTrigger
    let inputs ← call.get? "inputs"
    inputs.entries?
  (inputs.getD []).filterMap fun entry => entry.1.string?

end WorkflowDefinition

/-- How an action runs. -/
structure RunsDefinition where
  /-- What runs the action. -/
  engine : String
  steps : List StepDefinition
  extra : Extra
deriving Repr, Inhabited

/-- A composite action. -/
structure CompositeDefinition where
  name : String
  description : Option String
  runs : RunsDefinition
  extra : Extra
deriving Repr, Inhabited

end RunAtlas
