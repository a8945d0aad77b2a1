import RunAtlas.Definition.Decode
import RunAtlas.Failure
import RunAtlas.Yaml.Classic.Compose

/-!
# Reading definitions from texts

A text is read into a value, whose shape is checked before it is decoded: the root has to be a
mapping with the keys without which the file is not what it is read as.  What kind of file it is
gets checked last.
-/

namespace RunAtlas

open Yaml

/-- The entries of a value that is the root of a file. -/
def rootEntries : Value → Except Cause (List (Value × Value))
  | .mapping entries => .ok entries
  | _ => .error (.rootNotMapping .value)

/-- The entries of the root of a text. -/
def readRoot (text : String) : Except Cause (List (Value × Value)) :=
  match Classic.value? text.toList with
  | some value => rootEntries value
  | none => .error .unreadable

/-- The failure of a decoding. -/
def orUndecodable {α : Type} : Except Mismatch α → Except Cause α
  | .ok result => .ok result
  | .error mismatch => .error (.undecodable mismatch)

namespace WorkflowDefinition

/-- The workflow in the root of a file.  A mapping of jobs may not be empty. -/
def ofRoot (root : List (Value × Value)) : Except Cause WorkflowDefinition :=
  match Value.valueOf? root "jobs" with
  | none => .error (.missingKey .value .jobs)
  | some (.mapping []) => .error .noJobs
  | some _ => orUndecodable (decode root)

/-- The workflow in a text. -/
def ofText (text : String) : Except Cause WorkflowDefinition := do
  ofRoot (← readRoot text)

/-- A workflow that other workflows can call. -/
def requireCallable (workflow : WorkflowDefinition) : Except Cause WorkflowDefinition :=
  if workflow.isCallable then .ok workflow else .error .notReusable

/-- The workflow in a text that other workflows can call. -/
def reusableOfText (text : String) : Except Cause WorkflowDefinition := do
  requireCallable (← ofText text)

end WorkflowDefinition

namespace CompositeDefinition

/-- What runs a composite action. -/
def compositeEngine : String := "composite"

/-- The action in the root of a file, which has to be a composite one. -/
def ofRoot (root : List (Value × Value)) : Except Cause CompositeDefinition :=
  match Value.valueOf? root "runs" with
  | none => .error (.missingKey .value .runs)
  | some runs =>
      match runs.get? "steps" with
      | none => .error (.missingKey .value .runsSteps)
      | some _ => do
          let action ← orUndecodable (decode root)
          if action.runs.engine = compositeEngine then pure action
          else .error (.notComposite action.runs.engine)

/-- The composite action in a text. -/
def ofText (text : String) : Except Cause CompositeDefinition := do
  ofRoot (← readRoot text)

end CompositeDefinition

end RunAtlas
