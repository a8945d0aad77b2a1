import RunAtlas.Definition.Read
import RunAtlas.Model.Pairing

/-!
# Workflows

A workflow is built from a file in two views, which are then paired.  The view of values is built
first, so that a file that fails in both is reported for its values.  Every failure names the file.
-/

namespace RunAtlas

/-- A workflow with its jobs, the line on which it starts and the origin of its file. -/
structure Workflow where
  definition : WorkflowDefinition
  startLine : Nat
  jobs : List Job
  origin : Origin
deriving Repr, Inhabited

/-- A result whose failure names its file. -/
def namingFile {α : Type} (file : SourceFile) : Except Cause α → Except Failure α
  | .ok result => .ok result
  | .error cause => .error ⟨cause, some file.origin.path⟩

/-- A result with the notice that it leaves if it is no failure. -/
def noticed {α : Type} (notice : α → Notice) (result : Except Failure α) :
    Traced (Except Failure α) :=
  match result with
  | .ok value => ⟨.ok value, [notice value]⟩
  | .error failure => ⟨.error failure, []⟩

namespace Workflow

/-- The workflow made of a definition and an outline. -/
def pair (origin : Origin) (definition : WorkflowDefinition) (outline : FileOutline) :
    Except Cause Workflow := do
  let jobs ← pairJobs origin outline definition.jobs
  pure { definition := definition, startLine := outline.startLine, jobs := jobs, origin := origin }

/-- Build a workflow whose definition is read by `read`. -/
def build (read : String → Except Cause WorkflowDefinition) (file : SourceFile) :
    Except Cause Workflow := do
  let definition ← read file.text
  let outline ← FileOutline.ofText file.text
  pair file.origin definition outline

/-- Build the workflow of a file. -/
def ofFile (file : SourceFile) : Except Failure Workflow :=
  namingFile file (build WorkflowDefinition.ofText file)

/-- Build the workflow of a file that other workflows can call. -/
def reusableOfFile (file : SourceFile) : Except Failure Workflow :=
  namingFile file (build WorkflowDefinition.reusableOfText file)

/-- Build the workflow of a file, and tell about it. -/
def load (file : SourceFile) : Traced (Except Failure Workflow) :=
  noticed (fun workflow => .builtWorkflow file.origin.path workflow.jobs.length) (ofFile file)

/-- Telling about a workflow does not change how it is built. -/
@[simp]
theorem value_load (file : SourceFile) : (load file).value = ofFile file := by
  unfold load noticed
  cases ofFile file with
  | ok workflow => rfl
  | error failure => rfl

/-- Build the workflow of a file that other workflows can call, and tell about it. -/
def loadReusable (file : SourceFile) : Traced (Except Failure Workflow) :=
  noticed (fun workflow => .builtReusableWorkflow file.origin.path workflow.jobs.length)
    (reusableOfFile file)

/-- The declared name, or the path of the file if there is none. -/
def name (workflow : Workflow) : String :=
  workflow.definition.name.getD workflow.origin.path

/-- The job with an id. -/
def job? (workflow : Workflow) (id : String) : Option Job :=
  workflow.jobs.find? (·.id == id)

/-- The job that a run-time name refers to. -/
def matchJob (workflow : Workflow) (rawName : String) : Traced (Option Job) :=
  Job.matchName workflow.jobs rawName

end Workflow

end RunAtlas
