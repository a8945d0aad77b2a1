import RunAtlas.Json.Reader
import RunAtlas.Model.Reconciliation
import RunAtlas.Record.Decode

/-!
# Views for dashboards

A dashboard holds a workflow as text and asks what it declares, which job and step a run-time name
refers to, and how a reported job fits.  The answers are flat views of jobs and steps, or the
reports of what went wrong.
-/

namespace RunAtlas.Dashboard

/-- What a dashboard shows of a step. -/
structure StepView where
  name : String
  showable : String
  startLine : Nat
  lineUrl : Option String
  uses : Option String
  isComposite : Bool
deriving Repr, DecidableEq

namespace StepView

/-- The view of a step. -/
def ofStep (step : Step) : StepView where
  name := step.name
  showable := step.showable
  startLine := step.startLine
  lineUrl := step.lineUrl
  uses := step.definition.uses
  isComposite := step.isComposite

end StepView

/-- What a dashboard shows of a job. -/
structure JobView where
  id : String
  name : Option String
  startLine : Nat
  lineUrl : Option String
  isMatrix : Bool
  isReusable : Bool
  steps : List StepView
deriving Repr, DecidableEq

namespace JobView

/-- The view of a job. -/
def ofJob (job : Job) : JobView where
  id := job.id
  name := job.name?
  startLine := job.startLine
  lineUrl := job.lineUrl
  isMatrix := job.isMatrix
  isReusable := job.isReusable
  steps := job.steps.map StepView.ofStep

end JobView

/-- What a dashboard shows of a workflow. -/
structure WorkflowView where
  name : String
  path : String
  jobs : List JobView
deriving Repr, DecidableEq

namespace WorkflowView

/-- The view of a workflow. -/
def ofWorkflow (workflow : Workflow) : WorkflowView where
  name := workflow.name
  path := workflow.origin.path
  jobs := workflow.jobs.map JobView.ofJob

end WorkflowView

/-- What a dashboard shows of a reported step: the line on which its definition starts. -/
structure StepRecordView where
  name : String
  number : UInt32
  startLine : Option Nat
deriving Repr, DecidableEq

/-- What a dashboard shows of a reported job, which may have no definition. -/
structure RecordView where
  job : Option JobView
  steps : List StepRecordView
deriving Repr, DecidableEq

/-- The file of a dashboard. -/
def fileOf (content path : String) (htmlUrl : Option String) : SourceFile :=
  ⟨content, ⟨htmlUrl, path⟩⟩

/-- Describe the jobs and steps of a workflow. -/
def inspectWorkflow (content path : String) (htmlUrl : Option String) :
    Traced (Except (List Report) WorkflowView) := do
  match ← Workflow.load (fileOf content path htmlUrl) with
  | .ok workflow => pure (.ok (.ofWorkflow workflow))
  | .error failure => pure (.error [failure.report])

/-- The job that a run-time name refers to. -/
def matchJob (content path rawJob : String) : Traced (Option JobView) := do
  match ← Workflow.load (fileOf content path none) with
  | .error _ => pure none
  | .ok workflow =>
      let job ← workflow.matchJob rawJob
      pure (job.map JobView.ofJob)

/-- The step that a run-time name refers to inside the job that another one refers to. -/
def matchStep (content path rawJob rawStep : String) : Traced (Option StepView) := do
  match ← Workflow.load (fileOf content path none) with
  | .error _ => pure none
  | .ok workflow =>
      match ← workflow.matchJob rawJob with
      | none => pure none
      | some job =>
          let step ← job.matchStep rawStep
          pure (step.map StepView.ofStep)

/-- The report of a job record that cannot be read.  The message stops where the words of the reader
of the record would follow, which belong to no rule of this library. -/
def unreadableRecord : Report :=
  ⟨.value, "P001", "Failed to parse job record JSON", none⟩

/-- The view of a reconciled step. -/
def viewStep (reconciled : ReconciledStep) : StepRecordView where
  name := reconciled.record.name
  number := reconciled.record.number
  startLine := reconciled.step.map (·.startLine)

/-- The view of a reconciled job. -/
def viewJob : Option ReconciledJob → RecordView
  | some reconciled => ⟨some (.ofJob reconciled.job), reconciled.steps.map viewStep⟩
  | none => ⟨none, []⟩

/-- Resolve a reported job and its steps.  The record is read before the workflow. -/
def reconcileRecord (content path record : String) :
    Traced (Except (List Report) RecordView) := do
  match (Json.ofText record).decode JobRecord.decode with
  | .error _ => pure (.error [unreadableRecord])
  | .ok record =>
      match ← Workflow.load (fileOf content path none) with
      | .error failure => pure (.error [failure.report])
      | .ok workflow =>
          let reconciled ← reconcileJob workflow record
          pure (.ok (viewJob reconciled))

end RunAtlas.Dashboard
