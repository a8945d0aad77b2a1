import RunAtlas.Model.Workflow
import RunAtlas.Record.Basic

/-!
# Reconciling reported jobs with workflows

A reported job is resolved to the job of a workflow that its name refers to, and each of its steps
to a step of that job.  Steps that no definition produces stay without one.
-/

namespace RunAtlas

/-- A reported step and the step of the workflow that it is, if it is one. -/
structure ReconciledStep where
  record : StepRecord
  step : Option Step

/-- A reported job as a job of the workflow, with its reported steps in order. -/
structure ReconciledJob where
  job : Job
  steps : List ReconciledStep

/-- Resolve a reported step in a job. -/
def reconcileStep (job : Job) (record : StepRecord) : Traced ReconciledStep := do
  let step ← job.matchStep record.name
  pure ⟨record, step⟩

/-- Resolve a reported job in a workflow. -/
def reconcileJob (workflow : Workflow) (record : JobRecord) : Traced (Option ReconciledJob) := do
  match ← workflow.matchJob record.name with
  | some job =>
      let steps ← Traced.forEach (reconcileStep job) record.steps
      pure (some ⟨job, steps⟩)
  | none =>
      Traced.leave (.jobNotDefined workflow.name record.name)
      pure none

/-- A reported job is resolved by its name, and each of its steps by its own. -/
theorem value_reconcileJob (workflow : Workflow) (record : JobRecord) :
    (reconcileJob workflow record).value =
      (workflow.matchJob record.name).value.map fun job =>
        ⟨job, record.steps.map fun step => ⟨step, (job.matchStep step.name).value⟩⟩ := by
  rw [reconcileJob, Traced.value_bind]
  cases (workflow.matchJob record.name).value with
  | none => rfl
  | some job =>
      rw [Traced.value_bind, Traced.value_forEach]
      rfl

end RunAtlas
