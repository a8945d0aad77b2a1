import RunAtlas.Dashboard
import RunAtlas.Proofs.Model.JobRank
import RunAtlas.Proofs.Outcome

/-!
# The answers for dashboards agree

Each question of a dashboard builds the workflow anew and goes through it in its own way.  All of
them build the same workflow, so that they miss or fail together, and the answer on a reported job
is put together from the answers on its name and on the names of its steps.  A record is read before
anything is built, so that an unreadable record is all that is reported of it.
-/

namespace RunAtlas

namespace Dashboard

variable {content path : String}

/-! ## Workflows that cannot be built -/

section Failed

variable {failure : Failure} (failed : Workflow.ofFile (fileOf content path none) = .error failure)
include failed

theorem value_inspectWorkflow_of_error :
    (inspectWorkflow content path none).value = .error [failure.report] := by
  rw [inspectWorkflow, Traced.value_bind, Workflow.value_load, failed]
  rfl

theorem value_matchJob_of_error (rawJob : String) :
    (matchJob content path rawJob).value = none := by
  rw [matchJob, Traced.value_bind, Workflow.value_load, failed]
  rfl

theorem value_matchStep_of_error (rawJob rawStep : String) :
    (matchStep content path rawJob rawStep).value = none := by
  rw [matchStep, Traced.value_bind, Workflow.value_load, failed]
  rfl

theorem value_reconcileRecord_of_error {text : String} {record : JobRecord}
    (read : (Json.ofText text).decode JobRecord.decode = .ok record) :
    (reconcileRecord content path text).value = .error [failure.report] := by
  rw [reconcileRecord, read]
  simp only [Traced.value_bind, Workflow.value_load, failed]
  rfl

end Failed

/-! ## Workflows that are built -/

section Built

variable {workflow : Workflow} (built : Workflow.ofFile (fileOf content path none) = .ok workflow)
include built

theorem value_inspectWorkflow_of_ok :
    (inspectWorkflow content path none).value = .ok (.ofWorkflow workflow) := by
  rw [inspectWorkflow, Traced.value_bind, Workflow.value_load, built]
  rfl

theorem value_matchJob_of_ok (rawJob : String) :
    (matchJob content path rawJob).value =
      (workflow.matchJob rawJob).value.map JobView.ofJob := by
  rw [matchJob, Traced.value_bind, Workflow.value_load, built]
  rfl

theorem value_matchStep_of_ok {rawJob : String} {job : Job}
    (found : (workflow.matchJob rawJob).value = some job) (rawStep : String) :
    (matchStep content path rawJob rawStep).value =
      (job.matchStep rawStep).value.map StepView.ofStep := by
  rw [matchStep, Traced.value_bind, Workflow.value_load, built]
  simp only [Traced.value_bind, found]
  rfl

theorem value_reconcileRecord_of_ok {text : String} {record : JobRecord}
    (read : (Json.ofText text).decode JobRecord.decode = .ok record) :
    (reconcileRecord content path text).value =
      .ok (viewJob (reconcileJob workflow record).value) := by
  rw [reconcileRecord, read]
  simp only [Traced.value_bind, Workflow.value_load, built]
  rfl

end Built

/-! ## Agreement -/

/-- A reported step is shown under its name and number, with the line that is answered on its name,
if one is. -/
structure StepRecordView.Fits (content path rawJob : String) (record : StepRecord)
    (view : StepRecordView) : Prop where
  name_eq : view.name = record.name
  number_eq : view.number = record.number
  startLine_eq : view.startLine =
    (matchStep content path rawJob record.name).value.map StepView.startLine

/-- The answer on a reported job fits the answers on its name, on the names of its steps and on the
workflow as a whole. -/
structure RecordView.Fits (content path : String) (record : JobRecord) (listed : WorkflowView)
    (answer : RecordView) : Prop where
  job_eq : answer.job = (matchJob content path record.name).value
  steps_of_missed : answer.job = none → answer.steps = []
  mem_jobs : ∀ job, answer.job = some job → job ∈ listed.jobs
  steps_fit : ∀ job, answer.job = some job →
    List.Forall₂ (StepRecordView.Fits content path record.name) record.steps answer.steps

theorem fits_viewJob {workflow : Workflow}
    (built : Workflow.ofFile (fileOf content path none) = .ok workflow) (record : JobRecord) :
    (viewJob (reconcileJob workflow record).value).Fits content path record
      (.ofWorkflow workflow) := by
  rw [value_reconcileJob]
  cases found : (workflow.matchJob record.name).value with
  | none =>
      have missed : (matchJob content path record.name).value = none := by
        rw [value_matchJob_of_ok built, found]
        rfl
      constructor
      case job_eq => exact missed.symm
      case steps_of_missed =>
        intro _
        rfl
      case mem_jobs =>
        intro job named
        contradiction
      case steps_fit =>
        intro job named
        contradiction
  | some job =>
      have matched : (matchJob content path record.name).value = some (.ofJob job) := by
        rw [value_matchJob_of_ok built, found]
        rfl
      constructor
      case job_eq => exact matched.symm
      case steps_of_missed =>
        intro missed
        contradiction
      case mem_jobs =>
        rintro _ ⟨⟩
        exact List.mem_map_of_mem (Job.mem_of_matchName found)
      case steps_fit =>
        rintro _ ⟨⟩
        rw [Option.map_some, viewJob, List.map_map, List.forall₂_map_right_iff, List.forall₂_same]
        intro step _
        refine ⟨rfl, rfl, ?_⟩
        rw [value_matchStep_of_ok built found, Option.map_map]
        rfl

/-- The four answers agree on every file and every record that can be read.  If the workflow cannot
be built, the two that report do so with the same single report, and the other two find nothing.  If
it can, the answer on the record fits the three others.  A record that cannot be read is the only
thing that is reported, without a path, whatever the file is. -/
theorem answers_agree (content path text : String) :
    (∀ record, (Json.ofText text).decode JobRecord.decode = .ok record →
      (∀ failure, Workflow.ofFile (fileOf content path none) = .error failure →
        (inspectWorkflow content path none).value = .error [failure.report] ∧
        (reconcileRecord content path text).value = .error [failure.report] ∧
        (∀ rawJob, (matchJob content path rawJob).value = none) ∧
        ∀ rawJob rawStep, (matchStep content path rawJob rawStep).value = none) ∧
      ∀ workflow, Workflow.ofFile (fileOf content path none) = .ok workflow →
        ∃ listed answer, (inspectWorkflow content path none).value = .ok listed ∧
          (reconcileRecord content path text).value = .ok answer ∧
          answer.Fits content path record listed) ∧
    ∀ fault, (Json.ofText text).decode JobRecord.decode = .error fault →
      ∃ report, (reconcileRecord content path text).value = .error [report] ∧
        report.phase = .value ∧ report.code = "P001" ∧ report.path = none := by
  constructor
  · intro record read
    constructor
    · intro failure failed
      exact ⟨value_inspectWorkflow_of_error failed, value_reconcileRecord_of_error failed read,
        value_matchJob_of_error failed, value_matchStep_of_error failed⟩
    · intro workflow built
      exact ⟨_, _, value_inspectWorkflow_of_ok built, value_reconcileRecord_of_ok built read,
        fits_viewJob built record⟩
  · intro fault unread
    refine ⟨unreadableRecord, ?_, rfl, rfl, rfl⟩
    rw [reconcileRecord, unread]
    rfl

/-- A workflow of one job with one step. -/
def testWorkflow : String :=
  "name: CI\njobs:\n  test:\n    steps:\n      - run: cargo test\n"

/-- A sequence, which is no workflow. -/
def notWorkflow : String :=
  "- not\n- a mapping\n"

/-- A record of the job, with a step that no definition produces. -/
def testRecord : String :=
  "\x7b\x22name\x22: \x22test\x22, \x22steps\x22: [" ++
    "\x7b\x22name\x22: \x22Set up job\x22, \x22number\x22: 1\x7d, " ++
    "\x7b\x22name\x22: \x22Run cargo test\x22, \x22number\x22: 2\x7d]\x7d"

/-- A record that breaks off. -/
def brokenRecord : String :=
  "\x7b\x22name\x22: "

theorem answers_agree_test :
    (∃ record listed answer, (inspectWorkflow testWorkflow "ci.yml" none).value = .ok listed ∧
      (reconcileRecord testWorkflow "ci.yml" testRecord).value = .ok answer ∧
      answer.steps.map (·.startLine) = [none, some 5] ∧
      answer.Fits testWorkflow "ci.yml" record listed) ∧
    (∃ report, (inspectWorkflow notWorkflow "ci.yml" none).value = .error [report] ∧
      (reconcileRecord notWorkflow "ci.yml" testRecord).value = .error [report] ∧
      (matchJob notWorkflow "ci.yml" "test").value = none) ∧
    ∃ report, (reconcileRecord notWorkflow "ci.yml" brokenRecord).value = .error [report] ∧
      report.code = "P001" := by
  have reads : ((Json.ofText testRecord).decode JobRecord.decode).toOption.map (·.name) =
      some "test" := by
    decide +kernel
  rcases Except.exists_of_map_toOption reads with ⟨record, read, -⟩
  refine ⟨?_, ?_, ?_⟩
  · have builds : (Workflow.ofFile (fileOf testWorkflow "ci.yml" none)).toOption.map (·.name) =
        some "CI" := by
      decide +kernel
    have reported : (reconcileRecord testWorkflow "ci.yml" testRecord).value.toOption.map
        (·.steps.map (·.startLine)) = some [none, some 5] := by
      decide +kernel
    rcases Except.exists_of_map_toOption builds with ⟨workflow, built, -⟩
    rcases Except.exists_of_map_toOption reported with ⟨answer, reconciled, lines⟩
    rcases answers_agree testWorkflow "ci.yml" testRecord with ⟨readable, -⟩
    rcases (readable record read).2 workflow built with ⟨listed, same, inspected, isSame, fits⟩
    rw [reconciled, Except.ok.injEq] at isSame
    rw [← isSame] at fits
    exact ⟨record, listed, answer, inspected, reconciled, lines, fits⟩
  · have fails : (Workflow.ofFile (fileOf notWorkflow "ci.yml" none)).toOption.isNone = true := by
      decide +kernel
    rcases Except.exists_of_isNone_toOption fails with ⟨failure, failed⟩
    rcases answers_agree notWorkflow "ci.yml" testRecord with ⟨readable, -⟩
    rcases (readable record read).1 failure failed with ⟨inspected, reconciled, missed, -⟩
    exact ⟨failure.report, inspected, reconciled, missed "test"⟩
  · have fails : ((Json.ofText brokenRecord).decode JobRecord.decode).toOption.isNone = true := by
      decide +kernel
    rcases Except.exists_of_isNone_toOption fails with ⟨fault, unread⟩
    rcases answers_agree notWorkflow "ci.yml" brokenRecord with ⟨-, unreadable⟩
    rcases unreadable fault unread with ⟨report, reconciled, -, code, -⟩
    exact ⟨report, reconciled, code⟩

end Dashboard

end RunAtlas
