import RunAtlas.Proofs.Model.Checks
import RunAtlas.Proofs.Yaml.Value

/-!
# The stage in which a file fails

Whatever a file is built as, a failure names the file, and the first check that fails decides the
phase and the code that are reported.  As the checks of the value stand before those of the outline,
and both before the one of pairing, the phase tells in which stage the file fails.
-/

namespace RunAtlas

open Yaml

namespace ModelKind

/-! ## What is reported -/

/-- A failure is reported with the path of its file, and with the phase and the code of a check. -/
structure Reports (file : SourceFile) (check : Check) (report : Report) : Prop where
  path_eq : report.path = some file.origin.path
  phase_eq : report.phase = check.phase
  code_eq : report.code = check.code

section Reports

variable {kind : ModelKind} {file : SourceFile} {check : Check} {failure : Failure}

theorem reports_of_namingFile {α β : Type} {Fails : Check → Prop} {checks : List Check}
    {result : Except Cause α} {change : α → β} (passes : PassesInOrder Fails checks result)
    (failed : (namingFile file result).map change = .error failure) :
    ∃ check, IsFirst Fails checks check ∧ Reports file check failure.report := by
  cases result with
  | ok value => cases failed
  | error cause =>
      cases failed
      rcases passes.failed cause rfl with ⟨check, first, phase_eq, code_eq⟩
      exact ⟨check, first, rfl, phase_eq, code_eq⟩

theorem passed_of_namingFile {α β : Type} {Fails : Check → Prop} {checks : List Check}
    {result : Except Cause α} {change : α → β} {final : β}
    (passes : PassesInOrder Fails checks result)
    (built : (namingFile file result).map change = .ok final) :
    ∀ check ∈ checks, ¬ Fails check := by
  cases result with
  | ok value => exact passes.passed value rfl
  | error cause => cases built

theorem workflow_passesInOrder :
    PassesInOrder ((workflow false).Fails file.text) (workflow false).checks
      (Workflow.build WorkflowDefinition.ofText file) :=
  buildWorkflow_passesInOrder file false (workflowOfText_passesInOrder false) fun _ => id

theorem reusable_passesInOrder :
    PassesInOrder ((workflow true).Fails file.text) (workflow true).checks
      (Workflow.build WorkflowDefinition.reusableOfText file) :=
  buildWorkflow_passesInOrder file true reusableOfText_passesInOrder fun _ accepted =>
    (WorkflowDefinition.reusableOfText_eq_ok_iff.mp accepted).1

/-- A failure is reported for the first check that fails. -/
theorem reports_of_outcome (failed : kind.outcome file = .error failure) :
    ∃ check, IsFirst (kind.Fails file.text) kind.checks check ∧
      Reports file check failure.report := by
  match kind with
  | workflow false => exact reports_of_namingFile workflow_passesInOrder failed
  | workflow true => exact reports_of_namingFile reusable_passesInOrder failed
  | composite => exact reports_of_namingFile (buildComposite_passesInOrder file) failed

theorem passed_of_outcome (built : kind.outcome file = .ok ()) :
    ∀ check ∈ kind.checks, ¬ kind.Fails file.text check := by
  match kind with
  | workflow false => exact passed_of_namingFile workflow_passesInOrder built
  | workflow true => exact passed_of_namingFile reusable_passesInOrder built
  | composite => exact passed_of_namingFile (buildComposite_passesInOrder file) built

/-- The first check that fails is reported. -/
theorem exists_reports_of_isFirst (first : IsFirst (kind.Fails file.text) kind.checks check) :
    ∃ failure, kind.outcome file = .error failure ∧ Reports file check failure.report := by
  cases built : kind.outcome file with
  | ok done => exact absurd first.holds (passed_of_outcome built check first.mem)
  | error failure =>
      rcases reports_of_outcome built with ⟨other, firstToo, reports⟩
      cases first.unique firstToo
      exact ⟨failure, rfl, reports⟩

/-- A phase is reported exactly if it is that of the first check that fails. -/
theorem exists_failure_iff (property : Phase → Prop) :
    (∃ failure, kind.outcome file = .error failure ∧ property failure.report.phase) ↔
      ∃ check, IsFirst (kind.Fails file.text) kind.checks check ∧ property check.phase := by
  constructor
  · rintro ⟨failure, failed, holds⟩
    rcases reports_of_outcome failed with ⟨check, first, reports⟩
    rw [reports.phase_eq] at holds
    exact ⟨check, first, holds⟩
  · rintro ⟨check, first, holds⟩
    rcases exists_reports_of_isFirst first with ⟨failure, failed, reports⟩
    rw [← reports.phase_eq] at holds
    exact ⟨failure, failed, holds⟩

end Reports

/-! ## Stages -/

section Stages

variable {kind : ModelKind} {Fails : Check → Prop} {check : Check}

theorem phase_of_mem_valueChecks (member : check ∈ kind.valueChecks) :
    check.phase = .yaml ∨ check.phase = .value := by
  match kind with
  | workflow false | workflow true | composite =>
      simp only [valueChecks, List.mem_cons, List.not_mem_nil, or_false] at member
      rcases member with rfl | rfl | rfl | rfl | rfl | rfl <;> simp [Check.phase, View.phase]

theorem phase_of_mem_ofOutline (member : check ∈ Check.ofOutline) : check.phase = .ast := by
  simp only [Check.ofOutline, List.mem_cons, List.not_mem_nil, or_false] at member
  rcases member with rfl | rfl | rfl <;> rfl

theorem isFirst_checks_iff :
    IsFirst Fails kind.checks check ↔
      IsFirst Fails kind.valueChecks check ∨
        ((∀ check ∈ kind.valueChecks, ¬ Fails check) ∧
          (IsFirst Fails Check.ofOutline check ∨
            ((∀ check ∈ Check.ofOutline, ¬ Fails check) ∧
              Fails .agreement ∧ .agreement = check))) := by
  rw [checks, isFirst_append_iff, isFirst_append_iff, isFirst_cons_iff]
  simp [not_isFirst_nil]

/-- The first check that fails is one of the value exactly if some check of the value fails. -/
theorem isFirst_valueStage_iff :
    (∃ check, IsFirst Fails kind.checks check ∧ (check.phase = .yaml ∨ check.phase = .value)) ↔
      ∃ check ∈ kind.valueChecks, Fails check := by
  simp only [isFirst_checks_iff]
  constructor
  · rintro ⟨check, first | ⟨-, first | ⟨-, -, rfl⟩⟩, phase⟩
    · exact ⟨check, first.mem, first.holds⟩
    · simp [phase_of_mem_ofOutline first.mem] at phase
    · simp [Check.phase] at phase
  · intro some
    rcases exists_isFirst_of_mem some with ⟨check, first⟩
    exact ⟨check, .inl first, phase_of_mem_valueChecks first.mem⟩

/-- The first check that fails is one of the outline exactly if some check of the outline fails and
none of the value. -/
theorem isFirst_outlineStage_iff :
    (∃ check, IsFirst Fails kind.checks check ∧ check.phase = .ast) ↔
      (∀ check ∈ kind.valueChecks, ¬ Fails check) ∧ ∃ check ∈ Check.ofOutline, Fails check := by
  simp only [isFirst_checks_iff]
  constructor
  · rintro ⟨check, first | ⟨none, first | ⟨-, -, rfl⟩⟩, phase⟩
    · rcases phase_of_mem_valueChecks first.mem with other | other <;> simp [other] at phase
    · exact ⟨none, check, first.mem, first.holds⟩
    · simp [Check.phase] at phase
  · rintro ⟨none, some⟩
    rcases exists_isFirst_of_mem some with ⟨check, first⟩
    exact ⟨check, .inr ⟨none, .inl first⟩, phase_of_mem_ofOutline first.mem⟩

/-- Whether the views agree is the first check that fails exactly if it fails and no other does. -/
theorem isFirst_pairingStage_iff :
    (∃ check, IsFirst Fails kind.checks check ∧ check.phase = .pairing) ↔
      (∀ check ∈ kind.valueChecks, ¬ Fails check) ∧ (∀ check ∈ Check.ofOutline, ¬ Fails check) ∧
        Fails .agreement := by
  simp only [isFirst_checks_iff]
  constructor
  · rintro ⟨check, first | ⟨none, first | ⟨noneOfOutline, fails, -⟩⟩, phase⟩
    · rcases phase_of_mem_valueChecks first.mem with other | other <;> simp [other] at phase
    · simp [phase_of_mem_ofOutline first.mem] at phase
    · exact ⟨none, noneOfOutline, fails⟩
  · rintro ⟨none, noneOfOutline, fails⟩
    exact ⟨.agreement, .inr ⟨none, .inr ⟨noneOfOutline, fails, rfl⟩⟩, rfl⟩

end Stages

/-- Whatever a file is built as, a failure names the file and the stage in which it fails.  It fails
as a value if some check of the value fails, whatever its outline is like; in the outline if some
check of the outline fails and none of the value; and in pairing, with the one code of this phase,
if the two views disagree and no other check fails.  The first check that fails decides the code. -/
theorem failures_name_stage (kind : ModelKind) (file : SourceFile) :
    (∀ failure, kind.outcome file = .error failure →
      failure.report.path = some file.origin.path ∧
        (failure.report.code = "M001" ↔ failure.report.phase = .pairing)) ∧
    ((∃ failure, kind.outcome file = .error failure ∧
        (failure.report.phase = .yaml ∨ failure.report.phase = .value)) ↔
      ∃ check ∈ kind.valueChecks, kind.Fails file.text check) ∧
    ((∃ failure, kind.outcome file = .error failure ∧ failure.report.phase = .ast) ↔
      (∀ check ∈ kind.valueChecks, ¬ kind.Fails file.text check) ∧
        ∃ check ∈ Check.ofOutline, kind.Fails file.text check) ∧
    ((∃ failure, kind.outcome file = .error failure ∧ failure.report.phase = .pairing) ↔
      (∀ check ∈ kind.valueChecks, ¬ kind.Fails file.text check) ∧
        (∀ check ∈ Check.ofOutline, ¬ kind.Fails file.text check) ∧
          kind.Fails file.text .agreement) ∧
    ∀ check, IsFirst (kind.Fails file.text) kind.checks check →
      ∃ failure, kind.outcome file = .error failure ∧ Reports file check failure.report := by
  refine ⟨?_, ?_, ?_, ?_, ?_⟩
  · intro failure failed
    rcases reports_of_outcome failed with ⟨check, -, reports⟩
    exact ⟨reports.path_eq, failure.cause.code_eq_pairingCode_iff⟩
  · rw [exists_failure_iff fun phase => phase = .yaml ∨ phase = .value]
    exact isFirst_valueStage_iff
  · rw [exists_failure_iff fun phase => phase = .ast]
    exact isFirst_outlineStage_iff
  · rw [exists_failure_iff fun phase => phase = .pairing]
    exact isFirst_pairingStage_iff
  · intro check first
    exact exists_reports_of_isFirst first

/-- A file that declares no jobs, and no call by other workflows either. -/
def emptyJobsFile : SourceFile :=
  ⟨"jobs: \x7b\x7d\n", ⟨none, "ci.yml"⟩⟩

/-- A file that is read as a value but cannot be scanned, as no blank stands before the comment. -/
def tightCommentFile : SourceFile :=
  ⟨"jobs:\n  a:\n    name: 'x'#c\n", ⟨none, "ci.yml"⟩⟩

/-- A file whose job has the steps for which an alias stands, and no items of its own. -/
def aliasedStepsFile : SourceFile :=
  ⟨"x: &s\n  - run: a\njobs:\n  b:\n    steps: *s\n", ⟨none, "ci.yml"⟩⟩

theorem failures_name_stage_emptyJobs :
    (IsFirst ((workflow true).Fails emptyJobsFile.text) (workflow true).checks .someJobs ∧
      ∃ failure, (workflow true).outcome emptyJobsFile = .error failure ∧
        Reports emptyJobsFile .someJobs failure.report) ∧
    (∃ check ∈ Check.ofOutline, (workflow false).Fails tightCommentFile.text check) ∧
    (workflow false).Fails aliasedStepsFile.text .agreement := by
  have has : HasEntries emptyJobsFile.text [(.string "jobs", .mapping [])] := by
    unfold HasEntries
    decide +kernel
  have first : IsFirst ((workflow true).Fails emptyJobsFile.text) (workflow true).checks
      .someJobs := by
    refine ⟨[.reading, .root .value, .requiredKeys .value], _, rfl, ⟨_, has, rfl⟩, ?_⟩
    simp only [List.forall_mem_cons]
    refine ⟨?_, ?_, ?_, List.forall_mem_nil _⟩
    · rw [Fails, has]
      exact Option.some_ne_none _
    · rintro ⟨value, same, notMapping⟩
      cases has.symm.trans same
      exact notMapping _ rfl
    · rintro ⟨entries, same, missing⟩
      cases has.symm.trans same
      contradiction
  have unscanned : (workflow false).outcome tightCommentFile =
      .error ⟨.unscannable, some "ci.yml"⟩ := by
    decide +kernel
  have unpaired : (workflow false).outcome aliasedStepsFile =
      .error ⟨.stepCount "b" 1 0, some "ci.yml"⟩ := by
    decide +kernel
  rcases failures_name_stage (workflow true) emptyJobsFile with ⟨-, -, -, -, firstDecides⟩
  rcases failures_name_stage (workflow false) tightCommentFile with ⟨-, -, outlineStage, -, -⟩
  rcases failures_name_stage (workflow false) aliasedStepsFile with ⟨-, -, -, pairingStage, -⟩
  refine ⟨⟨first, firstDecides .someJobs first⟩, ?_, ?_⟩
  · exact (outlineStage.mp ⟨_, unscanned, rfl⟩).2
  · exact (pairingStage.mp ⟨_, unpaired, rfl⟩).2.2

end ModelKind

end RunAtlas
