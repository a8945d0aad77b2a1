import RunAtlas.Model.Reconciliation
import RunAtlas.Proofs.FirstElement
import RunAtlas.Proofs.Model.JobRank

/-!
# Accounts of reconciled jobs

The notices that are left while a reported job is reconciled are an account of its result.  The
first one tells by which rule the job was found, or that none was.  A job that was not found is
warned of, and nothing else is told.  For a job that was found one notice follows for each reported
step, in order, which tells what the step turned out to be.

`Accounts` spells this out for a result and its notices, and reconciling has the only outcome that
accounts for itself in this way (`reconcileJob_eq_iff_accounts`).
-/

namespace RunAtlas

/-! ## Jobs -/

namespace Job

/-- A job satisfies a rule for a run-time name. -/
def Satisfies (rawName : String) (rule : JobRule) (job : Job) : Prop :=
  match rule with
  | .exactId => job.id = rawName
  | .declaredName => job.name? = some rawName
  | .matrixName => job.HasInstanceName rawName

theorem accepts_iff {rawName : String} {rule : JobRule} (job : Job) :
    rule.accepts rawName job = true ↔ job.Satisfies rawName rule := by
  cases rule with
  | exactId => exact beq_iff_eq
  | declaredName => exact beq_iff_eq
  | matrixName => exact mayInstantiate_iff

/-- Some job satisfies a rule. -/
def IsSatisfied (jobs : List Job) (rawName : String) (rule : JobRule) : Prop :=
  ∃ job ∈ jobs, job.Satisfies rawName rule

variable {jobs : List Job} {rawName : String}

theorem find?_accepts_eq_none_iff {rule : JobRule} :
    jobs.find? (rule.accepts rawName) = none ↔ ¬ IsSatisfied jobs rawName rule := by
  rw [List.find?_eq_none, IsSatisfied, not_exists]
  apply forall_congr'
  intro job
  rw [accepts_iff, not_and]

/-- The rule that decides is the first that is satisfied, and the job is the first that satisfies
it. -/
theorem find?_eq_some_iff {rule : JobRule} {job : Job} :
    find? jobs rawName = some (rule, job) ↔
      IsFirst (IsSatisfied jobs rawName) JobRule.all rule ∧
        IsFirst (Satisfies rawName rule) jobs job := by
  rw [find?, List.findSome?_eq_some_iff]
  constructor
  · rintro ⟨before, decisive, after, shape, hit, passed⟩
    obtain ⟨found, isFound, ⟨⟩⟩ := Option.map_eq_some_iff.mp hit
    have first := (find?_eq_some_iff_isFirst accepts_iff).mp isFound
    refine ⟨⟨before, after, shape, ⟨job, first.mem, first.holds⟩, ?_⟩, first⟩
    intro other earlier
    exact find?_accepts_eq_none_iff.mp (Option.map_eq_none_iff.mp (passed other earlier))
  · rintro ⟨⟨before, after, shape, -, passed⟩, first⟩
    refine ⟨before, rule, after, shape, ?_, ?_⟩
    · rw [(find?_eq_some_iff_isFirst accepts_iff).mpr first]
      rfl
    · intro other earlier
      rw [find?_accepts_eq_none_iff.mpr (passed other earlier)]
      rfl

theorem find?_eq_none_iff :
    find? jobs rawName = none ↔ ∀ rule ∈ JobRule.all, ¬ IsSatisfied jobs rawName rule := by
  rw [find?, List.findSome?_eq_none_iff]
  apply forall₂_congr
  intro rule _
  rw [Option.map_eq_none_iff, find?_accepts_eq_none_iff]

end Job

/-- What is told of the answer to a run-time name among jobs. -/
inductive TellsJob (jobs : List Job) (rawName : String) : Option Job → Notice → Prop
  | matched {rule : JobRule} {job : Job}
      (firstRule : IsFirst (Job.IsSatisfied jobs rawName) JobRule.all rule)
      (firstJob : IsFirst (Job.Satisfies rawName rule) jobs job) :
      TellsJob jobs rawName (some job) (.jobMatched rule rawName job.id)
  | unmatched (noRule : ∀ rule ∈ JobRule.all, ¬ Job.IsSatisfied jobs rawName rule) :
      TellsJob jobs rawName none (.noJobMatched rawName)

theorem tellsJob_some_iff {jobs : List Job} {rawName : String} {job : Job} {notice : Notice} :
    TellsJob jobs rawName (some job) notice ↔
      ∃ rule, Job.find? jobs rawName = some (rule, job) ∧
        notice = .jobMatched rule rawName job.id := by
  constructor
  · rintro ⟨firstRule, firstJob⟩
    exact ⟨_, Job.find?_eq_some_iff.mpr ⟨firstRule, firstJob⟩, rfl⟩
  · rintro ⟨rule, found, rfl⟩
    obtain ⟨firstRule, firstJob⟩ := Job.find?_eq_some_iff.mp found
    exact .matched firstRule firstJob

theorem tellsJob_none_iff {jobs : List Job} {rawName : String} {notice : Notice} :
    TellsJob jobs rawName none notice ↔
      Job.find? jobs rawName = none ∧ notice = .noJobMatched rawName := by
  constructor
  · rintro ⟨⟩
    rename_i noRule
    exact ⟨Job.find?_eq_none_iff.mpr noRule, rfl⟩
  · rintro ⟨missed, rfl⟩
    exact .unmatched (Job.find?_eq_none_iff.mp missed)

/-! ## Steps -/

/-- What is told of a reported step. -/
inductive TellsStep : ReconciledStep → Notice → Prop
  | pseudo {record : StepRecord} (isPseudo : record.name ∈ Step.pseudoNames) :
      TellsStep ⟨record, none⟩ (.pseudoStep record.name)
  | matched {record : StepRecord} {step : Step} (notPseudo : record.name ∉ Step.pseudoNames) :
      TellsStep ⟨record, some step⟩ (.stepMatched record.name step.startLine)
  | unmatched {record : StepRecord} (notPseudo : record.name ∉ Step.pseudoNames) :
      TellsStep ⟨record, none⟩ (.noStepMatched record.name)

namespace Job

/-- A reported step with the answer of the job to its name alone. -/
def entryOf (job : Job) (record : StepRecord) : ReconciledStep :=
  ⟨record, (job.matchStep record.name).value⟩

/-- The notice that the answer of the job to the name of a reported step leaves. -/
def stepNotice (job : Job) (record : StepRecord) : Notice :=
  (Step.find job.steps record.name).notice record.name

/-- What is told of a reported step is the notice that it leaves. -/
theorem tellsStep_entryOf_iff {job : Job} {record : StepRecord} {notice : Notice} :
    TellsStep (job.entryOf record) notice ↔ job.stepNotice record = notice := by
  have entry : job.entryOf record = ⟨record, (Step.find job.steps record.name).step?⟩ := rfl
  rw [entry, stepNotice, Step.find]
  by_cases isPseudo : record.name ∈ Step.pseudoNames
  · rw [if_pos isPseudo]
    constructor
    · rintro (_ | _ | notPseudo)
      · rfl
      · contradiction
    · rintro rfl
      exact .pseudo isPseudo
  · rw [if_neg isPseudo]
    cases job.steps.find? (Step.answersTo (Step.undecorate record.name)) with
    | none =>
        constructor
        · rintro (_ | _ | _)
          · contradiction
          · rfl
        · rintro rfl
          exact .unmatched isPseudo
    | some step =>
        constructor
        · rintro ⟨⟩
          rfl
        · rintro rfl
          exact .matched isPseudo

/-- Each step leaves its notice, in order. -/
theorem forall₂_tellsStep_iff {job : Job} {records : List StepRecord} {notices : List Notice} :
    List.Forall₂ TellsStep (records.map job.entryOf) notices ↔
      records.map job.stepNotice = notices := by
  simp only [List.forall₂_map_left_iff, tellsStep_entryOf_iff]
  rw [← List.forall₂_map_left_iff, List.forall₂_eq_eq_eq]

end Job

theorem reconcileStep_eq (job : Job) (record : StepRecord) :
    reconcileStep job record = ⟨job.entryOf record, [job.stepNotice record]⟩ :=
  rfl

/-! ## Accounts -/

/-- A result of reconciling a reported job with notices that account for it. -/
inductive Accounts (workflow : Workflow) (record : JobRecord) :
    Traced (Option ReconciledJob) → Prop
  | missed {notice : Notice} (tellsJob : TellsJob workflow.jobs record.name none notice) :
      Accounts workflow record ⟨none, [notice, .jobNotDefined workflow.name record.name]⟩
  | found {job : Job} {notice : Notice} {others : List Notice}
      (tellsJob : TellsJob workflow.jobs record.name (some job) notice)
      (tellsSteps : List.Forall₂ TellsStep (record.steps.map job.entryOf) others) :
      Accounts workflow record ⟨some ⟨job, record.steps.map job.entryOf⟩, notice :: others⟩

section

variable {workflow : Workflow} {record : JobRecord}

theorem reconcileJob_of_find?_eq_none
    (missed : Job.find? workflow.jobs record.name = none) :
    reconcileJob workflow record =
      ⟨none, [.noJobMatched record.name, .jobNotDefined workflow.name record.name]⟩ := by
  simp only [reconcileJob, Workflow.matchJob, Job.matchName, missed]
  rfl

theorem reconcileJob_of_find?_eq_some {rule : JobRule} {job : Job}
    (found : Job.find? workflow.jobs record.name = some (rule, job)) :
    reconcileJob workflow record =
      ⟨some ⟨job, record.steps.map job.entryOf⟩,
        .jobMatched rule record.name job.id :: record.steps.map job.stepNotice⟩ := by
  have steps := Traced.forEach_eq (reconcileStep_eq job) record.steps
  simp [reconcileJob, Workflow.matchJob, Job.matchName, Job.notice, found, steps, bind, pure]

/-- Reconciling accounts for its result. -/
theorem accounts_reconcileJob (workflow : Workflow) (record : JobRecord) :
    Accounts workflow record (reconcileJob workflow record) := by
  cases search : Job.find? workflow.jobs record.name with
  | none =>
      rw [reconcileJob_of_find?_eq_none search]
      exact .missed (tellsJob_none_iff.mpr ⟨search, rfl⟩)
  | some answer =>
      obtain ⟨rule, job⟩ := answer
      rw [reconcileJob_of_find?_eq_some search]
      apply Accounts.found
      · exact tellsJob_some_iff.mpr ⟨rule, search, rfl⟩
      · exact Job.forall₂_tellsStep_iff.mpr rfl

/-- There is no other account of a reported job. -/
theorem Accounts.reconcileJob_eq {outcome : Traced (Option ReconciledJob)}
    (accounts : Accounts workflow record outcome) : reconcileJob workflow record = outcome := by
  cases accounts with
  | missed tellsJob =>
      obtain ⟨search, rfl⟩ := tellsJob_none_iff.mp tellsJob
      exact reconcileJob_of_find?_eq_none search
  | found tellsJob tellsSteps =>
      obtain ⟨rule, search, rfl⟩ := tellsJob_some_iff.mp tellsJob
      obtain rfl := Job.forall₂_tellsStep_iff.mp tellsSteps
      exact reconcileJob_of_find?_eq_some search

theorem TellsJob.level_eq {jobs : List Job} {rawName : String} {answer : Option Job}
    {notice : Notice} (tells : TellsJob jobs rawName answer notice) : notice.level = .trace := by
  cases tells <;> rfl

theorem TellsStep.level_eq {entry : ReconciledStep} {notice : Notice}
    (tells : TellsStep entry notice) : notice.level = .trace := by
  cases tells <;> rfl

/-- The notices of an account that are warnings: one if the job was missed, and else none. -/
theorem Accounts.warnings_eq {outcome : Traced (Option ReconciledJob)}
    (accounts : Accounts workflow record outcome) :
    (outcome.notices.filter fun notice => notice.level = .warn) =
      if outcome.value.isNone then [.jobNotDefined workflow.name record.name] else [] := by
  cases accounts with
  | missed tellsJob =>
      rw [List.filter_cons_of_neg (by simp [tellsJob.level_eq])]
      rfl
  | @found job notice others tellsJob tellsSteps =>
      obtain rfl := Job.forall₂_tellsStep_iff.mp tellsSteps
      apply List.filter_eq_nil_iff.mpr
      rw [List.forall_mem_cons, List.forall_mem_map]
      constructor
      · simp [tellsJob.level_eq]
      · intro step _
        have tells : TellsStep (job.entryOf step) (job.stepNotice step) :=
          Job.tellsStep_entryOf_iff.mpr rfl
        simp [tells.level_eq]

end

/-- The outcome of reconciling a reported job is the one that accounts for itself, and what it warns
of is that the job was missed. -/
theorem reconcileJob_eq_iff_accounts (workflow : Workflow) (record : JobRecord) :
    (∀ outcome, reconcileJob workflow record = outcome ↔ Accounts workflow record outcome) ∧
    ((reconcileJob workflow record).notices.filter fun notice => notice.level = .warn) =
      if (reconcileJob workflow record).value.isNone then
        [.jobNotDefined workflow.name record.name]
      else [] := by
  have accounts := accounts_reconcileJob workflow record
  refine ⟨fun outcome => ⟨?_, Accounts.reconcileJob_eq⟩, accounts.warnings_eq⟩
  rintro rfl
  exact accounts

example :
    let step : Step := ⟨⟨none, none, none, some "cargo test", none, []⟩, 5, ⟨none, "ci.yml"⟩⟩
    let job : Job := { Job.bare "test" none none with steps := [step] }
    (reconcileJob ⟨⟨none, none, [], []⟩, 1, [job], ⟨none, "ci.yml"⟩⟩
        ⟨"test", [⟨"Set up job", 1, none⟩, ⟨"Run cargo test", 2, none⟩, ⟨"Deploy", 3, none⟩]⟩
      ).notices =
      [.jobMatched .exactId "test" "test", .pseudoStep "Set up job",
        .stepMatched "Run cargo test" 5, .noStepMatched "Deploy"] := by
  decide

end RunAtlas
