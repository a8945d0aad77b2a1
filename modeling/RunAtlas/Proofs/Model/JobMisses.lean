import RunAtlas.Model.Reconciliation
import RunAtlas.Proofs.Model.MatrixNames
import RunAtlas.Proofs.Text.Wildcards

/-!
# Names that refer to no job

A run-time name refers to a job only if it shares something with the job, with one exception.  If
nothing is left of the declared name of a matrix job without its placeholders, then what is left
occurs in every run-time name, and the job answers to all of them.  A workflow without such a job
misses every name that shares nothing with its jobs, the empty one included.
-/

namespace RunAtlas

open Text

namespace Job

/-- A run-time name shares something with a job that it can refer to. -/
inductive Shares (job : Job) (rawName : String) : Prop
  /-- It is the id. -/
  | id (same : job.id = rawName)
  /-- It is the declared name. -/
  | name (same : job.name? = some rawName)
  /-- It begins with the id of a matrix job that declares no name. -/
  | lead (leads : job.LeadsById rawName)
  /-- It has the literal text of the declared name of a matrix job, and that is not empty. -/
  | part {declared : String} {literal : List Char} (matrix : job.isMatrix = true)
      (named : job.name? = some declared) (isLiteral : IsLiteralText declared.toList literal)
      (something : literal ≠ []) (occurs : literal <:+: rawName.toList)

/-- The declared name of a matrix job consists of placeholders and blanks alone. -/
def IsWildcard (job : Job) : Prop :=
  job.isMatrix = true ∧ ∃ name, job.name? = some name ∧ MadeOfPlaceholders name.toList

theorem literalName_eq_nil_iff {name : String} :
    literalName name = [] ↔ MadeOfPlaceholders name.toList :=
  trimBlank_removePlaceholders_eq_nil_iff

/-- A wildcard answers to every run-time name. -/
theorem IsWildcard.hasInstanceName {job : Job} (wildcard : job.IsWildcard) (rawName : String) :
    job.HasInstanceName rawName := by
  obtain ⟨matrix, name, named, made⟩ := wildcard
  rw [hasInstanceName_of_named named, literalName_eq_nil_iff.mpr made]
  exact ⟨matrix, List.nil_infix⟩

/-- A wildcard shares nothing with a run-time name but its id or its declared name. -/
theorem IsWildcard.not_shares {job : Job} {rawName : String} (wildcard : job.IsWildcard)
    (notId : job.id ≠ rawName) (notName : job.name? ≠ some rawName) : ¬ job.Shares rawName := by
  obtain ⟨-, name, named, made⟩ := wildcard
  intro shares
  cases shares with
  | id same => exact notId same
  | name same => exact notName same
  | lead leads =>
      obtain ⟨-, unnamed, -⟩ := leads
      rw [named] at unnamed
      contradiction
  | part _ declared isLiteral something _ =>
      rw [named] at declared
      cases declared
      rw [isLiteralText_iff_eq_literalName, literalName_eq_nil_iff.mpr made] at isLiteral
      exact something isLiteral

/-- The run-time name of an instance shares something with its job, if that is no wildcard. -/
theorem HasInstanceName.shares_or_isWildcard {job : Job} {rawName : String}
    (named : job.HasInstanceName rawName) : job.Shares rawName ∨ job.IsWildcard := by
  rcases hasInstanceName_iff.mp named with
    leads | ⟨matrix, name, named, literal, isLiteral, occurs⟩
  · exact .inl (.lead leads)
  · by_cases nothing : literal = []
    · rw [isLiteralText_iff_eq_literalName, nothing, eq_comm, literalName_eq_nil_iff] at isLiteral
      exact .inr ⟨matrix, name, named, isLiteral⟩
    · exact .inl (.part matrix named isLiteral nothing occurs)

/-- Only jobs without a rank for a run-time name are passed over. -/
theorem rank?_eq_none_iff {job : Job} {rawName : String} :
    job.rank? rawName = none ↔ ¬ job.Shares rawName ∧ ¬ job.IsWildcard := by
  constructor
  · intro unranked
    unfold rank? at unranked
    split_ifs at unranked with notId notName notInstance
    constructor
    · intro shares
      cases shares with
      | id same => exact notId same
      | name same => exact notName same
      | lead leads => exact notInstance (hasInstanceName_iff.mpr (.inl leads))
      | part matrix named isLiteral _ occurs =>
          apply notInstance
          exact hasInstanceName_iff.mpr (.inr ⟨matrix, _, named, _, isLiteral, occurs⟩)
    · intro wildcard
      exact notInstance (wildcard.hasInstanceName rawName)
  · rintro ⟨apart, noWildcard⟩
    unfold rank?
    rw [if_neg fun same => apart (.id same), if_neg fun same => apart (.name same), if_neg]
    intro named
    rcases named.shares_or_isWildcard with shares | wildcard
    · exact apart shares
    · exact noWildcard wildcard

/-- The empty name shares nothing with a job that has an id and declares no empty name. -/
theorem not_shares_empty {job : Job} (someId : job.id ≠ "") (someName : job.name? ≠ some "") :
    ¬ job.Shares "" := by
  intro shares
  cases shares with
  | id same => exact someId same
  | name same => exact someName same
  | lead leads =>
      obtain ⟨-, -, leads⟩ := leads
      exact someId (String.toList_eq_nil_iff.mp (List.prefix_nil.mp leads))
  | part _ _ _ something occurs => exact something (List.infix_nil.mp occurs)

theorem value_matchName_eq_none_iff {jobs : List Job} {rawName : String} :
    (matchName jobs rawName).value = none ↔
      ∀ job ∈ jobs, ¬ job.Shares rawName ∧ ¬ job.IsWildcard := by
  rw [value_matchName_eq, firstByRules_eq_none_iff 1, rankFrom_rules]
  exact forall₂_congr fun job _ => rank?_eq_none_iff

/-- What a run-time name refers to shares something with it or is a wildcard. -/
theorem shares_or_isWildcard_of_matchName {jobs : List Job} {rawName : String} {job : Job}
    (found : (matchName jobs rawName).value = some job) :
    job.Shares rawName ∨ job.IsWildcard := by
  rw [value_matchName_eq] at found
  obtain ⟨rank, ranked⟩ := exists_rankFrom_of_firstByRules 1 found
  rw [rankFrom_rules] at ranked
  by_contra neither
  rw [not_or] at neither
  rw [rank?_eq_none_iff.mpr neither] at ranked
  contradiction

end Job

/-- A reported job that a workflow does not define is missed, and the miss is told. -/
theorem reconcileJob_of_missed {workflow : Workflow} {record : JobRecord}
    (missed : (workflow.matchJob record.name).value = none) :
    (reconcileJob workflow record).value = none ∧
      Notice.jobNotDefined workflow.name record.name ∈ (reconcileJob workflow record).notices := by
  unfold reconcileJob
  rw [Traced.value_bind, Traced.notices_bind, missed]
  constructor
  · rfl
  · apply List.mem_append_right
    exact List.mem_singleton.mpr rfl

namespace Workflow

/-- Provided that ids and declared names are not empty, a run-time name refers only to a job with
which it shares something or to a wildcard, and it refers to none exactly if there are neither.  So
the empty name refers to no job exactly if no job is a wildcard; and without one a reported job that
shares nothing with the jobs of the workflow is missed. -/
theorem matchJob_shares {workflow : Workflow} (someIds : ∀ job ∈ workflow.jobs, job.id ≠ "")
    (someNames : ∀ job ∈ workflow.jobs, job.name? ≠ some "") :
    (∀ rawName job, (workflow.matchJob rawName).value = some job →
      job.Shares rawName ∨ job.IsWildcard) ∧
    (∀ rawName, (workflow.matchJob rawName).value = none ↔
      ∀ job ∈ workflow.jobs, ¬ job.Shares rawName ∧ ¬ job.IsWildcard) ∧
    ((workflow.matchJob "").value = none ↔ ∀ job ∈ workflow.jobs, ¬ job.IsWildcard) ∧
    (∀ record : JobRecord,
      (∀ job ∈ workflow.jobs, ¬ job.Shares record.name ∧ ¬ job.IsWildcard) →
        (reconcileJob workflow record).value = none ∧
          Notice.jobNotDefined workflow.name record.name ∈
            (reconcileJob workflow record).notices) := by
  have missed_iff (rawName : String) : (workflow.matchJob rawName).value = none ↔
      ∀ job ∈ workflow.jobs, ¬ job.Shares rawName ∧ ¬ job.IsWildcard :=
    Job.value_matchName_eq_none_iff
  refine ⟨?_, missed_iff, ?_, ?_⟩
  · intro rawName job found
    exact Job.shares_or_isWildcard_of_matchName found
  · rw [missed_iff]
    apply forall₂_congr
    intro job member
    exact and_iff_right (Job.not_shares_empty (someIds job member) (someNames job member))
  · intro record apart
    exact reconcileJob_of_missed ((missed_iff record.name).mpr apart)

theorem matchJob_deploy :
    let build := Job.bare "build" none (some ⟨some (.mapping []), []⟩)
    let test := Job.bare "test" (some (Job.template "Test " " matrix.rust " ""))
      (some ⟨some (.mapping []), []⟩)
    let workflow : Workflow := ⟨⟨none, none, [], []⟩, 1, [build, test], ⟨none, "ci.yml"⟩⟩
    (∃ job, (workflow.matchJob "Test nightly").value = some job ∧ job.id = "test" ∧
      (job.Shares "Test nightly" ∨ job.IsWildcard)) ∧
    (∀ job ∈ workflow.jobs, ¬ job.IsWildcard) ∧
    (workflow.matchJob "").value = none ∧
    (reconcileJob workflow ⟨"deploy", []⟩).value = none ∧
    Notice.jobNotDefined "ci.yml" "deploy" ∈ (reconcileJob workflow ⟨"deploy", []⟩).notices := by
  intro build test workflow
  have someIds : ∀ job ∈ workflow.jobs, job.id ≠ "" := by
    simp [workflow, build, test, Job.bare]
  have someNames : ∀ job ∈ workflow.jobs, job.name? ≠ some "" := by
    rw [List.forall_mem_cons, List.forall_mem_singleton]
    decide
  obtain ⟨shared, missed_iff, emptyMissed_iff, reconciled⟩ := matchJob_shares someIds someNames
  have missed : (workflow.matchJob "deploy").value.isNone = true := by decide
  have apart := (missed_iff "deploy").mp (Option.isNone_iff_eq_none.mp missed)
  have noWildcard : ∀ job ∈ workflow.jobs, ¬ job.IsWildcard :=
    fun job member => (apart job member).2
  have found : (workflow.matchJob "Test nightly").value.map (·.id) = some "test" := by decide
  obtain ⟨job, found, isTest⟩ := Option.map_eq_some_iff.mp found
  exact ⟨⟨job, found, isTest, shared "Test nightly" job found⟩, noWildcard,
    emptyMissed_iff.mpr noWildcard, reconciled ⟨"deploy", []⟩ apart⟩

/-- A workflow of one matrix job whose declared name is a placeholder. -/
def wildcardFile : SourceFile :=
  ⟨"jobs:\n  test:\n    name: $\x7b\x7b matrix.os \x7d\x7d\n    strategy:\n      matrix: a\n",
    ⟨none, "ci.yml"⟩⟩

theorem matchJob_deployToWildcard :
    ∃ workflow test, ofFile wildcardFile = .ok workflow ∧ workflow.jobs = [test] ∧
      (∀ job ∈ workflow.jobs, job.id ≠ "") ∧ (∀ job ∈ workflow.jobs, job.name? ≠ some "") ∧
      (workflow.matchJob "deploy").value = some test ∧ ¬ test.Shares "deploy" ∧
      (workflow.matchJob "").value = some test := by
  have reported : (ofFile wildcardFile).toOption.map (fun workflow =>
      workflow.jobs.map fun job => (job.id, job.isMatrix, job.name?)) =
        some [("test", true, some (Job.template "" " matrix.os " ""))] := by
    decide +kernel
  obtain ⟨workflow, built, jobs⟩ := Except.exists_of_map_toOption reported
  simp only [List.map_eq_cons_iff, List.map_eq_nil_iff, Prod.mk.injEq] at jobs
  obtain ⟨test, _, shape, ⟨testId, testMatrix, testName⟩, rfl⟩ := jobs
  have nothing : Job.literalName (Job.template "" " matrix.os " "") = [] := by decide
  have wildcard : test.IsWildcard :=
    ⟨testMatrix, _, testName, Job.literalName_eq_nil_iff.mp nothing⟩
  have answers (rawName : String) (notId : "test" ≠ rawName)
      (notName : Job.template "" " matrix.os " "" ≠ rawName) :
      (workflow.matchJob rawName).value = some test := by
    have declared : test ∈ workflow.jobs := by simp [shape]
    have noId : ∀ job ∈ workflow.jobs, job.id ≠ rawName := by simpa [shape, testId] using notId
    have noName : ∀ job ∈ workflow.jobs, job.name? ≠ some rawName := by
      simpa [shape, testName] using notName
    have alone : ∀ job ∈ workflow.jobs, job.HasInstanceName rawName → job = test := by
      simp [shape]
    rw [matchJob, Job.value_matchName_of_alone declared noId noName alone,
      if_pos (wildcard.hasInstanceName rawName)]
  refine ⟨workflow, test, built, shape, ?_, ?_, answers "deploy" (by decide) (by decide), ?_,
    answers "" (by decide) (by decide)⟩
  · simp [shape, testId]
  · rw [shape, List.forall_mem_singleton, testName]
    decide
  · apply wildcard.not_shares
    · rw [testId]
      decide
    · rw [testName]
      decide

end Workflow

end RunAtlas
