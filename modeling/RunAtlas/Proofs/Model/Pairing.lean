import Mathlib.Data.List.Forall2
import RunAtlas.Model.Pairing
import RunAtlas.Proofs.Outcome

/-!
# What can be paired, and with what

Pairing goes by position.  Definitions and outlines can be paired exactly when the ids are the
texts of the keys, in order, and every job has as many steps as its node has; whatever is paired
takes its definition and its line from the same position.  As the ids of definitions are distinct,
no other key of the outline reads as the id of a job, so that pairing by position is pairing by key.
-/

namespace RunAtlas

open Text

namespace Node

/-- The text of the key of an entry; empty if the key is no scalar. -/
def keyText (entry : Node × Node) : String :=
  entry.1.scalarText?.getD ""

/-- The items of the steps of a job; none if it has no entry for them. -/
def stepItems (job : Node) : List Node :=
  ((job.get? "steps").map items).getD []

end Node

namespace JobDefinition

/-- The steps of a job; none if it has no entry for them. -/
def stepList (job : JobDefinition) : List StepDefinition :=
  job.steps.getD []

end JobDefinition

open Node

namespace JobOutline

@[simp]
theorem id_ofEntry (entry : Node × Node) : (ofEntry entry).id = keyText entry :=
  rfl

@[simp]
theorem node_ofEntry (entry : Node × Node) : (ofEntry entry).node = entry.2 :=
  rfl

theorem stepNodes_eq (job : JobOutline) : job.stepNodes = job.node.stepItems :=
  rfl

end JobOutline

/-- A definition and an entry of an outline can be paired. -/
structure Agrees (declared : String × JobDefinition) (entry : Node × Node) : Prop where
  id_eq : declared.1 = keyText entry
  length_eq : declared.2.stepList.length = entry.2.stepItems.length

/-- The step made of a definition and an item of an outline. -/
def pairedStep (origin : Origin) (index : LineIndex) (step : StepDefinition) (item : Node) : Step :=
  ⟨step, index.lineOf item.offset, origin⟩

/-- The job made of a definition and an entry of an outline. -/
def pairedJob (origin : Origin) (index : LineIndex) (declared : String × JobDefinition)
    (entry : Node × Node) : Job where
  id := declared.1
  definition := declared.2
  startLine := index.lineOf entry.1.offset
  steps := List.zipWith (pairedStep origin index) declared.2.stepList entry.2.stepItems
  origin := origin

variable {origin : Origin} {index : LineIndex}

/-- Steps are paired with the items of a node exactly when they are as many. -/
theorem pairSteps_eq_ok_iff {declared : List StepDefinition} {job : JobOutline}
    {steps : List Step} :
    pairSteps origin index declared job = .ok steps ↔
      declared.length = job.node.stepItems.length ∧
        List.zipWith (pairedStep origin index) declared job.node.stepItems = steps := by
  unfold pairSteps
  rw [JobOutline.stepNodes_eq]
  by_cases lengths : declared.length = job.node.stepItems.length
  · simp only [lengths, if_true, Except.ok.injEq, true_and]
    rfl
  · simp [lengths]

/-- A job is paired with an entry exactly when they agree. -/
theorem pairJob_eq_ok_iff {declared : String × JobDefinition} {entry : Node × Node} {job : Job} :
    pairJob origin index declared.1 declared.2 (.ofEntry entry) = .ok job ↔
      Agrees declared entry ∧ pairedJob origin index declared entry = job := by
  unfold pairJob
  by_cases same : declared.1 = keyText entry
  · rw [JobOutline.id_ofEntry, if_pos same]
    simp only [Except.bind_eq_ok_iff, Except.pure_eq_ok_iff, pairSteps_eq_ok_iff,
      JobOutline.node_ofEntry]
    constructor
    · rintro ⟨steps, ⟨lengths, rfl⟩, rfl⟩
      exact ⟨⟨same, lengths⟩, rfl⟩
    · rintro ⟨⟨-, lengths⟩, rfl⟩
      exact ⟨_, ⟨lengths, rfl⟩, rfl⟩
  · rw [JobOutline.id_ofEntry, if_neg same]
    simp only [reduceCtorEq, false_iff]
    rintro ⟨⟨agrees, -⟩, -⟩
    exact same agrees

/-- Jobs are paired with as many entries exactly when they agree one by one. -/
theorem pairJobsInOrder_eq_ok_iff {declared : List (String × JobDefinition)}
    {entries : List (Node × Node)} (lengths : declared.length = entries.length) {jobs : List Job} :
    pairJobsInOrder origin index declared (entries.map .ofEntry) = .ok jobs ↔
      List.Forall₂ Agrees declared entries ∧
        List.zipWith (pairedJob origin index) declared entries = jobs := by
  induction declared generalizing entries jobs with
  | nil =>
      cases entries with
      | nil => simp [pairJobsInOrder]
      | cons entry entries => simp at lengths
  | cons first rest ih =>
      cases entries with
      | nil => simp at lengths
      | cons entry entries =>
          have ih := @ih entries (by simpa using lengths)
          simp only [List.map_cons, pairJobsInOrder, Except.bind_eq_ok_iff, Except.pure_eq_ok_iff,
            pairJob_eq_ok_iff, ih, List.forall₂_cons, List.zipWith_cons_cons]
          constructor
          · rintro ⟨_, ⟨agrees, rfl⟩, _, ⟨agree, rfl⟩, rfl⟩
            exact ⟨⟨agrees, agree⟩, rfl⟩
          · rintro ⟨⟨agrees, agree⟩, rfl⟩
            exact ⟨_, ⟨agrees, rfl⟩, _, ⟨agree, rfl⟩, rfl⟩

/-- Jobs are paired with the entries of an outline exactly when they agree one by one. -/
theorem pairJobs_eq_ok_iff {outline : FileOutline} {declared : List (String × JobDefinition)}
    {jobs : List Job} :
    pairJobs origin outline declared = .ok jobs ↔
      ∃ node, outline.root.get? "jobs" = some node ∧ List.Forall₂ Agrees declared node.entries ∧
        List.zipWith (pairedJob origin outline.index) declared node.entries = jobs := by
  unfold pairJobs FileOutline.jobs
  cases found : outline.root.get? "jobs" with
  | none => simp [bind, Except.bind]
  | some node =>
      by_cases lengths : declared.length = node.entries.length
      · simp [bind, Except.bind, lengths, pairJobsInOrder_eq_ok_iff lengths]
      · simp only [bind, Except.bind, List.length_map, lengths, if_false, reduceCtorEq,
          Option.some.injEq, exists_eq_left', false_iff]
        rintro ⟨agree, -⟩
        exact lengths agree.length_eq

/-- Jobs agree with entries one by one exactly when the ids are the texts of the keys and the jobs
have as many steps as the nodes at their positions. -/
theorem forall₂_agrees_iff {declared : List (String × JobDefinition)}
    {entries : List (Node × Node)} :
    List.Forall₂ Agrees declared entries ↔
      declared.map Prod.fst = entries.map keyText ∧
        ∀ (i : Nat) (job : String × JobDefinition) (entry : Node × Node),
          declared[i]? = some job → entries[i]? = some entry →
            job.2.stepList.length = entry.2.stepItems.length := by
  induction declared generalizing entries with
  | nil => cases entries <;> simp
  | cons first rest ih =>
      cases entries with
      | nil => simp
      | cons entry entries =>
          simp only [List.forall₂_cons, ih, List.map_cons, List.cons.injEq]
          constructor
          · rintro ⟨⟨id, length⟩, ids, lengths⟩
            refine ⟨⟨id, ids⟩, fun i => ?_⟩
            cases i with
            | zero => simpa using length
            | succ i => simpa using lengths i
          · rintro ⟨⟨id, ids⟩, lengths⟩
            exact ⟨⟨id, lengths 0 first entry rfl rfl⟩, ids, fun i => lengths (i + 1)⟩

/-! ## Failures -/

theorem phase_of_pairSteps_eq_error {declared : List StepDefinition} {job : JobOutline}
    {cause : Cause} (failed : pairSteps origin index declared job = .error cause) :
    cause.phase = .pairing := by
  dsimp only [pairSteps] at failed
  split at failed
  · contradiction
  · cases failed
    rfl

theorem phase_of_pairJob_eq_error {id : String} {declared : JobDefinition} {job : JobOutline}
    {cause : Cause} (failed : pairJob origin index id declared job = .error cause) :
    cause.phase = .pairing := by
  unfold pairJob at failed
  split at failed
  · rcases Except.bind_eq_error_iff.mp failed with steps | ⟨steps, -, paired⟩
    · exact phase_of_pairSteps_eq_error steps
    · cases paired
  · cases failed
    rfl

theorem phase_of_pairJobsInOrder_eq_error {declared : List (String × JobDefinition)}
    {outlines : List JobOutline} {cause : Cause}
    (failed : pairJobsInOrder origin index declared outlines = .error cause) :
    cause.phase = .pairing := by
  induction declared generalizing outlines with
  | nil => cases failed
  | cons first rest ih =>
      cases outlines with
      | nil => cases failed
      | cons outline outlines =>
          rw [pairJobsInOrder] at failed
          rcases Except.bind_eq_error_iff.mp failed with job | ⟨job, -, others⟩
          · exact phase_of_pairJob_eq_error job
          · rcases Except.bind_eq_error_iff.mp others with jobs | ⟨jobs, -, paired⟩
            · exact ih jobs
            · cases paired

/-- Whatever goes wrong once the entry of the jobs has been found goes wrong in pairing. -/
theorem phase_of_pairJobs_eq_error {outline : FileOutline}
    {declared : List (String × JobDefinition)} {node : Node} {cause : Cause}
    (found : outline.root.get? "jobs" = some node)
    (failed : pairJobs origin outline declared = .error cause) : cause.phase = .pairing := by
  unfold pairJobs at failed
  rcases Except.bind_eq_error_iff.mp failed with outlines | ⟨outlines, -, paired⟩
  · simp [FileOutline.jobs, found] at outlines
  · split at paired
    · exact phase_of_pairJobsInOrder_eq_error paired
    · cases paired
      rfl

/-- Without an entry for the jobs nothing is paired. -/
theorem pairJobs_of_get?_eq_none {outline : FileOutline}
    (declared : List (String × JobDefinition)) (absent : outline.root.get? "jobs" = none) :
    pairJobs origin outline declared = .error (.missingKey .ast .jobs) := by
  simp [pairJobs, FileOutline.jobs, absent, bind, Except.bind]

/-! ## What is paired -/

/-- Related lists have related elements at the same positions. -/
theorem exists_getElem?_of_forall₂ {α β : Type} {related : α → β → Prop} {firsts : List α}
    {seconds : List β} (all : List.Forall₂ related firsts seconds) {i : Nat} {first : α}
    (found : firsts[i]? = some first) :
    ∃ second, seconds[i]? = some second ∧ related first second := by
  obtain ⟨bound, rfl⟩ := List.getElem?_eq_some_iff.mp found
  have boundSecond : i < seconds.length := all.length_eq ▸ bound
  exact ⟨seconds[i], List.getElem?_eq_getElem boundSecond, all.get bound boundSecond⟩

/-- A job is made of a definition and of an entry at one position. -/
structure Job.PairedWith (index : LineIndex) (declared : String × JobDefinition)
    (entry : Node × Node) (job : Job) : Prop where
  id_eq : job.id = declared.1
  definition_eq : job.definition = declared.2
  keyText_eq : keyText entry = job.id
  startLine_eq : job.startLine = index.lineOf entry.1.offset
  length_eq : job.steps.length = declared.2.stepList.length
  step_eq : ∀ (j : Nat) (step : Step), job.steps[j]? = some step →
    declared.2.stepList[j]? = some step.definition ∧
      ∃ item, entry.2.stepItems[j]? = some item ∧ step.startLine = index.lineOf item.offset

variable (origin index) in
theorem pairedWith_pairedJob {declared : String × JobDefinition} {entry : Node × Node}
    (agrees : Agrees declared entry) :
    (pairedJob origin index declared entry).PairedWith index declared entry where
  id_eq := rfl
  definition_eq := rfl
  keyText_eq := agrees.id_eq.symm
  startLine_eq := rfl
  length_eq := by simp [pairedJob, agrees.length_eq]
  step_eq j step found := by
    obtain ⟨definition, item, foundDefinition, foundItem, rfl⟩ :=
      List.getElem?_zipWith_eq_some.mp found
    exact ⟨foundDefinition, item, foundItem, rfl⟩

/-- Of the entries of an outline with which distinct jobs agree, one reads as the id of each. -/
theorem eq_of_keyText_eq {declared : List (String × JobDefinition)} {entries : List (Node × Node)}
    (distinct : (declared.map Prod.fst).Nodup) (agree : List.Forall₂ Agrees declared entries)
    {i k : Nat} {entry other : Node × Node} (found : entries[i]? = some entry)
    (foundOther : entries[k]? = some other) (same : keyText other = keyText entry) : k = i := by
  rw [(forall₂_agrees_iff.mp agree).1] at distinct
  have bound : k < (entries.map keyText).length := by
    simpa using (List.getElem?_eq_some_iff.mp foundOther).1
  exact (List.getElem?_inj bound distinct).mp (by simp [found, foundOther, same])

/-- Definitions with distinct ids and an outline are paired exactly when the outline has an entry
for the jobs, whose keys read as the ids in order, and each job has as many steps as its node.
Every job then has its definition, its line and its steps from one position, and no other key of
the outline reads as its id.  Without an entry for the jobs that is what is reported; every other
failure is one of pairing. -/
theorem pairJobs_exact (origin : Origin) (outline : FileOutline)
    (declared : List (String × JobDefinition)) (distinct : (declared.map Prod.fst).Nodup) :
    ((∃ jobs, pairJobs origin outline declared = .ok jobs) ↔
      ∃ node, outline.root.get? "jobs" = some node ∧
        declared.map Prod.fst = node.entries.map keyText ∧
        ∀ (i : Nat) (job : String × JobDefinition) (entry : Node × Node),
          declared[i]? = some job → node.entries[i]? = some entry →
            job.2.stepList.length = entry.2.stepItems.length) ∧
    (∀ jobs, pairJobs origin outline declared = .ok jobs →
      jobs.length = declared.length ∧
      ∃ node, outline.root.get? "jobs" = some node ∧
        ∀ (i : Nat) (job : Job), jobs[i]? = some job →
          ∃ definition entry, declared[i]? = some definition ∧ node.entries[i]? = some entry ∧
            job.PairedWith outline.index definition entry ∧
            ∀ (k : Nat) (other : Node × Node), node.entries[k]? = some other →
              keyText other = job.id → k = i) ∧
    (outline.root.get? "jobs" = none →
      pairJobs origin outline declared = .error (.missingKey .ast .jobs)) ∧
    ∀ (node : Node) (cause : Cause), outline.root.get? "jobs" = some node →
      pairJobs origin outline declared = .error cause →
        cause.phase = .pairing ∧ cause.code = "M001" := by
  refine ⟨?_, ?_, pairJobs_of_get?_eq_none declared, ?_⟩
  · simp only [pairJobs_eq_ok_iff, ← forall₂_agrees_iff]
    constructor
    · rintro ⟨jobs, node, found, agree, -⟩
      exact ⟨node, found, agree⟩
    · rintro ⟨node, found, agree⟩
      exact ⟨_, node, found, agree, rfl⟩
  · intro jobs paired
    obtain ⟨node, found, agree, rfl⟩ := pairJobs_eq_ok_iff.mp paired
    refine ⟨by simp [agree.length_eq], node, found, fun i job foundJob => ?_⟩
    obtain ⟨definition, entry, foundDefinition, foundEntry, rfl⟩ :=
      List.getElem?_zipWith_eq_some.mp foundJob
    obtain ⟨_, sameEntry, agrees⟩ := exists_getElem?_of_forall₂ agree foundDefinition
    obtain rfl := Option.some.inj (foundEntry.symm.trans sameEntry)
    have withEntry := pairedWith_pairedJob origin outline.index agrees
    refine ⟨definition, entry, foundDefinition, foundEntry, withEntry, ?_⟩
    intro k other foundOther same
    exact eq_of_keyText_eq distinct agree foundEntry foundOther
      (same.trans withEntry.keyText_eq.symm)
  · intro node cause found failed
    have phase := phase_of_pairJobs_eq_error found failed
    exact ⟨phase, cause.code_eq_pairingCode_iff.mpr phase⟩

/-- A workflow of a job with two steps and of one that is left empty. -/
def buildAndLint : List (String × JobDefinition) :=
  let step : StepDefinition := ⟨none, none, none, none, none, []⟩
  [("build", ⟨none, none, none, none, some [step, step], none, []⟩),
    ("lint", ⟨none, none, none, none, none, none, []⟩)]

/-- The same jobs as they stand in a file, the second of them without a value. -/
def buildAndLintOutline : FileOutline where
  root :=
    .mapping 4
      [(.scalar 0 "jobs",
        .mapping 13
          [(.scalar 8 "build",
            .mapping 24 [(.scalar 19 "steps", .sequence 30 [.scalar 32 "", .mapping 39 []])]),
          (.scalar 43 "lint", .scalar 48 "")])]
  index := ⟨[6, 15, 26, 34, 41]⟩

theorem pairJobs_buildAndLint :
    (buildAndLint.map Prod.fst).Nodup ∧
    (∃ jobs, pairJobs ⟨none, "ci.yml"⟩ buildAndLintOutline buildAndLint = .ok jobs ∧
      jobs.length = 2) ∧
    pairJobs ⟨none, "ci.yml"⟩ ⟨.mapping 0 [], ⟨[]⟩⟩ buildAndLint =
      .error (.missingKey .ast .jobs) ∧
    pairJobs ⟨none, "ci.yml"⟩ buildAndLintOutline buildAndLint.reverse =
      .error (.jobIdentity "lint" "build") ∧
    (Cause.jobIdentity "lint" "build").code = "M001" := by
  have distinct : (buildAndLint.map Prod.fst).Nodup := by decide
  have distinctReverse : (buildAndLint.reverse.map Prod.fst).Nodup := by decide
  have exact := pairJobs_exact ⟨none, "ci.yml"⟩ buildAndLintOutline buildAndLint distinct
  have paired : ∃ jobs, pairJobs ⟨none, "ci.yml"⟩ buildAndLintOutline buildAndLint = .ok jobs := by
    refine exact.1.mpr ⟨_, rfl, rfl, fun i job entry foundJob foundEntry => ?_⟩
    match i with
    | 0 =>
        cases foundJob
        cases foundEntry
        rfl
    | 1 =>
        cases foundJob
        cases foundEntry
        rfl
    | i + 2 => simp [buildAndLint] at foundJob
  have swapped : pairJobs ⟨none, "ci.yml"⟩ buildAndLintOutline buildAndLint.reverse =
      .error (.jobIdentity "lint" "build") := rfl
  refine ⟨distinct, ?_, ?_, swapped, ?_⟩
  · obtain ⟨jobs, jobsPaired⟩ := paired
    exact ⟨jobs, jobsPaired, (exact.2.1 jobs jobsPaired).1⟩
  · exact (pairJobs_exact _ _ buildAndLint distinct).2.2.1 rfl
  · exact ((pairJobs_exact ⟨none, "ci.yml"⟩ buildAndLintOutline _ distinctReverse).2.2.2 _ _ rfl
      swapped).2

end RunAtlas
