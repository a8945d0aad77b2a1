import RunAtlas.Proofs.Model.JobRank
import RunAtlas.Proofs.Outcome
import RunAtlas.Proofs.Text.Placeholders

/-!
# The names of the instances of matrix jobs

An instance of a matrix job runs under the id of the job, followed by the values that tell it apart,
or under the declared name of the job, where something stands for the placeholder.  The name leads
back to the job by heuristics.  They compare an id as a bare prefix, so that an earlier job is found
instead if the name begins with its id as well; and they look for the rest of a declared name as one
piece, so that nothing need be found if the placeholder stands between two other parts.
-/

namespace RunAtlas

open Text

namespace Job

/-- The name under which an instance of a job without a declared name runs. -/
def instanceName (job : Job) (values : String) : String :=
  job.id ++ " (" ++ values ++ ")"

/-- A declared name with one placeholder. -/
def template (front expression back : String) : String :=
  String.ofList (front.toList ++ placeholder expression.toList ++ back.toList)

/-- A run-time name begins with the id of the job, which is declared for many instances and without
a name. -/
def LeadsById (job : Job) (rawName : String) : Prop :=
  job.isMatrix = true ∧ job.name? = none ∧ job.id.toList <+: rawName.toList

/-- A run-time name has the literal text of the declared name of the job, which is declared for many
instances. -/
def OccursByName (job : Job) (rawName : String) : Prop :=
  job.isMatrix = true ∧ ∃ name, job.name? = some name ∧ OccursLiterally name rawName

theorem hasInstanceName_iff {job : Job} {rawName : String} :
    job.HasInstanceName rawName ↔ job.LeadsById rawName ∨ job.OccursByName rawName := by
  unfold HasInstanceName LeadsById OccursByName
  cases job.name? <;> simp

theorem hasInstanceName_of_named {job : Job} {rawName name : String}
    (named : job.name? = some name) :
    job.HasInstanceName rawName ↔
      job.isMatrix = true ∧ literalName name <:+: rawName.toList := by
  rw [HasInstanceName, named, ← occursLiterally_iff]

/-- The run-time name of an instance begins with the id of its job. -/
theorem leadsById_instanceName {job : Job} (matrix : job.isMatrix = true)
    (unnamed : job.name? = none) (values : String) :
    job.LeadsById (job.instanceName values) := by
  refine ⟨matrix, unnamed, ?_⟩
  simp [instanceName, List.append_assoc]

/-- An id without a blank that leads the run-time name of an instance is a prefix of the id of its
job: the first blank of the name follows that id. -/
theorem leads_instanceName_iff {id : String} (noBlank : ' ' ∉ id.toList) (job : Job)
    (values : String) :
    id.toList <+: (job.instanceName values).toList ↔ id.toList <+: job.id.toList := by
  have shape : (job.instanceName values).toList =
      job.id.toList ++ ' ' :: ('(' :: values.toList ++ [')']) := by
    simp [instanceName]
  rw [shape]
  constructor
  · exact leads_of_leads_append noBlank
  · intro leads
    exact leads.trans (List.prefix_append _ _)

/-- A name that is neither the id nor the declared name of a job leads to the first job of which it
may name an instance. -/
theorem value_matchName_eq_find? {jobs : List Job} {rawName : String}
    (noId : ∀ job ∈ jobs, job.id ≠ rawName)
    (noName : ∀ job ∈ jobs, job.name? ≠ some rawName) :
    (matchName jobs rawName).value = jobs.find? fun job => job.mayInstantiate rawName := by
  have byId : jobs.find? (JobRule.exactId.accepts rawName) = none := by
    rw [List.find?_eq_none]
    intro job member accepted
    exact noId job member (beq_iff_eq.mp accepted)
  have byName : jobs.find? (JobRule.declaredName.accepts rawName) = none := by
    rw [List.find?_eq_none]
    intro job member accepted
    exact noName job member (beq_iff_eq.mp accepted)
  rw [value_matchName, named?_eq, byId, byName, Option.none_or, Option.none_or]
  rfl

/-- If named jobs do not answer to such a name either, it leads to the first job without a declared
name whose id it begins with. -/
theorem value_matchName_eq_some_iff {jobs : List Job} {rawName : String}
    (noId : ∀ job ∈ jobs, job.id ≠ rawName)
    (noName : ∀ job ∈ jobs, job.name? ≠ some rawName)
    (noPart : ∀ job ∈ jobs, ¬ job.OccursByName rawName) (found : Job) :
    (matchName jobs rawName).value = some found ↔
      ∃ before after, jobs = before ++ found :: after ∧ found.LeadsById rawName ∧
        ∀ job ∈ before, ¬ job.LeadsById rawName := by
  have accepted_iff : ∀ job ∈ jobs,
      (job.mayInstantiate rawName = true ↔ job.LeadsById rawName) := by
    intro job member
    rw [mayInstantiate_iff, hasInstanceName_iff]
    exact or_iff_left (noPart job member)
  rw [value_matchName_eq_find? noId noName, List.find?_eq_some_iff_append]
  constructor
  · rintro ⟨accepted, before, after, rfl, refused⟩
    refine ⟨before, after, rfl, (accepted_iff found (by simp)).mp accepted, ?_⟩
    intro job inBefore leads
    have accepted := (accepted_iff job (List.mem_append_left _ inBefore)).mpr leads
    exact absurd (refused job inBefore) (by simp [accepted])
  · rintro ⟨before, after, rfl, leads, refused⟩
    refine ⟨(accepted_iff found (by simp)).mpr leads, before, after, rfl, ?_⟩
    intro job inBefore
    have refusal := mt (accepted_iff job (List.mem_append_left _ inBefore)).mp
      (refused job inBefore)
    simpa using refusal

/-- If only one job can answer to such a name, matching tells whether it does. -/
theorem value_matchName_of_alone {jobs : List Job} {rawName : String} {job : Job}
    (declared : job ∈ jobs) (noId : ∀ other ∈ jobs, other.id ≠ rawName)
    (noName : ∀ other ∈ jobs, other.name? ≠ some rawName)
    (alone : ∀ other ∈ jobs, other.HasInstanceName rawName → other = job) :
    (matchName jobs rawName).value = if job.HasInstanceName rawName then some job else none := by
  rw [value_matchName_eq_find? noId noName]
  split
  · rename_i qualifies
    cases result : jobs.find? fun other => other.mayInstantiate rawName with
    | none =>
        have refused := List.find?_eq_none.mp result job declared
        exact absurd (mayInstantiate_iff.mpr qualifies) refused
    | some found =>
        have accepted := List.find?_some result
        rw [alone found (List.mem_of_find?_eq_some result) (mayInstantiate_iff.mp accepted)]
  · rename_i unqualified
    rw [List.find?_eq_none]
    intro other member accepted
    have qualifies := mayInstantiate_iff.mp accepted
    rw [alone other member qualifies] at qualifies
    exact unqualified qualifies

/-- What remains of a declared name with one placeholder is what stood around the placeholder,
joined and trimmed. -/
theorem literalName_template {front expression back : String}
    (plainFront : ¬ opening <:+: front.toList) (plainBack : ¬ opening <:+: back.toList)
    (unclosed : ¬ closing <:+: expression.toList)
    (settled : expression.toList.getLast? ≠ some '}') :
    literalName (template front expression back) = trimBlank (front.toList ++ back.toList) := by
  rw [literalName, template, String.toList_ofList,
    removePlaceholders_template plainFront plainBack unclosed settled]

end Job

namespace Workflow

/-- The run-time name of an instance of a job without a declared name, if it is the id or the name
of no job and no named job answers to it, leads to the first job without a declared name whose id
it begins with.  That is the job itself if no earlier id does; and ids without a blank begin the
run-time name exactly if they begin the id of the job. -/
theorem matchJob_instanceName {workflow : Workflow} {earlier later : List Job} {job : Job}
    {values : String} (declared : workflow.jobs = earlier ++ job :: later)
    (matrix : job.isMatrix = true) (unnamed : job.name? = none)
    (noId : ∀ other ∈ workflow.jobs, other.id ≠ job.instanceName values)
    (noName : ∀ other ∈ workflow.jobs, other.name? ≠ some (job.instanceName values))
    (noPart : ∀ other ∈ workflow.jobs, ¬ other.OccursByName (job.instanceName values)) :
    (∀ found,
      (workflow.matchJob (job.instanceName values)).value = some found ↔
        ∃ before after, workflow.jobs = before ++ found :: after ∧
          found.LeadsById (job.instanceName values) ∧
          ∀ other ∈ before, ¬ other.LeadsById (job.instanceName values)) ∧
    ((∀ other ∈ earlier, ¬ other.LeadsById (job.instanceName values)) →
      (workflow.matchJob (job.instanceName values)).value = some job) ∧
    (∀ other : Job, ' ' ∉ other.id.toList →
      (other.LeadsById (job.instanceName values) ↔
        other.isMatrix = true ∧ other.name? = none ∧ other.id.toList <+: job.id.toList)) := by
  have found_iff := Job.value_matchName_eq_some_iff noId noName noPart
  refine ⟨found_iff, ?_, ?_⟩
  · intro refused
    apply (found_iff job).mpr
    exact ⟨earlier, later, declared, Job.leadsById_instanceName matrix unnamed values, refused⟩
  · intro other noBlank
    rw [Job.LeadsById, Job.leads_instanceName_iff noBlank]

/-- A workflow of two jobs without declared names, where the id of the second begins with that of
the first. -/
def docsFile : SourceFile :=
  ⟨"jobs:\n  build:\n    strategy:\n      matrix: a\n" ++
      "  build-docs:\n    strategy:\n      matrix: a\n",
    ⟨none, "ci.yml"⟩⟩

theorem ofFile_docsFile :
    ∃ workflow build docs, ofFile docsFile = .ok workflow ∧ workflow.jobs = [build, docs] ∧
      (build.id = "build" ∧ build.isMatrix = true ∧ build.name? = none) ∧
      (docs.id = "build-docs" ∧ docs.isMatrix = true ∧ docs.name? = none) := by
  have reported : (ofFile docsFile).toOption.map (fun workflow =>
      workflow.jobs.map fun job => (job.id, job.isMatrix, job.name?)) =
        some [("build", true, none), ("build-docs", true, none)] := by
    decide +kernel
  obtain ⟨workflow, built, jobs⟩ := Except.exists_of_map_toOption reported
  simp only [List.map_eq_cons_iff, List.map_eq_nil_iff, Prod.mk.injEq] at jobs
  obtain ⟨build, _, shape, ofBuild, docs, _, rfl, ofDocs, rfl⟩ := jobs
  exact ⟨workflow, build, docs, built, shape, ofBuild, ofDocs⟩

theorem matchJob_buildLinux :
    ∃ workflow build docs, ofFile docsFile = .ok workflow ∧ workflow.jobs = [build, docs] ∧
      build.instanceName "linux" = "build (linux)" ∧
      (workflow.matchJob "build (linux)").value = some build := by
  obtain ⟨workflow, build, docs, built, jobs, ⟨buildId, buildMatrix, buildName⟩,
    docsId, docsMatrix, docsName⟩ := ofFile_docsFile
  have rawName : build.instanceName "linux" = "build (linux)" := by
    rw [Job.instanceName, buildId]
    rfl
  have declared : workflow.jobs = [] ++ build :: [docs] := jobs
  refine ⟨workflow, build, docs, built, jobs, rawName, ?_⟩
  rw [← rawName]
  refine (matchJob_instanceName declared buildMatrix buildName ?_ ?_ ?_).2.1 ?_
  · simp [jobs, rawName, buildId, docsId]
  · simp [jobs, buildName, docsName]
  · simp [jobs, Job.OccursByName, buildName, docsName]
  · simp

theorem matchJob_buildDocsLinux :
    ∃ workflow build docs, ofFile docsFile = .ok workflow ∧ workflow.jobs = [build, docs] ∧
      docs.isMatrix = true ∧ docs.name? = none ∧
      docs.instanceName "linux" = "build-docs (linux)" ∧
      (∀ job ∈ workflow.jobs, job.id ≠ "build-docs (linux)") ∧
      (∀ job ∈ workflow.jobs, job.name? ≠ some "build-docs (linux)") ∧
      (∀ job ∈ workflow.jobs, ¬ job.OccursByName "build-docs (linux)") ∧
      (workflow.matchJob "build-docs (linux)").value = some build ∧ build ≠ docs := by
  obtain ⟨workflow, build, docs, built, jobs, ⟨buildId, buildMatrix, buildName⟩,
    docsId, docsMatrix, docsName⟩ := ofFile_docsFile
  have noId : ∀ job ∈ workflow.jobs, job.id ≠ "build-docs (linux)" := by
    simp [jobs, buildId, docsId]
  have noName : ∀ job ∈ workflow.jobs, job.name? ≠ some "build-docs (linux)" := by
    simp [jobs, buildName, docsName]
  have noPart : ∀ job ∈ workflow.jobs, ¬ job.OccursByName "build-docs (linux)" := by
    simp [jobs, Job.OccursByName, buildName, docsName]
  have leads : build.LeadsById "build-docs (linux)" := by
    refine ⟨buildMatrix, buildName, ?_⟩
    rw [buildId]
    decide
  have found : (workflow.matchJob "build-docs (linux)").value = some build := by
    apply (Job.value_matchName_eq_some_iff noId noName noPart build).mpr
    exact ⟨[], [docs], jobs, leads, by simp⟩
  refine ⟨workflow, build, docs, built, jobs, docsMatrix, docsName, ?_, noId, noName, noPart, found,
    ?_⟩
  · rw [Job.instanceName, docsId]
    rfl
  · rintro rfl
    simp [buildId] at docsId

/-- The run-time name of an instance of a job whose declared name has one placeholder, if it is the
id or the name of no job and no other job answers to it, leads to the job exactly if it has what
stands around the placeholder, joined and trimmed, as one piece; else it leads to none.  It always
does if one of the two parts is blank.  It never does if neither is blank and what stands for the
placeholder is foreign to both. -/
theorem matchJob_template {workflow : Workflow} {job : Job}
    {front expression back between : String} (declared : job ∈ workflow.jobs)
    (matrix : job.isMatrix = true)
    (named : job.name? = some (Job.template front expression back))
    (plainFront : ¬ opening <:+: front.toList) (plainBack : ¬ opening <:+: back.toList)
    (unclosed : ¬ closing <:+: expression.toList)
    (settled : expression.toList.getLast? ≠ some '}')
    (noId : ∀ other ∈ workflow.jobs, other.id ≠ front ++ between ++ back)
    (noName : ∀ other ∈ workflow.jobs, other.name? ≠ some (front ++ between ++ back))
    (alone : ∀ other ∈ workflow.jobs,
      other.HasInstanceName (front ++ between ++ back) → other = job) :
    ((workflow.matchJob (front ++ between ++ back)).value = some job ↔
      trimBlank (front.toList ++ back.toList) <:+: (front ++ between ++ back).toList) ∧
    ((workflow.matchJob (front ++ between ++ back)).value = none ↔
      ¬ trimBlank (front.toList ++ back.toList) <:+: (front ++ between ++ back).toList) ∧
    (IsBlankText front.toList ∨ IsBlankText back.toList →
      (workflow.matchJob (front ++ between ++ back)).value = some job) ∧
    (¬ IsBlankText front.toList → ¬ IsBlankText back.toList → between ≠ "" →
      (∀ c ∈ between.toList, c ∉ front.toList ++ back.toList) →
        (workflow.matchJob (front ++ between ++ back)).value = none) := by
  have shape : (front ++ between ++ back).toList =
      front.toList ++ between.toList ++ back.toList := by
    simp
  have instance_iff : job.HasInstanceName (front ++ between ++ back) ↔
      trimBlank (front.toList ++ back.toList) <:+: (front ++ between ++ back).toList := by
    rw [Job.hasInstanceName_of_named named,
      Job.literalName_template plainFront plainBack unclosed settled]
    exact and_iff_right matrix
  have answer : (workflow.matchJob (front ++ between ++ back)).value =
      if job.HasInstanceName (front ++ between ++ back) then some job else none :=
    Job.value_matchName_of_alone declared noId noName alone
  rw [answer, ← instance_iff]
  refine ⟨by simp, by simp, ?_, ?_⟩
  · intro blank
    rw [if_pos]
    rw [instance_iff, shape]
    exact trimBlank_append_occurs blank between.toList
  · intro notBlankFront notBlankBack something foreign
    rw [if_neg]
    rw [instance_iff, shape]
    exact not_trimBlank_append_occurs notBlankFront notBlankBack (by simpa using something) foreign

/-- A workflow of one job whose declared name has a placeholder in its middle. -/
def testFile : SourceFile :=
  ⟨"jobs:\n  test:\n    name: Test $\x7b\x7b matrix.rust \x7d\x7d on linux\n" ++
      "    strategy:\n      matrix: a\n",
    ⟨none, "ci.yml"⟩⟩

theorem ofFile_testFile :
    ∃ workflow test, ofFile testFile = .ok workflow ∧ workflow.jobs = [test] ∧ test.id = "test" ∧
      test.isMatrix = true ∧
      test.name? = some (Job.template "Test " " matrix.rust " " on linux") := by
  have reported : (ofFile testFile).toOption.map (fun workflow =>
      workflow.jobs.map fun job => (job.id, job.isMatrix, job.name?)) =
        some [("test", true, some (Job.template "Test " " matrix.rust " " on linux"))] := by
    decide +kernel
  obtain ⟨workflow, built, jobs⟩ := Except.exists_of_map_toOption reported
  simp only [List.map_eq_cons_iff, List.map_eq_nil_iff, Prod.mk.injEq] at jobs
  obtain ⟨test, _, shape, ofTest, rfl⟩ := jobs
  exact ⟨workflow, test, built, shape, ofTest⟩

theorem matchJob_lintClippy :
    let matrix := some ⟨some (.mapping []), []⟩
    let lint := Job.bare "lint" (some (Job.template "Lint " " matrix.tool " "")) matrix
    let test := Job.bare "test" (some (Job.template "Test " " matrix.rust " " on linux")) matrix
    let workflow : Workflow := ⟨⟨none, none, [], []⟩, 1, [lint, test], ⟨none, "ci.yml"⟩⟩
    (workflow.matchJob "Lint clippy").value = some lint ∧
    (workflow.matchJob "Test 1.85 on linux").value = none := by
  intro matrix lint test workflow
  have ofLint : ∀ other ∈ workflow.jobs, other.HasInstanceName "Lint clippy" → other = lint := by
    have refused : ¬ test.HasInstanceName "Lint clippy" := by decide
    simp [workflow, refused]
  have ofTest : ∀ other ∈ workflow.jobs,
      other.HasInstanceName "Test 1.85 on linux" → other = test := by
    have refused : ¬ lint.HasInstanceName "Test 1.85 on linux" := by decide
    simp [workflow, refused]
  constructor
  · have declared : lint ∈ workflow.jobs := by simp [workflow]
    obtain ⟨-, -, found, -⟩ := @matchJob_template workflow lint "Lint " " matrix.tool " "" "clippy"
      declared rfl rfl (by decide) (by decide) (by decide) (by decide) (by decide) (by decide)
      ofLint
    exact found (.inr (by decide))
  · have declared : test ∈ workflow.jobs := by simp [workflow]
    obtain ⟨-, -, -, missed⟩ := @matchJob_template workflow test "Test " " matrix.rust " " on linux"
      "1.85" declared rfl rfl (by decide) (by decide) (by decide) (by decide) (by decide)
      (by decide) ofTest
    exact missed (by decide) (by decide) (by decide) (by simp)

theorem matchJob_testOnLinux :
    ∃ workflow test, ofFile testFile = .ok workflow ∧ workflow.jobs = [test] ∧
      test.isMatrix = true ∧
      test.name? = some (Job.template "Test " " matrix.rust " " on linux") ∧
      ¬ opening <:+: "Test ".toList ∧ ¬ opening <:+: " on linux".toList ∧
      ¬ closing <:+: " matrix.rust ".toList ∧ " matrix.rust ".toList.getLast? ≠ some '}' ∧
      "Test " ++ "1.85" ++ " on linux" = "Test 1.85 on linux" ∧
      (∀ job ∈ workflow.jobs, job.id ≠ "Test 1.85 on linux") ∧
      (∀ job ∈ workflow.jobs, job.name? ≠ some "Test 1.85 on linux") ∧
      (∀ job ∈ workflow.jobs, job.HasInstanceName "Test 1.85 on linux" → job = test) ∧
      (workflow.matchJob "Test 1.85 on linux").value = none := by
  obtain ⟨workflow, test, built, jobs, testId, testMatrix, testName⟩ := ofFile_testFile
  have noId : ∀ job ∈ workflow.jobs, job.id ≠ "Test 1.85 on linux" := by
    simp [jobs, testId]
  have noName : ∀ job ∈ workflow.jobs, job.name? ≠ some "Test 1.85 on linux" := by
    rw [jobs, List.forall_mem_singleton, testName]
    decide
  have alone : ∀ job ∈ workflow.jobs, job.HasInstanceName "Test 1.85 on linux" → job = test := by
    simp [jobs]
  have refused : ¬ test.HasInstanceName "Test 1.85 on linux" := by
    rw [Job.hasInstanceName_of_named testName, not_and]
    intro _
    decide
  have missed : (workflow.matchJob "Test 1.85 on linux").value = none := by
    have declared : test ∈ workflow.jobs := by simp [jobs]
    exact (Job.value_matchName_of_alone declared noId noName alone).trans (if_neg refused)
  exact ⟨workflow, test, built, jobs, testMatrix, testName, by decide, by decide, by decide,
    by decide, rfl, noId, noName, alone, missed⟩

end Workflow

end RunAtlas
