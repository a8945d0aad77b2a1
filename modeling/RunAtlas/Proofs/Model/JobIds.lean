import RunAtlas.Proofs.Definition.Plans
import RunAtlas.Proofs.Model.Pairing
import RunAtlas.Proofs.Model.Stages

/-!
# Ids identify jobs

The names under which jobs are read are distinct, even if their keys are tagged, and pairing keeps
the jobs with their names in order.  So an id of a built workflow belongs to one job, which stands
where its key does, and as a run-time name it refers to this job no matter how other jobs are named.
-/

namespace RunAtlas

open Yaml Decode

/-! ## Jobs and what is declared of them -/

namespace Job

/-- What is declared of a job. -/
def declared (job : Job) : String × JobDefinition :=
  (job.id, job.definition)

/-- Of jobs with distinct ids each one is found under its own. -/
theorem find?_id_of_mem {jobs : List Job} (distinct : (jobs.map Job.id).Nodup) {job : Job}
    (member : job ∈ jobs) : jobs.find? (·.id == job.id) = some job := by
  induction jobs with
  | nil => contradiction
  | cons first rest ih =>
      rcases List.nodup_cons.mp distinct with ⟨fresh, distinctRest⟩
      rcases List.mem_cons.mp member with rfl | later
      · exact List.find?_cons_of_pos (beq_self_eq_true _)
      · have other : first.id ≠ job.id := by
          intro same
          rw [same] at fresh
          exact fresh (List.mem_map_of_mem later)
        rw [List.find?_cons_of_neg (by simpa using other)]
        exact ih distinctRest later

/-- The first rule is that of ids, so that no other rule can lead to another job. -/
theorem value_matchName_of_find?_id {jobs : List Job} {id : String} {job : Job}
    (found : jobs.find? (·.id == id) = some job) : (matchName jobs id).value = some job := by
  have byId : jobs.find? (JobRule.exactId.accepts id) = some job := found
  rw [value_matchName, named?_eq, byId]
  rfl

end Job

/-- Jobs that are paired one by one are declared as before. -/
theorem map_declared_pairedJobs (origin : Origin) (index : Text.LineIndex)
    {declared : List (String × JobDefinition)} {entries : List (Node × Node)}
    (agree : List.Forall₂ Agrees declared entries) :
    (List.zipWith (pairedJob origin index) declared entries).map Job.declared = declared := by
  induction agree with
  | nil => rfl
  | cons _ _ ih =>
      rw [List.zipWith_cons_cons, List.map_cons, ih]
      rfl

/-! ## Definitions -/

/-- The jobs of a definition that is accepted have distinct ids. -/
theorem WorkflowDefinition.nodup_ids_of_ofText {text : String} {definition : WorkflowDefinition}
    (accepted : ofText text = .ok definition) : (definition.jobs.map Prod.fst).Nodup := by
  rcases ofText_eq_ok_iff.mp accepted with ⟨root, jobs, -, found, -, decoded⟩
  exact nodup_names_of_toNamedValues (jobs_of_decode_of_valueOf? found decoded)

namespace Workflow

/-! ## Built workflows -/

/-- Pairing keeps the definition, and the jobs as they are declared in it. -/
theorem declared_of_pair {origin : Origin} {definition : WorkflowDefinition}
    {outline : FileOutline} {workflow : Workflow}
    (paired : pair origin definition outline = .ok workflow) :
    workflow.definition = definition ∧ workflow.jobs.map Job.declared = definition.jobs := by
  rcases pair_eq_ok_iff.mp paired with ⟨jobs, pairedJobs, rfl⟩
  rcases pairJobs_eq_ok_iff.mp pairedJobs with ⟨node, -, agree, rfl⟩
  exact ⟨rfl, map_declared_pairedJobs origin outline.index agree⟩

/-- The jobs of a built workflow are those of its definition, in order and under distinct ids. -/
theorem declared_of_ofFile {file : SourceFile} {workflow : Workflow}
    (built : ofFile file = .ok workflow ∨ reusableOfFile file = .ok workflow) :
    workflow.jobs.map Job.declared = workflow.definition.jobs ∧
      (workflow.definition.jobs.map Prod.fst).Nodup := by
  rcases exists_pair_of_ofFile built with ⟨definition, outline, accepted, -, paired⟩
  rcases declared_of_pair paired with ⟨rfl, declared⟩
  exact ⟨declared, WorkflowDefinition.nodup_ids_of_ofText accepted⟩

theorem mem_of_job? {workflow : Workflow} {id : String} {job : Job}
    (found : workflow.job? id = some job) : job ∈ workflow.jobs ∧ job.id = id := by
  unfold job? at found
  have isId := List.find?_some found
  exact ⟨List.mem_of_find?_eq_some found, beq_iff_eq.mp isId⟩

/-- The ids of the jobs of a built workflow are distinct and are the keys of its definition in
order.  A job is found under exactly these keys: the one whose position and definition are those of
the key.  As a run-time name the key refers to the same job. -/
theorem ids_identify {file : SourceFile} {workflow : Workflow}
    (built : ofFile file = .ok workflow ∨ reusableOfFile file = .ok workflow) :
    (workflow.jobs.map Job.id).Nodup ∧
    workflow.jobs.map Job.id = workflow.definition.jobs.map Prod.fst ∧
    (∀ id, (∃ job, workflow.job? id = some job) ↔ id ∈ workflow.definition.jobs.map Prod.fst) ∧
    (∀ (i : Nat) (id : String), (workflow.definition.jobs.map Prod.fst)[i]? = some id →
      ∃ job, workflow.job? id = some job ∧ workflow.jobs[i]? = some job ∧
        workflow.definition.jobs[i]? = some (id, job.definition)) ∧
    ∀ id job, workflow.job? id = some job → (workflow.matchJob id).value = some job := by
  rcases declared_of_ofFile built with ⟨declared, distinct⟩
  have ids : workflow.jobs.map Job.id = workflow.definition.jobs.map Prod.fst := by
    rw [← declared, List.map_map]
    rfl
  have distinctIds : (workflow.jobs.map Job.id).Nodup := by
    rw [ids]
    exact distinct
  have atIndex (i : Nat) (id : String)
      (key : (workflow.definition.jobs.map Prod.fst)[i]? = some id) :
      ∃ job, workflow.job? id = some job ∧ workflow.jobs[i]? = some job ∧
        workflow.definition.jobs[i]? = some (id, job.definition) := by
    rw [← ids, List.getElem?_map, Option.map_eq_some_iff] at key
    rcases key with ⟨job, found, rfl⟩
    refine ⟨job, Job.find?_id_of_mem distinctIds (List.mem_of_getElem? found), found, ?_⟩
    rw [← declared, List.getElem?_map, found]
    rfl
  refine ⟨distinctIds, ids, ?_, atIndex, ?_⟩
  · intro id
    constructor
    · rintro ⟨job, found⟩
      rcases mem_of_job? found with ⟨member, rfl⟩
      rw [← ids]
      exact List.mem_map_of_mem member
    · intro key
      rcases List.mem_iff_getElem?.mp key with ⟨i, key⟩
      rcases atIndex i id key with ⟨job, found, -⟩
      exact ⟨job, found⟩
  · intro id job found
    exact Job.value_matchName_of_find?_id found

/-- A file whose second job is named as the first one, a matrix job whose id begins that of the
third. -/
def shadowedFile : SourceFile :=
  ⟨"jobs:\n  build:\n    strategy:\n      matrix: a\n  docs:\n    name: build-docs\n" ++
    "  build-docs:\n    steps: []\n", ⟨none, "ci.yml"⟩⟩

theorem ids_identify_shadowed :
    ∃ workflow third, ofFile shadowedFile = .ok workflow ∧
      workflow.jobs.map Job.id = ["build", "docs", "build-docs"] ∧
      workflow.jobs[2]? = some third ∧ workflow.job? "build-docs" = some third ∧
      (workflow.matchJob "build-docs").value = some third := by
  have reported : (ofFile shadowedFile).toOption.map (·.definition.jobs.map Prod.fst) =
      some ["build", "docs", "build-docs"] := by
    decide +kernel
  rcases Except.exists_of_map_toOption reported with ⟨workflow, built, keys⟩
  rcases ids_identify (.inl built) with ⟨-, ids, -, atIndex, matched⟩
  have third : (workflow.definition.jobs.map Prod.fst)[2]? = some "build-docs" := by
    rw [keys]
    rfl
  rcases atIndex 2 "build-docs" third with ⟨job, found, isThird, -⟩
  exact ⟨workflow, job, built, ids.trans keys, isThird, found, matched "build-docs" job found⟩

end Workflow

end RunAtlas
