import RunAtlas.Proofs.Definition.Plans
import RunAtlas.Proofs.Model.Pairing
import RunAtlas.Proofs.Model.Stages
import RunAtlas.Proofs.Yaml.Value

/-!
# Workflows without jobs

A workflow has to have a job.  A mapping of jobs without entries is refused by its shape, before it
is decoded.  Decoding accepts more shapes as a mapping without entries: null, and tagged values that
are null or an empty mapping without their tags.  So a workflow that is accepted has a job exactly
if its jobs do not have one of these shapes, and every value that is neither null nor tagged is
judged by the check as it is decoded.
-/

namespace RunAtlas

open Yaml Decode

namespace Yaml.Value

/-- A value is read as a mapping without entries. -/
def HoldsNoEntry (value : Value) : Prop :=
  value.untag = .null ∨ value.untag = .mapping []

/-- A value does not show by its shape that it is a mapping. -/
def IsDisguised (value : Value) : Prop :=
  value = .null ∨ ∃ tag inner, value = .tagged tag inner

theorem not_isDisguised_mapping (entries : List (Value × Value)) :
    ¬ (mapping entries).IsDisguised := by
  rintro (isNull | ⟨_, _, isTagged⟩) <;> contradiction

/-- Only the empty mapping holds no entry without a disguise. -/
theorem HoldsNoEntry.eq_mapping_nil {value : Value} (holdsNone : value.HoldsNoEntry)
    (plain : ¬ value.IsDisguised) : value = .mapping [] := by
  cases value with
  | null => exact absurd (.inl rfl) plain
  | tagged tag inner => exact absurd (.inr ⟨tag, inner, rfl⟩) plain
  | mapping entries =>
      rcases holdsNone with isNull | isEmpty
      · contradiction
      · exact isEmpty
  | _ => rcases holdsNone with isNull | isEmpty <;> contradiction

theorem toEntries_eq_nil_iff {expected : String} {value : Value} {pairs : List (Value × Value)}
    (read : value.toEntries expected = .ok pairs) : pairs = [] ↔ value.HoldsNoEntry := by
  unfold toEntries at read
  unfold HoldsNoEntry
  split at read
  · rename_i entries isMapping
    cases read
    rw [isMapping, mapping.injEq]
    simp
  · rename_i isNull
    cases read
    simp [isNull]
  · contradiction

end Yaml.Value

namespace Decode

theorem assign_ne_nil {α : Type} (done : List (String × α)) (name : String) (value : α) :
    assign done name value ≠ [] := by
  cases done with
  | nil => simp [assign]
  | cons first rest =>
      rw [assign]
      split <;> simp

/-- Every entry leaves a named value, be it in the place of an earlier one. -/
theorem namedValues_eq_nil_iff {α : Type} {read : Value → Except Mismatch α}
    {done result : List (String × α)} {pairs : List (Value × Value)}
    (decoded : namedValues read done pairs = .ok result) :
    result = [] ↔ done = [] ∧ pairs = [] := by
  induction pairs generalizing done with
  | nil =>
      cases decoded
      simp
  | cons pair rest ih =>
      simp only [namedValues, Except.bind_eq_ok_iff] at decoded
      rcases decoded with ⟨name, -, value, -, remaining⟩
      rw [ih remaining]
      simp [assign_ne_nil]

theorem toNamedValues_eq_nil_iff {α : Type} {read : Value → Except Mismatch α} {value : Value}
    {result : List (String × α)} (decoded : toNamedValues read value = .ok result) :
    result = [] ↔ value.HoldsNoEntry := by
  rw [toNamedValues, Except.bind_eq_ok_iff] at decoded
  rcases decoded with ⟨pairs, read, decoded⟩
  rw [namedValues_eq_nil_iff decoded, ← Value.toEntries_eq_nil_iff read]
  exact and_iff_right rfl

end Decode

namespace WorkflowDefinition

theorem ofRoot_of_empty {root : List (Value × Value)}
    (empty : Value.valueOf? root "jobs" = some (.mapping [])) :
    ofRoot root = .error .noJobs := by
  rw [ofRoot, empty]

/-- The jobs that a text is accepted with are those of the value under their name: none exactly if
that holds no entry. -/
theorem exists_jobs_of_ofText {text : String} {workflow : WorkflowDefinition}
    (accepted : ofText text = .ok workflow) :
    ∃ root jobs, readRoot text = .ok root ∧ Value.valueOf? root "jobs" = some jobs ∧
      (workflow.jobs = [] ↔ jobs.HoldsNoEntry) ∧ (¬ jobs.IsDisguised → workflow.jobs ≠ []) := by
  rcases ofText_eq_ok_iff.mp accepted with ⟨root, jobs, read, found, notEmpty, decoded⟩
  have none_iff := toNamedValues_eq_nil_iff (jobs_of_decode_of_valueOf? found decoded)
  refine ⟨root, jobs, read, found, none_iff, ?_⟩
  intro plain nothing
  exact notEmpty ((none_iff.mp nothing).eq_mapping_nil plain)

end WorkflowDefinition

namespace Workflow

/-- A built workflow has as many jobs as its definition. -/
theorem length_jobs_of_pair {origin : Origin} {definition : WorkflowDefinition}
    {outline : FileOutline} {workflow : Workflow}
    (paired : pair origin definition outline = .ok workflow) :
    workflow.definition = definition ∧ workflow.jobs.length = definition.jobs.length := by
  rcases pair_eq_ok_iff.mp paired with ⟨jobs, pairedJobs, rfl⟩
  rcases pairJobs_eq_ok_iff.mp pairedJobs with ⟨node, -, agree, rfl⟩
  refine ⟨rfl, ?_⟩
  rw [List.length_zipWith, agree.length_eq, Nat.min_self]

theorem exists_definition_of_ofFile {file : SourceFile} {workflow : Workflow}
    (built : ofFile file = .ok workflow ∨ reusableOfFile file = .ok workflow) :
    WorkflowDefinition.ofText file.text = .ok workflow.definition ∧
      workflow.jobs.length = workflow.definition.jobs.length := by
  rcases exists_pair_of_ofFile built with ⟨definition, outline, read, -, paired⟩
  rcases length_jobs_of_pair paired with ⟨rfl, lengths⟩
  exact ⟨read, lengths⟩

/-- A text that is accepted as a workflow, and a workflow that is built from a file, have no job
exactly if the value of their jobs holds no entry.  This takes a value that is null or tagged, since
one that shows to hold no entry is refused. -/
theorem jobs_eq_nil_iff (text : String) (file : SourceFile) :
    (∀ definition, WorkflowDefinition.ofText text = .ok definition →
      ∃ root jobs, readRoot text = .ok root ∧ Value.valueOf? root "jobs" = some jobs ∧
        (definition.jobs = [] ↔ jobs.HoldsNoEntry) ∧
        (¬ jobs.IsDisguised → definition.jobs ≠ [])) ∧
    (∀ workflow, ofFile file = .ok workflow ∨ reusableOfFile file = .ok workflow →
      ∃ root jobs, readRoot file.text = .ok root ∧ Value.valueOf? root "jobs" = some jobs ∧
        (workflow.jobs = [] ↔ jobs.HoldsNoEntry) ∧
        (¬ jobs.IsDisguised → workflow.definition.jobs ≠ [] ∧ workflow.jobs ≠ [])) ∧
    (∀ root jobs, readRoot text = .ok root → Value.valueOf? root "jobs" = some jobs →
      jobs.HoldsNoEntry → ¬ jobs.IsDisguised →
        WorkflowDefinition.ofText text = .error .noJobs) := by
  refine ⟨?_, ?_, ?_⟩
  · intro definition accepted
    exact WorkflowDefinition.exists_jobs_of_ofText accepted
  · intro workflow built
    rcases exists_definition_of_ofFile built with ⟨accepted, lengths⟩
    rcases WorkflowDefinition.exists_jobs_of_ofText accepted with
      ⟨root, jobs, read, found, none_iff, some_of_plain⟩
    have same : workflow.jobs = [] ↔ workflow.definition.jobs = [] := by
      rw [← List.length_eq_zero_iff, lengths, List.length_eq_zero_iff]
    refine ⟨root, jobs, read, found, same.trans none_iff, ?_⟩
    intro plain
    exact ⟨some_of_plain plain, mt same.mp (some_of_plain plain)⟩
  · intro root jobs read found holdsNone plain
    rw [holdsNone.eq_mapping_nil plain] at found
    rw [WorkflowDefinition.ofText, read]
    exact WorkflowDefinition.ofRoot_of_empty found

/-- A file with one job. -/
def oneJobFile : SourceFile :=
  ⟨"jobs:\n  lint:\n    steps: []\n", ⟨none, "ci.yml"⟩⟩

theorem jobs_oneJobFile :
    (∃ workflow, ofFile oneJobFile = .ok workflow ∧ workflow.jobs ≠ []) ∧
    WorkflowDefinition.ofText "jobs: \x7b\x7d\n" = .error .noJobs := by
  obtain ⟨-, ofFiles, refused⟩ := jobs_eq_nil_iff "jobs: \x7b\x7d\n" oneJobFile
  constructor
  · have builds : (ofFile oneJobFile).toOption.map (fun _ => ()) = some () := by decide +kernel
    have reads : (readRoot oneJobFile.text).toOption.map (Value.valueOf? · "jobs") =
        some (some (.mapping [(.string "lint", .mapping [(.string "steps", .sequence [])])])) := by
      decide +kernel
    rcases Except.exists_of_map_toOption builds with ⟨workflow, built, -⟩
    rcases Except.exists_of_map_toOption reads with ⟨root, read, found⟩
    rcases ofFiles workflow (.inl built) with ⟨_, jobs, sameRead, sameFound, -, some_job⟩
    cases read.symm.trans sameRead
    cases found.symm.trans sameFound
    exact ⟨workflow, built, (some_job (Value.not_isDisguised_mapping _)).2⟩
  · have reads : (readRoot "jobs: \x7b\x7d\n").toOption.map (Value.valueOf? · "jobs") =
        some (some (.mapping [])) := by
      decide +kernel
    rcases Except.exists_of_map_toOption reads with ⟨root, read, found⟩
    exact refused root (.mapping []) read found (.inr rfl) (Value.not_isDisguised_mapping [])

/-- A file whose jobs are null. -/
def nullJobsFile : SourceFile :=
  ⟨"jobs:\n", ⟨none, "ci.yml"⟩⟩

theorem jobs_nullJobsFile :
    (∃ definition, WorkflowDefinition.ofText nullJobsFile.text = .ok definition ∧
      definition.jobs = []) ∧
    (∃ workflow, ofFile nullJobsFile = .ok workflow ∧ workflow.jobs = []) := by
  constructor
  · have reported : (WorkflowDefinition.ofText nullJobsFile.text).toOption.map
        (·.jobs.isEmpty) = some true := by
      decide +kernel
    rcases Except.exists_of_map_toOption reported with ⟨definition, accepted, empty⟩
    exact ⟨definition, accepted, List.isEmpty_iff.mp empty⟩
  · have reported : (ofFile nullJobsFile).toOption.map (·.jobs.isEmpty) = some true := by
      decide +kernel
    rcases Except.exists_of_map_toOption reported with ⟨workflow, built, empty⟩
    exact ⟨workflow, built, List.isEmpty_iff.mp empty⟩

end Workflow

end RunAtlas
