import Mathlib.Data.List.Infix
import RunAtlas.Model.Workflow
import RunAtlas.Proofs.Ranking
import RunAtlas.Proofs.Text.LiteralText

/-!
# The rank of a job for a run-time name

The three rules by which a job answers to a run-time name give it a rank.  Matching a name finds the
job that comes first among those of the best rank, so that an exact hit always beats a guess, and
jobs that interact do so through their ranks alone.
-/

namespace RunAtlas

open Text

namespace Job

/-! ## Names of instances -/

/-- What the instances of a named matrix job share is the literal text of the declared name. -/
theorem isLiteralText_iff_eq_literalName {name : String} {literal : List Char} :
    IsLiteralText name.toList literal ↔ literal = literalName name :=
  isLiteralText_iff

/-- The literal text of a declared name stands somewhere in a run-time name. -/
def OccursLiterally (name rawName : String) : Prop :=
  ∃ literal, IsLiteralText name.toList literal ∧ literal <:+: rawName.toList

theorem occursLiterally_iff {name rawName : String} :
    OccursLiterally name rawName ↔ literalName name <:+: rawName.toList := by
  unfold OccursLiterally
  simp only [isLiteralText_iff_eq_literalName, exists_eq_left]

/-- A run-time name reads as that of an instance of the job.  The job has to be declared for many
instances; without a declared name its id has to stand at the start of the run-time name, and with
one the literal text of the declared name has to stand somewhere in it. -/
def HasInstanceName (job : Job) (rawName : String) : Prop :=
  job.isMatrix = true ∧
    match job.name? with
    | none => job.id.toList <+: rawName.toList
    | some name => OccursLiterally name rawName

theorem mayInstantiate_iff {job : Job} {rawName : String} :
    job.mayInstantiate rawName = true ↔ job.HasInstanceName rawName := by
  unfold mayInstantiate HasInstanceName
  rw [Bool.and_eq_true]
  apply and_congr_right
  intro _
  cases job.name? with
  | none =>
      rw [startsWith_iff]
      exact exists_congr fun rest => eq_comm
  | some name =>
      rw [occursIn_iff]
      refine Iff.trans ?_ occursLiterally_iff.symm
      exact exists_congr fun front => exists_congr fun back => eq_comm

instance (job : Job) (rawName : String) : Decidable (job.HasInstanceName rawName) :=
  decidable_of_iff _ mayInstantiate_iff

/-! ## Ranks -/

/-- The rank of a job for a run-time name: its id is the best hit, then its declared name, then the
name of an instance. -/
def rank? (rawName : String) (job : Job) : Option Nat :=
  if job.id = rawName then some 1
  else if job.name? = some rawName then some 2
  else if job.HasInstanceName rawName then some 3
  else none

/-- The rules as conditions on jobs. -/
def rules (rawName : String) : List (Job → Bool) :=
  JobRule.all.map fun rule => rule.accepts rawName

theorem rankFrom_rules (rawName : String) : rankFrom 1 (rules rawName) = rank? rawName := by
  funext job
  simp [rules, JobRule.all, rankFrom, JobRule.accepts, rank?, mayInstantiate_iff]

theorem value_matchName_eq (rawName : String) (jobs : List Job) :
    (matchName jobs rawName).value = firstByRules (rules rawName) jobs := by
  have each (rule : JobRule) :
      Option.map Prod.snd ((jobs.find? (rule.accepts rawName)).map (rule, ·)) =
        jobs.find? (rule.accepts rawName) := by
    cases jobs.find? (rule.accepts rawName) <;> rfl
  rw [value_matchName, named?, find?, firstByRules, rules, List.map_findSome?, List.findSome?_map]
  congr 1
  funext rule
  exact each rule

/-- A run-time name refers to one of the jobs. -/
theorem mem_of_matchName {jobs : List Job} {rawName : String} {job : Job}
    (found : (matchName jobs rawName).value = some job) : job ∈ jobs := by
  rw [value_matchName_eq] at found
  exact mem_of_firstByRules found

/-- Matching finds the best job: the one that comes first among those of the best rank.  Nothing is
found exactly when no job has a rank.  So the answer on two lists is the better of the two answers,
only the jobs with a rank matter, and in another order a job of the same rank is found. -/
theorem matchName_isBest (rawName : String) :
    (∀ (jobs : List Job) (job : Job),
      (matchName jobs rawName).value = some job ↔
        ∃ position, IsBest (rank? rawName) jobs position job) ∧
    (∀ jobs : List Job,
      (matchName jobs rawName).value = none ↔ ∀ job ∈ jobs, job.rank? rawName = none) ∧
    (∀ front back : List Job,
      (matchName (front ++ back) rawName).value =
        preferred (rank? rawName) (matchName front rawName).value
          (matchName back rawName).value) ∧
    (∀ jobs kept : List Job,
      (kept.filter fun job => (job.rank? rawName).isSome) =
          (jobs.filter fun job => (job.rank? rawName).isSome) →
        (matchName kept rawName).value = (matchName jobs rawName).value) ∧
    (∀ jobs others : List Job, jobs.Perm others →
      (matchName others rawName).value.map (rank? rawName) =
        (matchName jobs rawName).value.map (rank? rawName)) := by
  simp only [value_matchName_eq, ← rankFrom_rules rawName]
  refine ⟨fun jobs job => firstByRules_eq_some_iff 1, fun jobs => firstByRules_eq_none_iff 1,
    firstByRules_append 1 _, ?_, fun jobs others => rank_firstByRules_of_perm 1⟩
  intro jobs kept sameRanked
  rw [← firstByRules_filter 1 _ kept, sameRanked, firstByRules_filter 1]

/-- A job without steps, declared once or for many instances. -/
def bare (id : String) (name : Option String) (strategy : Option StrategyDefinition) : Job where
  id := id
  definition := ⟨name, none, none, none, none, strategy, []⟩
  startLine := 1
  steps := []
  origin := ⟨none, "ci.yml"⟩

theorem matchName_buildDocs :
    let matrix := some ⟨some (.mapping []), []⟩
    let build := bare "build" none matrix
    let lint := bare "b" (some "docs") none
    let pages := bare "pages" (some "$\x7b\x7b matrix.os \x7d\x7d docs") matrix
    let docs := bare "build-docs" none none
    [build, lint, pages, docs].map (rank? "build-docs") = [some 3, none, some 3, some 1] ∧
    (∃ position, IsBest (rank? "build-docs") [build, lint, pages, docs] position docs) ∧
    (∃ position, IsBest (rank? "build-docs") [pages, lint, build] position pages) ∧
    (matchName [lint] "build-docs").value = none ∧
    (matchName ([pages] ++ [build, docs]) "build-docs").value = some docs ∧
    (matchName [build, docs] "build-docs").value = some docs ∧
    [pages, lint, build].Perm [build, lint, pages] ∧
    (matchName [build, lint, pages] "build-docs").value.map (rank? "build-docs") =
      some (some 3) := by
  intro matrix build lint pages docs
  obtain ⟨best, unranked, joined, thinned, reordered⟩ := matchName_isBest "build-docs"
  have ranks : [build, lint, pages, docs].map (rank? "build-docs") =
      [some 3, none, some 3, some 1] := by
    decide +kernel
  obtain ⟨-, lintRank, pagesRank, -⟩ : _ ∧ _ ∧ _ ∧ _ := by
    simpa only [List.map_cons, List.map_nil, List.cons.injEq, and_true] using ranks
  have foundDocs : (matchName [build, lint, pages, docs] "build-docs").value = some docs := rfl
  have foundPages : (matchName [pages, lint, build] "build-docs").value = some pages := rfl
  have behind : (matchName [build, docs] "build-docs").value = some docs := rfl
  have permuted : [pages, lint, build].Perm [build, lint, pages] :=
    (List.reverse_perm [pages, lint, build]).symm
  refine ⟨ranks, (best _ _).mp foundDocs, (best _ _).mp foundPages, ?_, ?_, ?_, permuted, ?_⟩
  · rw [unranked]
    exact List.forall_mem_singleton.mpr lintRank
  · rw [joined, behind]
    rfl
  · rw [thinned [build, lint, docs] [build, docs] rfl]
    rfl
  · rw [reordered _ _ permuted, foundPages, Option.map_some, pagesRank]

end Job

end RunAtlas
