import RunAtlas.Model.Job
import RunAtlas.Proofs.Text.Ends

/-!
# Paths of local references

A local reference of a step or a job becomes a path relative to the repository: its leads are
removed, and from the directory of an action the trailing slashes as well.  What is left never
begins with a lead.  It is a proper relative path exactly if the reference has an entry, which is to
say that another character than a slash follows its leads (`localPaths_isRelative_iff`).  Without an
entry it is empty or absolute.
-/

namespace RunAtlas

open Text

/-- A path that is relative to the repository and does not lead to the repository itself. -/
structure IsRelativePath (path : String) : Prop where
  nonempty : path ≠ ""
  not_absolute : ¬ ['/'] <+: path.toList
  not_led : ¬ localLead <+: path.toList

/-- Such a path that is written as a directory is. -/
structure IsRelativeDirectory (path : String) : Prop extends IsRelativePath path where
  not_slashed : ¬ ['/'] <:+ path.toList

/-- Behind the leads of a reference stands another character than a slash. -/
def HasEntry (reference : String) : Prop :=
  ∃ count first rest, IsBehindLeads localLead reference.toList count (first :: rest) ∧ first ≠ '/'

theorem localLead_ne_nil : localLead ≠ [] := by
  decide

/-- A reference without its leads is what remains behind them. -/
theorem exists_isBehindLeads_dropLeads (reference : String) :
    ∃ count, IsBehindLeads localLead reference.toList count
      (dropLeads localLead reference.toList) :=
  (dropLeads_eq_iff localLead_ne_nil).mp rfl

section Behind

variable {reference path : String} {count slashes : Nat}
variable (behind : IsBehindLeads localLead reference.toList count
  (path.toList ++ List.replicate slashes '/'))
include behind

/-- What remains behind the leads, less some slashes, is a relative path exactly if it begins with
something else than a slash. -/
theorem isRelativePath_iff_hasEntry : IsRelativePath path ↔ HasEntry reference := by
  constructor
  · rintro ⟨nonempty, not_absolute, -⟩
    cases chars : path.toList with
    | nil => exact absurd (String.toList_eq_nil_iff.mp chars) nonempty
    | cons first others =>
        rw [chars] at behind not_absolute
        refine ⟨count, first, others ++ List.replicate slashes '/', behind, ?_⟩
        rintro rfl
        exact not_absolute ⟨others, rfl⟩
  · rintro ⟨otherCount, first, others, behindToo, differs⟩
    have begins := (behind.unique behindToo).2
    cases chars : path.toList with
    | nil =>
        rw [chars, List.nil_append] at begins
        have slash : first ∈ List.replicate slashes '/' := by
          rw [begins]
          exact List.mem_cons_self
        exact absurd (List.eq_of_mem_replicate slash) differs
    | cons head tail =>
        rw [chars, List.cons_append, List.cons.injEq] at begins
        obtain ⟨rfl, -⟩ := begins
        constructor
        case nonempty =>
          rintro rfl
          contradiction
        case not_absolute =>
          rw [chars, List.cons_prefix_cons]
          exact fun same => differs same.1.symm
        case not_led => exact behind.not_prefix_of_append

end Behind

namespace Step

variable {step : Step} {directory : String}

theorem compositePaths_eq_nil_iff : step.compositePaths = [] ↔ step.isComposite = false := by
  unfold compositePaths isComposite compositeDirectory?
  cases step.compositeReference? <;> simp

theorem compositePaths_of_compositeDirectory? (found : step.compositeDirectory? = some directory) :
    step.compositePaths = [directory ++ "/action.yml", directory ++ "/action.yaml"] := by
  rw [compositePaths, found]

/-- The directory of an action is what remains of its reference behind its leads, less trailing
slashes. -/
theorem exists_reference_of_compositeDirectory?
    (found : step.compositeDirectory? = some directory) :
    ∃ reference count slashes, step.definition.uses = some reference ∧
      IsBehindLeads localLead reference.toList count
        (directory.toList ++ List.replicate slashes '/') ∧
      ¬ ['/'] <:+ directory.toList := by
  obtain ⟨reference, isReference, rfl⟩ := Option.map_eq_some_iff.mp found
  have uses := (Option.filter_eq_some_iff.mp isReference).1
  obtain ⟨count, behind⟩ := exists_isBehindLeads_dropLeads reference
  obtain ⟨slashes, shape⟩ := exists_dropTrailing_append '/' (dropLeads localLead reference.toList)
  refine ⟨reference, count, slashes, uses, ?_, ?_⟩
  · rw [String.toList_ofList, ← shape]
    exact behind
  · rw [String.toList_ofList]
    exact not_suffix_dropTrailing '/' _

end Step

/-- The path of a called workflow is what remains of its reference behind its leads. -/
theorem Job.exists_reference_of_reusablePath? {job : Job} {path : String}
    (found : job.reusablePath? = some path) :
    ∃ reference count, job.definition.uses = some reference ∧
      IsBehindLeads localLead reference.toList count path.toList := by
  obtain ⟨reference, isReference, rfl⟩ := Option.map_eq_some_iff.mp found
  have uses := (Option.filter_eq_some_iff.mp isReference).1
  obtain ⟨count, behind⟩ := exists_isBehindLeads_dropLeads reference
  refine ⟨reference, count, uses, ?_⟩
  rw [String.toList_ofList]
  exact behind

/-- The directory of a composite action and the path of a called workflow are what remains of the
reference behind its leads, the directory without trailing slashes.  They never begin with a lead,
and they are relative paths exactly if the reference has an entry.  A step has candidates for the
file of its action exactly if it uses one, namely two in its directory. -/
theorem localPaths_isRelative_iff (step : Step) (job : Job) :
    (∀ directory, step.compositeDirectory? = some directory →
      ∃ reference count slashes, step.definition.uses = some reference ∧
        IsBehindLeads localLead reference.toList count
          (directory.toList ++ List.replicate slashes '/') ∧
        ¬ localLead <+: directory.toList ∧ ¬ ['/'] <:+ directory.toList ∧
        (IsRelativeDirectory directory ↔ HasEntry reference) ∧
        step.compositePaths = [directory ++ "/action.yml", directory ++ "/action.yaml"]) ∧
    (step.compositePaths = [] ↔ step.isComposite = false) ∧
    ∀ path, job.reusablePath? = some path →
      ∃ reference count, job.definition.uses = some reference ∧
        IsBehindLeads localLead reference.toList count path.toList ∧
        ¬ localLead <+: path.toList ∧ (IsRelativePath path ↔ HasEntry reference) := by
  refine ⟨?_, Step.compositePaths_eq_nil_iff, ?_⟩
  · intro directory found
    obtain ⟨reference, count, slashes, uses, behind, notSlashed⟩ :=
      Step.exists_reference_of_compositeDirectory? found
    have relative := isRelativePath_iff_hasEntry behind
    refine ⟨reference, count, slashes, uses, behind, behind.not_prefix_of_append, notSlashed, ?_,
      Step.compositePaths_of_compositeDirectory? found⟩
    constructor
    · intro directory
      exact relative.mp directory.toIsRelativePath
    · intro entry
      exact ⟨relative.mpr entry, notSlashed⟩
  · intro path found
    obtain ⟨reference, count, uses, behind⟩ := Job.exists_reference_of_reusablePath? found
    have unslashed : IsBehindLeads localLead reference.toList count
        (path.toList ++ List.replicate 0 '/') := by
      simpa using behind
    exact ⟨reference, count, uses, behind, behind.stops, isRelativePath_iff_hasEntry unslashed⟩

/-- A step that uses an action and declares nothing else. -/
def Step.usingAction (reference : String) : Step :=
  ⟨⟨none, none, some reference, none, none, []⟩, 4, ⟨none, "ci.yml"⟩⟩

/-- A job that calls a workflow and declares nothing else. -/
def Job.callingWorkflow (reference : String) : Job where
  id := "call"
  definition := ⟨none, none, some reference, none, none, none, []⟩
  startLine := 2
  steps := []
  origin := ⟨none, "ci.yml"⟩

/-- Leads in a row and trailing slashes are removed alike. -/
theorem localPaths_setupCache :
    (∃ directory, (Step.usingAction "././.github/setup-cache//").compositeDirectory? =
        some directory ∧ directory = ".github/setup-cache" ∧ IsRelativeDirectory directory) ∧
    (Step.usingAction "././.github/setup-cache//").compositePaths ≠ [] ∧
    ∃ path, (Job.callingWorkflow "./.github/lint.yml").reusablePath? = some path ∧
      path = ".github/lint.yml" ∧ IsRelativePath path := by
  obtain ⟨directories, paths, calls⟩ := localPaths_isRelative_iff
    (Step.usingAction "././.github/setup-cache//") (Job.callingWorkflow "./.github/lint.yml")
  refine ⟨⟨".github/setup-cache", rfl, rfl, ?_⟩, ?_, ⟨".github/lint.yml", rfl, rfl, ?_⟩⟩
  · obtain ⟨reference, count, slashes, ⟨⟩, behind, -, -, relative, -⟩ := directories _ rfl
    exact relative.mpr ⟨_, _, _, behind, by decide⟩
  · rw [Ne, paths]
    decide
  · obtain ⟨reference, count, ⟨⟩, behind, -, relative⟩ := calls _ rfl
    exact relative.mpr ⟨_, _, _, behind, by decide⟩

/-- Without an entry the directory of an action is absolute or empty, and so is the path of a
workflow. -/
theorem localPaths_withoutEntry :
    (Step.usingAction ".//x").compositeDirectory? = some "/x" ∧
    (Step.usingAction "././").compositeDirectory? = some "" ∧
    (Step.usingAction "././").compositePaths = ["/action.yml", "/action.yaml"] ∧
    (Job.callingWorkflow ".//x").reusablePath? = some "/x" ∧
    (Job.callingWorkflow "./").reusablePath? = some "" ∧
    ¬ IsRelativePath "/x" ∧ ¬ IsRelativePath "" := by
  refine ⟨rfl, rfl, rfl, rfl, rfl, ?_, ?_⟩
  · intro relative
    exact relative.not_absolute ⟨['x'], rfl⟩
  · intro relative
    exact relative.nonempty rfl

end RunAtlas
