import RunAtlas.Model.CompositeAction
import RunAtlas.Model.Reconciliation
import RunAtlas.Proofs.Outcome

/-!
# Byte-order marks

All models look at a file only through its text, its path and its web address.  A byte-order mark
before a content that has none is no part of the text, so that a file with it and the file without
it cannot be told apart: they fail alike, or their models have the same lines and answer all
questions alike.
-/

namespace RunAtlas

/-! ## Texts and marks -/

/-- A content starts with a byte-order mark. -/
def IsMarked (content : String) : Prop :=
  ∃ rest, content.toList = '\uFEFF' :: rest

namespace SourceFile

/-- The file with a byte-order mark before its content. -/
def marked (file : SourceFile) : SourceFile :=
  { file with content := "\uFEFF" ++ file.content }

theorem text_of_not_isMarked {file : SourceFile} (unmarked : ¬ IsMarked file.content) :
    file.text = file.content := by
  rw [text, withoutByteOrderMark.eq_def]
  split
  · rename_i rest starts
    exact absurd ⟨rest, starts⟩ unmarked
  · exact String.ofList_toList

theorem toList_content_marked (file : SourceFile) :
    file.marked.content.toList = '\uFEFF' :: file.content.toList := by
  rw [marked, String.toList_append]
  rfl

/-- The mark alone is left out. -/
theorem text_marked (file : SourceFile) : file.marked.text = file.content := by
  rw [text, toList_content_marked, withoutByteOrderMark, String.ofList_toList]

end SourceFile

/-! ## What is seen of models -/

namespace Step

/-- What is seen of a step without asking for it. -/
def seen (step : Step) : StepDefinition × String × Nat × Option String :=
  (step.definition, step.name, step.startLine, step.lineUrl)

end Step

namespace Job

/-- What is seen of a job without asking for it. -/
def seen (job : Job) : String × JobDefinition × Nat × Option String :=
  (job.id, job.definition, job.startLine, job.lineUrl)

end Job

/-- Two workflows look the same and answer all questions alike. -/
structure Workflow.ObservedAs (workflow other : Workflow) : Prop where
  definition_eq : workflow.definition = other.definition
  name_eq : workflow.name = other.name
  startLine_eq : workflow.startLine = other.startLine
  lineUrl_eq : workflow.origin.lineUrl workflow.startLine = other.origin.lineUrl other.startLine
  jobs_eq : workflow.jobs.map Job.seen = other.jobs.map Job.seen
  steps_eq : workflow.jobs.map (·.steps.map Step.seen) = other.jobs.map (·.steps.map Step.seen)
  job?_eq : ∀ id, workflow.job? id = other.job? id
  matchJob_eq : ∀ rawName, workflow.matchJob rawName = other.matchJob rawName
  matchStep_eq : ∀ rawName,
    workflow.jobs.map (·.matchStep rawName) = other.jobs.map (·.matchStep rawName)
  reconcileJob_eq : ∀ record, reconcileJob workflow record = reconcileJob other record

theorem Workflow.ObservedAs.refl (workflow : Workflow) : workflow.ObservedAs workflow :=
  ⟨rfl, rfl, rfl, rfl, rfl, rfl, fun _ => rfl, fun _ => rfl, fun _ => rfl, fun _ => rfl⟩

/-- Two composite actions look the same and answer all questions alike. -/
structure CompositeAction.ObservedAs (action other : CompositeAction) : Prop where
  definition_eq : action.definition = other.definition
  startLine_eq : action.startLine = other.startLine
  lineUrl_eq : action.lineUrl = other.lineUrl
  steps_eq : action.steps.map Step.seen = other.steps.map Step.seen
  matchStep_eq : ∀ rawName, action.matchStep rawName = other.matchStep rawName

theorem CompositeAction.ObservedAs.refl (action : CompositeAction) : action.ObservedAs action :=
  ⟨rfl, rfl, rfl, rfl, fun _ => rfl⟩

/-! ## What models depend on -/

/-- Nothing is done differently with two files: they fail alike as each kind of model, or the models
cannot be told apart, and the same notices are left. -/
structure SourceFile.BuildsAs (file other : SourceFile) : Prop where
  workflow : Except.Rel Workflow.ObservedAs (Workflow.ofFile file) (Workflow.ofFile other)
  reusable : Except.Rel Workflow.ObservedAs (Workflow.reusableOfFile file)
    (Workflow.reusableOfFile other)
  composite : Except.Rel CompositeAction.ObservedAs (CompositeAction.ofFile file)
    (CompositeAction.ofFile other)
  notices : (Workflow.load file).notices = (Workflow.load other).notices ∧
    (Workflow.loadReusable file).notices = (Workflow.loadReusable other).notices ∧
    (CompositeAction.load file).notices = (CompositeAction.load other).notices

section Dependence

variable {file other : SourceFile}

/-- A workflow is built from the text and the origin of a file, however its definition is read. -/
theorem Workflow.build_eq_of_text_eq (sameText : file.text = other.text)
    (sameOrigin : file.origin = other.origin) (read : String → Except Cause WorkflowDefinition) :
    build read file = build read other := by
  rw [build, build, sameText, sameOrigin]

theorem CompositeAction.build_eq_of_text_eq (sameText : file.text = other.text)
    (sameOrigin : file.origin = other.origin) : build file = build other := by
  rw [build, build, sameText, sameOrigin]

theorem namingFile_eq_of_origin_eq {α : Type} (sameOrigin : file.origin = other.origin)
    (result : Except Cause α) : namingFile file result = namingFile other result := by
  cases result with
  | ok value => rfl
  | error cause => rw [namingFile, namingFile, sameOrigin]

/-- Files that have the same text, path and web address cannot be told apart by their models. -/
theorem SourceFile.buildsAs_of_text_eq (sameText : file.text = other.text)
    (sameOrigin : file.origin = other.origin) : file.BuildsAs other := by
  have workflow : Workflow.ofFile file = Workflow.ofFile other := by
    rw [Workflow.ofFile, Workflow.build_eq_of_text_eq sameText sameOrigin,
      namingFile_eq_of_origin_eq sameOrigin]
    rfl
  have reusable : Workflow.reusableOfFile file = Workflow.reusableOfFile other := by
    rw [Workflow.reusableOfFile, Workflow.build_eq_of_text_eq sameText sameOrigin,
      namingFile_eq_of_origin_eq sameOrigin]
    rfl
  have composite : CompositeAction.ofFile file = CompositeAction.ofFile other := by
    rw [CompositeAction.ofFile, CompositeAction.build_eq_of_text_eq sameText sameOrigin,
      namingFile_eq_of_origin_eq sameOrigin]
    rfl
  constructor
  · rw [workflow]
    exact .refl Workflow.ObservedAs.refl _
  · rw [reusable]
    exact .refl Workflow.ObservedAs.refl _
  · rw [composite]
    exact .refl CompositeAction.ObservedAs.refl _
  · rw [Workflow.load, Workflow.load, Workflow.loadReusable, Workflow.loadReusable,
      CompositeAction.load, CompositeAction.load, workflow, reusable, composite, sameOrigin]
    exact ⟨rfl, rfl, rfl⟩

end Dependence

/-- A byte-order mark before a content that has none changes nothing about the models of a file, as
they depend on files only through their text, path and web address. -/
theorem byteOrderMark_invisible :
    (∀ file : SourceFile, ¬ IsMarked file.content → file.marked.BuildsAs file) ∧
    (∀ file other : SourceFile, file.text = other.text → file.origin.path = other.origin.path →
      file.origin.htmlUrl = other.origin.htmlUrl → file.BuildsAs other) := by
  constructor
  · intro file unmarked
    have sameText : file.marked.text = file.text := by
      rw [file.text_marked, SourceFile.text_of_not_isMarked unmarked]
    exact SourceFile.buildsAs_of_text_eq sameText rfl
  · rintro ⟨content, htmlUrl, path⟩ ⟨otherContent, otherUrl, otherPath⟩ sameText samePath sameUrl
    cases samePath
    cases sameUrl
    exact SourceFile.buildsAs_of_text_eq sameText rfl

/-- A file whose first line holds the key of a job. -/
def firstLineFile : SourceFile :=
  ⟨"jobs: \x7ba: \x7bsteps: [\x7brun: x\x7d]\x7d\x7d\n", ⟨some "ci", "ci.yml"⟩⟩

theorem byteOrderMark_invisible_firstLine :
    ¬ IsMarked firstLineFile.content ∧ IsMarked firstLineFile.marked.content ∧
    ∃ workflow, Workflow.ofFile firstLineFile.marked = .ok workflow ∧
      workflow.jobs.map (fun job => (job.id, job.lineUrl)) =
        [("a", some "ci#L1")] := by
  have unmarked : ¬ IsMarked firstLineFile.content := by
    rintro ⟨rest, starts⟩
    cases starts
  have reported : (Workflow.ofFile firstLineFile).toOption.map
      (fun workflow => workflow.jobs.map fun job => (job.id, job.lineUrl)) =
        some [("a", some "ci#L1")] := by
    decide +kernel
  rcases Except.exists_of_map_toOption reported with ⟨workflow, built, lines⟩
  have alike := (byteOrderMark_invisible.1 firstLineFile unmarked).workflow
  rw [built] at alike
  cases marked : Workflow.ofFile firstLineFile.marked with
  | error failure =>
      rw [marked] at alike
      cases alike
  | ok other =>
      rw [marked] at alike
      rcases alike with ⟨same⟩
      have seen := congrArg (List.map fun job => (job.1, job.2.2.2)) same.jobs_eq
      rw [List.map_map, List.map_map] at seen
      exact ⟨unmarked, ⟨_, SourceFile.toList_content_marked _⟩, other, rfl, seen.trans lines⟩

end RunAtlas
