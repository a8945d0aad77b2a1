import RunAtlas.Proofs.Model.Stages

/-!
# Workflows that other workflows can call

To be built for being called a workflow has to pass one more check, on what starts it.  The check
stands between the two views: what is wrong with the view of values is reported first, and what is
wrong with the outline or with pairing only of a workflow that can be called.  Such a workflow is
built in the same way for both purposes, and then answers alike.
-/

namespace RunAtlas

open Yaml

/-! ## Triggers -/

namespace WorkflowDefinition

/-- The call by other workflows is among the triggers: alone, as an item, tagged or not, or as the
key of an entry. -/
inductive NamesCall : Value → Prop where
  | alone : NamesCall (.string "workflow_call")
  | item {items : List Value} {item : Value} (member : item ∈ items)
      (named : item.untag = .string "workflow_call") : NamesCall (.sequence items)
  | entry {entries : List (Value × Value)} {value : Value}
      (member : (.string "workflow_call", value) ∈ entries) : NamesCall (.mapping entries)

/-- A workflow declares that other workflows can call it. -/
def DeclaresCall (workflow : WorkflowDefinition) : Prop :=
  ∃ triggers, workflow.triggers = some triggers ∧ NamesCall triggers

/-- The check accepts exactly the workflows that declare the call. -/
theorem isCallable_iff {workflow : WorkflowDefinition} :
    workflow.isCallable = true ↔ workflow.DeclaresCall := by
  unfold isCallable DeclaresCall
  cases workflow.triggers with
  | none => simp
  | some triggers =>
      simp only [Option.some.injEq, exists_eq_left']
      cases triggers with
      | string trigger =>
          constructor
          · intro isCall
            rw [of_decide_eq_true isCall]
            exact .alone
          · rintro ⟨⟩
            rfl
      | sequence items =>
          simp only [List.any_eq_true, beq_iff_eq, Value.string?_eq_some_iff]
          constructor
          · rintro ⟨item, member, named⟩
            exact .item member named
          · rintro (_ | ⟨member, named⟩)
            exact ⟨_, member, named⟩
      | mapping entries =>
          simp only [Value.isSome_valueOf?_iff]
          constructor
          · rintro ⟨value, member⟩
            exact .entry member
          · rintro (_ | _ | ⟨member⟩)
            exact ⟨_, member⟩
      | _ =>
          simp only [Bool.false_eq_true, false_iff]
          rintro ⟨⟩

/-! ## Reading -/

variable {text : String} {definition : WorkflowDefinition}

theorem reusableOfText_of_error {cause : Cause} (failed : ofText text = .error cause) :
    reusableOfText text = .error cause := by
  rw [reusableOfText, failed]
  rfl

theorem reusableOfText_of_not_declaresCall (read : ofText text = .ok definition)
    (notCallable : ¬ definition.DeclaresCall) : reusableOfText text = .error .notReusable := by
  rw [← isCallable_iff] at notCallable
  rw [reusableOfText, read]
  exact if_neg notCallable

theorem reusableOfText_of_declaresCall (read : ofText text = .ok definition)
    (callable : definition.DeclaresCall) : reusableOfText text = ofText text := by
  rw [← isCallable_iff] at callable
  rw [reusableOfText, read]
  exact if_pos callable

end WorkflowDefinition

namespace Workflow

/-! ## Building -/

/-- What is wrong with the definition is reported before the outline is looked at. -/
theorem build_of_error {read : String → Except Cause WorkflowDefinition} {file : SourceFile}
    {cause : Cause} (failed : read file.text = .error cause) :
    build read file = .error cause := by
  rw [build, failed]
  rfl

/-- Readers that agree on a text build alike from it. -/
theorem build_congr {read other : String → Except Cause WorkflowDefinition} {file : SourceFile}
    (agree : read file.text = other file.text) : build read file = build other file := by
  rw [build, build, agree]

theorem reusableOfFile_of_declaresCall {file : SourceFile} {definition : WorkflowDefinition}
    (read : WorkflowDefinition.ofText file.text = .ok definition)
    (callable : definition.DeclaresCall) : reusableOfFile file = ofFile file := by
  rw [reusableOfFile, ofFile,
    build_congr (WorkflowDefinition.reusableOfText_of_declaresCall read callable)]

/-- Two workflows have the same name, path, line and jobs, and find the same jobs under every id and
every run-time name. -/
structure AnswersAs (workflow other : Workflow) : Prop where
  name_eq : workflow.name = other.name
  path_eq : workflow.origin.path = other.origin.path
  startLine_eq : workflow.startLine = other.startLine
  jobs_eq : workflow.jobs = other.jobs
  job?_eq : ∀ id, workflow.job? id = other.job? id
  matchJob_eq : ∀ rawName, workflow.matchJob rawName = other.matchJob rawName

theorem AnswersAs.refl (workflow : Workflow) : workflow.AnswersAs workflow :=
  ⟨rfl, rfl, rfl, rfl, fun _ => rfl, fun _ => rfl⟩

/-- Building a workflow for being called fails like building it for itself if its definition cannot
be read.  If it is read and does not declare the call, this is what is reported, no matter what else
is wrong.  If it does, the workflow is built for both purposes or for none, for the same reason, and
answers alike. -/
theorem reusableOfFile_agrees (file : SourceFile) :
    (∀ cause, WorkflowDefinition.ofText file.text = .error cause →
      reusableOfFile file = .error ⟨cause, some file.origin.path⟩ ∧
        ofFile file = .error ⟨cause, some file.origin.path⟩) ∧
    (∀ definition, WorkflowDefinition.ofText file.text = .ok definition →
      ¬ definition.DeclaresCall →
        ∃ failure, reusableOfFile file = .error failure ∧ failure.report.phase = .value ∧
          failure.report.code = "P005" ∧ failure.report.path = some file.origin.path) ∧
    ∀ definition, WorkflowDefinition.ofText file.text = .ok definition → definition.DeclaresCall →
      ((∃ reusable, reusableOfFile file = .ok reusable) ↔ ∃ workflow, ofFile file = .ok workflow) ∧
      (∀ failure, reusableOfFile file = .error failure ↔ ofFile file = .error failure) ∧
      ∀ reusable workflow, reusableOfFile file = .ok reusable → ofFile file = .ok workflow →
        reusable.AnswersAs workflow := by
  refine ⟨?_, ?_, ?_⟩
  · intro cause failed
    constructor
    · rw [reusableOfFile, build_of_error (WorkflowDefinition.reusableOfText_of_error failed)]
      rfl
    · rw [ofFile, build_of_error failed]
      rfl
  · intro definition read notCallable
    refine ⟨⟨.notReusable, some file.origin.path⟩, ?_, rfl, rfl, rfl⟩
    rw [reusableOfFile, build_of_error
      (WorkflowDefinition.reusableOfText_of_not_declaresCall read notCallable)]
    rfl
  · intro definition read callable
    rw [reusableOfFile_of_declaresCall read callable]
    refine ⟨Iff.rfl, fun _ => Iff.rfl, ?_⟩
    intro reusable workflow built builtOther
    rw [built, Except.ok.injEq] at builtOther
    rw [builtOther]
    exact .refl workflow

/-- A file that is no document. -/
def brokenFile : SourceFile :=
  ⟨"jobs: [", ⟨none, "ci.yml"⟩⟩

/-- A file of a workflow that cannot be called, whose outline cannot be scanned. -/
def unscannableFile : SourceFile :=
  ⟨"on: push\njobs:\n  a:\n    name: 'x'#c\n", ⟨none, "ci.yml"⟩⟩

/-- A file of a workflow that can be called. -/
def callableFile : SourceFile :=
  ⟨"on: [push, !t workflow_call]\njobs:\n  a:\n    steps:\n      - run: x\n", ⟨none, "ci.yml"⟩⟩

theorem reusableOfFile_agrees_cases :
    (∃ failure, reusableOfFile brokenFile = .error failure ∧
      ofFile brokenFile = .error failure) ∧
    ((ofFile unscannableFile).toOption.isNone = true ∧
      ∃ failure, reusableOfFile unscannableFile = .error failure ∧
        failure.report.code = "P005") ∧
    ∃ reusable workflow, reusableOfFile callableFile = .ok reusable ∧
      ofFile callableFile = .ok workflow ∧ reusable.AnswersAs workflow := by
  refine ⟨?_, ?_, ?_⟩
  · have fails : (WorkflowDefinition.ofText brokenFile.text).toOption.isNone = true := by
      decide +kernel
    rcases Except.exists_of_isNone_toOption fails with ⟨cause, failed⟩
    rcases reusableOfFile_agrees brokenFile with ⟨unreadable, -, -⟩
    exact ⟨_, unreadable cause failed⟩
  · have reported : (WorkflowDefinition.ofText unscannableFile.text).toOption.map (·.isCallable) =
        some false := by
      decide +kernel
    rcases Except.exists_of_map_toOption reported with ⟨definition, read, notCallable⟩
    rcases reusableOfFile_agrees unscannableFile with ⟨-, refused, -⟩
    have notDeclared : ¬ definition.DeclaresCall := by
      rw [← WorkflowDefinition.isCallable_iff, notCallable]
      exact Bool.false_ne_true
    rcases refused definition read notDeclared with ⟨failure, failed, -, code, -⟩
    exact ⟨by decide +kernel, failure, failed, code⟩
  · have reported : (WorkflowDefinition.ofText callableFile.text).toOption.map (·.isCallable) =
        some true := by
      decide +kernel
    have builds : (ofFile callableFile).toOption.map (fun _ => ()) = some () := by decide +kernel
    rcases Except.exists_of_map_toOption reported with ⟨definition, read, callable⟩
    rcases Except.exists_of_map_toOption builds with ⟨workflow, built, -⟩
    rcases reusableOfFile_agrees callableFile with ⟨-, -, agrees⟩
    rcases agrees definition read (WorkflowDefinition.isCallable_iff.mp callable) with
      ⟨sameCases, -, alike⟩
    rcases sameCases.mpr ⟨workflow, built⟩ with ⟨reusable, builtToo⟩
    exact ⟨reusable, workflow, builtToo, built, alike reusable workflow builtToo built⟩

end Workflow

end RunAtlas
