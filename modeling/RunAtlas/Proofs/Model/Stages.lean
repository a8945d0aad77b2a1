import RunAtlas.Model.CompositeAction
import RunAtlas.Model.Workflow
import RunAtlas.Proofs.Outcome

/-!
# The stages in which models are built

A workflow is built exactly when each stage succeeds: its definition is read, events are found in
its text, a mapping is built from them, and the two views are paired.  So is a composite action.
-/

namespace RunAtlas

open Yaml Text

theorem Node.ofText_eq_ok_iff {text : String} {index : LineIndex} {root : Node} :
    Node.ofText text index = .ok root ↔
      ∃ events, Current.events? text.toList = some events ∧
        Builder.run index events = .ok root := by
  unfold Node.ofText
  cases Current.events? text.toList with
  | none => simp
  | some events => simp

theorem FileOutline.ofNode_eq_ok_iff {index : LineIndex} {root : Node} {outline : FileOutline} :
    FileOutline.ofNode index root = .ok outline ↔
      root.isMapping = true ∧ ⟨root, index⟩ = outline := by
  unfold FileOutline.ofNode
  split <;> simp_all

/-- The outline of a text is the mapping that is built from its events. -/
theorem FileOutline.ofText_eq_ok_iff {text : String} {outline : FileOutline} :
    FileOutline.ofText text = .ok outline ↔
      ∃ events root, Current.events? text.toList = some events ∧
        Builder.run (LineIndex.ofText text) events = .ok root ∧ root.isMapping = true ∧
        ⟨root, LineIndex.ofText text⟩ = outline := by
  simp only [FileOutline.ofText, Except.bind_eq_ok_iff, Node.ofText_eq_ok_iff,
    FileOutline.ofNode_eq_ok_iff]
  constructor
  · rintro ⟨root, ⟨events, found, built⟩, mapping, rfl⟩
    exact ⟨events, root, found, built, mapping, rfl⟩
  · rintro ⟨events, root, found, built, mapping, rfl⟩
    exact ⟨root, ⟨events, found, built⟩, mapping, rfl⟩

theorem FileOutline.compositeJob_eq_ok_iff {outline : FileOutline} {job : JobOutline} :
    outline.compositeJob = .ok job ↔
      ∃ runs steps, outline.root.lookup? "runs" = some runs ∧ runs.2.get? "steps" = some steps ∧
        .unnamed runs.1.offset runs.2 = job := by
  unfold compositeJob
  cases outline.root.lookup? "runs" with
  | none => simp
  | some runs => cases steps : runs.2.get? "steps" <;> simp [steps]

theorem readRoot_eq_ok_iff {text : String} {root : List (Value × Value)} :
    readRoot text = .ok root ↔ Classic.value? text.toList = some (.mapping root) := by
  unfold readRoot rootEntries
  cases Classic.value? text.toList with
  | none => simp
  | some value => cases value <;> simp

theorem orUndecodable_eq_ok_iff {α : Type} {result : Except Mismatch α} {value : α} :
    orUndecodable result = .ok value ↔ result = .ok value := by
  cases result <;> simp [orUndecodable]

namespace WorkflowDefinition

/-- A root is accepted as a workflow exactly if it has jobs that are not the empty mapping and can
be decoded. -/
theorem ofRoot_eq_ok_iff {root : List (Value × Value)} {workflow : WorkflowDefinition} :
    ofRoot root = .ok workflow ↔
      ∃ jobs, Value.valueOf? root "jobs" = some jobs ∧ jobs ≠ .mapping [] ∧
        decode root = .ok workflow := by
  unfold ofRoot
  split
  · rename_i missing
    simp [missing]
  · rename_i empty
    simp [empty]
  · rename_i jobs notEmpty found
    rw [orUndecodable_eq_ok_iff, found]
    constructor
    · intro decoded
      refine ⟨jobs, rfl, ?_, decoded⟩
      rintro rfl
      exact notEmpty rfl
    · rintro ⟨_, _, _, decoded⟩
      exact decoded

/-- A text is read as a workflow exactly if its root is accepted as one. -/
theorem ofText_eq_ok_iff {text : String} {workflow : WorkflowDefinition} :
    ofText text = .ok workflow ↔
      ∃ root jobs, readRoot text = .ok root ∧ Value.valueOf? root "jobs" = some jobs ∧
        jobs ≠ .mapping [] ∧ decode root = .ok workflow := by
  simp only [ofText, Except.bind_eq_ok_iff, ofRoot_eq_ok_iff, exists_and_left]

theorem requireCallable_eq_ok_iff {definition workflow : WorkflowDefinition} :
    requireCallable definition = .ok workflow ↔
      definition.isCallable = true ∧ definition = workflow := by
  unfold requireCallable
  split <;> simp_all

/-- A text is read as a workflow that can be called exactly if it is read as a workflow that is
callable. -/
theorem reusableOfText_eq_ok_iff {text : String} {workflow : WorkflowDefinition} :
    reusableOfText text = .ok workflow ↔
      ofText text = .ok workflow ∧ workflow.isCallable = true := by
  simp only [reusableOfText, Except.bind_eq_ok_iff, requireCallable_eq_ok_iff]
  constructor
  · rintro ⟨definition, read, callable, rfl⟩
    exact ⟨read, callable⟩
  · rintro ⟨read, callable⟩
    exact ⟨workflow, read, callable, rfl⟩

end WorkflowDefinition

/-- A root is accepted as a composite action exactly if it has steps to run, can be decoded and is
run as a composite one. -/
theorem CompositeDefinition.ofRoot_eq_ok_iff {root : List (Value × Value)}
    {action : CompositeDefinition} :
    ofRoot root = .ok action ↔
      (∃ runs steps, Value.valueOf? root "runs" = some runs ∧ runs.get? "steps" = some steps) ∧
        decode root = .ok action ∧ action.runs.engine = compositeEngine := by
  unfold ofRoot
  cases Value.valueOf? root "runs" with
  | none => simp
  | some runs =>
      cases steps : runs.get? "steps" with
      | none => simp [steps]
      | some value =>
          simp only [Except.bind_eq_ok_iff, orUndecodable_eq_ok_iff, Option.some.injEq,
            exists_and_left, exists_eq_left', steps, exists_eq', true_and]
          constructor
          · rintro ⟨decoded, read, checked⟩
            split at checked
            · rename_i composite
              cases checked
              exact ⟨read, composite⟩
            · contradiction
          · rintro ⟨read, composite⟩
            exact ⟨action, read, if_pos composite⟩

/-- A text is read as a composite action exactly if its root is accepted as one. -/
theorem CompositeDefinition.ofText_eq_ok_iff {text : String} {action : CompositeDefinition} :
    ofText text = .ok action ↔
      ∃ root, readRoot text = .ok root ∧
        (∃ runs steps, Value.valueOf? root "runs" = some runs ∧ runs.get? "steps" = some steps) ∧
        decode root = .ok action ∧ action.runs.engine = compositeEngine := by
  simp only [ofText, Except.bind_eq_ok_iff, ofRoot_eq_ok_iff]

theorem namingFile_eq_ok_iff {α : Type} {file : SourceFile} {result : Except Cause α} {value : α} :
    namingFile file result = .ok value ↔ result = .ok value := by
  cases result <;> simp [namingFile]

namespace Workflow

/-- Pairing keeps the definition and the origin, and takes the lines from the outline. -/
theorem pair_eq_ok_iff {origin : Origin} {definition : WorkflowDefinition} {outline : FileOutline}
    {workflow : Workflow} :
    pair origin definition outline = .ok workflow ↔
      ∃ jobs, pairJobs origin outline definition.jobs = .ok jobs ∧
        ⟨definition, outline.startLine, jobs, origin⟩ = workflow := by
  simp only [pair, Except.bind_eq_ok_iff, Except.pure_eq_ok_iff]

theorem build_eq_ok_iff {read : String → Except Cause WorkflowDefinition} {file : SourceFile}
    {workflow : Workflow} :
    build read file = .ok workflow ↔
      ∃ definition outline, read file.text = .ok definition ∧
        FileOutline.ofText file.text = .ok outline ∧
        pair file.origin definition outline = .ok workflow := by
  simp only [build, Except.bind_eq_ok_iff]
  constructor
  · rintro ⟨definition, read, outline, found, paired⟩
    exact ⟨definition, outline, read, found, paired⟩
  · rintro ⟨definition, outline, read, found, paired⟩
    exact ⟨definition, read, outline, found, paired⟩

/-- A workflow that is built from a file, for being called or not, is paired from the definition and
the outline of its text. -/
theorem exists_pair_of_ofFile {file : SourceFile} {workflow : Workflow}
    (built : ofFile file = .ok workflow ∨ reusableOfFile file = .ok workflow) :
    ∃ definition outline, WorkflowDefinition.ofText file.text = .ok definition ∧
      FileOutline.ofText file.text = .ok outline ∧
      pair file.origin definition outline = .ok workflow := by
  rcases built with built | built
  · exact build_eq_ok_iff.mp (namingFile_eq_ok_iff.mp built)
  · rcases build_eq_ok_iff.mp (namingFile_eq_ok_iff.mp built) with
      ⟨definition, outline, read, outlined, paired⟩
    exact ⟨definition, outline, (WorkflowDefinition.reusableOfText_eq_ok_iff.mp read).1, outlined,
      paired⟩

end Workflow

namespace CompositeAction

/-- Pairing keeps the definition and takes the lines from the outline. -/
theorem pair_eq_ok_iff {origin : Origin} {definition : CompositeDefinition} {outline : FileOutline}
    {action : CompositeAction} :
    pair origin definition outline = .ok action ↔
      ∃ job steps, outline.compositeJob = .ok job ∧
        pairSteps origin outline.index definition.runs.steps job = .ok steps ∧
        ⟨definition, job.startLine outline.index, steps, origin⟩ = action := by
  simp only [pair, Except.bind_eq_ok_iff, Except.pure_eq_ok_iff]
  constructor
  · rintro ⟨job, found, steps, paired, rfl⟩
    exact ⟨job, steps, found, paired, rfl⟩
  · rintro ⟨job, steps, found, paired, rfl⟩
    exact ⟨job, found, steps, paired, rfl⟩

end CompositeAction

end RunAtlas
