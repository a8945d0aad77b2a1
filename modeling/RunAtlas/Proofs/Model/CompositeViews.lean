import RunAtlas.Model.CompositeAction
import RunAtlas.Proofs.Model.Pairing
import RunAtlas.Proofs.Model.Stages

/-!
# Composite actions are paired as jobs are

Both views of a composite action have to reach its steps through the same two keys, but they may
stand for different things there: an outline does not expand an alias, and nothing but a sequence
has items in it.  Once both views are there, only the number of steps decides whether they are
paired, and they are paired as the steps of a job whose node is the value of the first `runs`.
-/

namespace RunAtlas

open Yaml Text Node

namespace CompositeAction

/-! ## Views -/

/-- A text has both views of a composite action.  As a value it is a mapping with steps to run,
which is decoded and run as a composite action; as an outline it is a mapping whose first entry for
what is run has steps. -/
structure HasViews (text : String) (definition : CompositeDefinition) (root : Node)
    (runs : Node × Node) (steps : Node) : Prop where
  value : ∃ entries, Classic.value? text.toList = some (.mapping entries) ∧
    (∃ runsValue stepsValue, Value.valueOf? entries "runs" = some runsValue ∧
      runsValue.get? "steps" = some stepsValue) ∧
    CompositeDefinition.decode entries = .ok definition
  engine_eq : definition.runs.engine = "composite"
  outline : Node.ofText text (LineIndex.ofText text) = .ok root
  isMapping : root.isMapping = true
  runs_eq : root.lookup? "runs" = some runs
  steps_eq : runs.2.get? "steps" = some steps

/-- The action made of a definition and of the entry of an outline for what is run. -/
def pairedAction (origin : Origin) (index : LineIndex) (definition : CompositeDefinition)
    (runs : Node × Node) : CompositeAction where
  definition := definition
  startLine := index.lineOf runs.1.offset
  steps := List.zipWith (pairedStep origin index) definition.runs.steps runs.2.stepItems
  origin := origin

variable {file : SourceFile} {definition : CompositeDefinition} {root steps : Node}
  {runs : Node × Node}

namespace HasViews

variable {text : String} (views : HasViews text definition root runs steps)
include views

theorem stepItems_eq : runs.2.stepItems = steps.items := by
  rw [stepItems, views.steps_eq]
  rfl

theorem ofText_eq : CompositeDefinition.ofText text = .ok definition := by
  rcases views.value with ⟨entries, read, required, decoded⟩
  rw [CompositeDefinition.ofText_eq_ok_iff]
  exact ⟨entries, readRoot_eq_ok_iff.mpr read, required, decoded, views.engine_eq⟩

theorem outline_eq : FileOutline.ofText text = .ok ⟨root, LineIndex.ofText text⟩ := by
  rw [FileOutline.ofText, Except.bind_eq_ok_iff]
  exact ⟨root, views.outline, FileOutline.ofNode_eq_ok_iff.mpr ⟨views.isMapping, rfl⟩⟩

theorem compositeJob_eq (index : LineIndex) :
    (FileOutline.mk root index).compositeJob = .ok (.unnamed runs.1.offset runs.2) := by
  rw [FileOutline.compositeJob_eq_ok_iff]
  exact ⟨runs, steps, views.runs_eq, views.steps_eq, rfl⟩

end HasViews

/-- A text from which an action is built has both views of it. -/
theorem exists_hasViews_of_ofFile {action : CompositeAction} (built : ofFile file = .ok action) :
    ∃ root runs steps, HasViews file.text action.definition root runs steps := by
  rw [ofFile, namingFile_eq_ok_iff] at built
  simp only [build, CompositeDefinition.ofText_eq_ok_iff, FileOutline.ofText,
    Except.bind_eq_ok_iff, pair_eq_ok_iff, FileOutline.ofNode_eq_ok_iff, readRoot_eq_ok_iff,
    FileOutline.compositeJob_eq_ok_iff] at built
  rcases built with ⟨definition, ⟨entries, read, required, decoded, engine⟩, outline,
    ⟨root, outlined, isMapping, rfl⟩, job, paired, ⟨runs, steps, runsFound, stepsFound, rfl⟩, -,
    rfl⟩
  exact ⟨root, runs, steps, ⟨entries, read, required, decoded⟩, engine, outlined, isMapping,
    runsFound, stepsFound⟩

/-- With both views at hand an action is built exactly if there are as many definitions of steps as
items. -/
theorem HasViews.ofFile_eq_ok_iff (views : HasViews file.text definition root runs steps)
    {action : CompositeAction} :
    ofFile file = .ok action ↔
      definition.runs.steps.length = steps.items.length ∧
        pairedAction file.origin (LineIndex.ofText file.text) definition runs = action := by
  rw [ofFile, namingFile_eq_ok_iff]
  simp only [build, Except.bind_eq_ok_iff, views.ofText_eq, views.outline_eq, Except.ok.injEq,
    exists_eq_left', pair_eq_ok_iff, views.compositeJob_eq, pairSteps_eq_ok_iff]
  constructor
  · rintro ⟨_, _, rfl, ⟨lengths, rfl⟩, rfl⟩
    rw [← views.stepItems_eq]
    exact ⟨lengths, rfl⟩
  · rintro ⟨lengths, rfl⟩
    rw [← views.stepItems_eq] at lengths
    exact ⟨_, _, rfl, ⟨lengths, rfl⟩, rfl⟩

/-! ## Actions and jobs -/

/-- An action has its line from the entry for what is run, and each of its steps has its definition
and its line from one position. -/
structure PairedWith (index : LineIndex) (runs : Node × Node) (steps : Node)
    (action : CompositeAction) : Prop where
  startLine_eq : action.startLine = index.lineOf runs.1.offset
  length_eq : action.steps.length = action.definition.runs.steps.length
  step_eq : ∀ (i : Nat) (step : Step), action.steps[i]? = some step →
    action.definition.runs.steps[i]? = some step.definition ∧
      ∃ item, steps.items[i]? = some item ∧ step.startLine = index.lineOf item.offset

theorem HasViews.pairedWith {text : String} (views : HasViews text definition root runs steps)
    (origin : Origin) (index : LineIndex)
    (lengths : definition.runs.steps.length = steps.items.length) :
    (pairedAction origin index definition runs).PairedWith index runs steps where
  startLine_eq := rfl
  length_eq := by
    rw [pairedAction, List.length_zipWith, views.stepItems_eq, ← lengths, Nat.min_self]
  step_eq := by
    intro i step found
    rw [pairedAction, views.stepItems_eq] at found
    rcases List.getElem?_zipWith_eq_some.mp found with
      ⟨declared, item, foundDeclared, foundItem, rfl⟩
    exact ⟨foundDeclared, item, foundItem, rfl⟩

/-- A job is paired under any id exactly if it has as many definitions of steps as its node has
items. -/
theorem pairJob_node_eq_ok_iff {origin : Origin} {index : LineIndex} {id : String}
    {keyOffset : Nat} {node : Node} {declared : JobDefinition} {job : Job} :
    pairJob origin index id declared ⟨id, keyOffset, node⟩ = .ok job ↔
      declared.stepList.length = node.stepItems.length ∧
        pairedJob origin index (id, declared) (.scalar keyOffset id, node) = job := by
  have paired_iff := @pairJob_eq_ok_iff origin index (id, declared) (.scalar keyOffset id, node) job
  constructor
  · intro paired
    rcases paired_iff.mp paired with ⟨agrees, rfl⟩
    exact ⟨agrees.length_eq, rfl⟩
  · rintro ⟨lengths, rfl⟩
    exact paired_iff.mpr ⟨⟨rfl, lengths⟩, rfl⟩

/-- A composite action is built exactly if the text has both views of it and as many definitions of
steps as items.  Its line and those of its steps are then those of the outline.  With both views at
hand, a job with the same definitions of steps and the same node is paired in the same cases, under
any id, and has the same steps, to which the same run-time names refer. -/
theorem paired_as_job (file : SourceFile) :
    ((∃ action, ofFile file = .ok action) ↔
      ∃ definition root runs steps, HasViews file.text definition root runs steps ∧
        definition.runs.steps.length = steps.items.length) ∧
    (∀ action, ofFile file = .ok action →
      ∃ root runs steps, HasViews file.text action.definition root runs steps ∧
        action.PairedWith (LineIndex.ofText file.text) runs steps) ∧
    ∀ definition root runs steps, HasViews file.text definition root runs steps →
      ∀ (id : String) (keyOffset : Nat) (declared : JobDefinition),
        declared.stepList = definition.runs.steps →
          ((∃ action, ofFile file = .ok action) ↔
            ∃ job, pairJob file.origin (LineIndex.ofText file.text) id declared
              ⟨id, keyOffset, runs.2⟩ = .ok job) ∧
          ∀ action job, ofFile file = .ok action →
            pairJob file.origin (LineIndex.ofText file.text) id declared
                ⟨id, keyOffset, runs.2⟩ = .ok job →
              job.steps = action.steps ∧
                ∀ rawName, job.matchStep rawName = action.matchStep rawName := by
  refine ⟨?_, ?_, ?_⟩
  · constructor
    · rintro ⟨action, built⟩
      rcases exists_hasViews_of_ofFile built with ⟨root, runs, steps, views⟩
      exact ⟨action.definition, root, runs, steps, views, (views.ofFile_eq_ok_iff.mp built).1⟩
    · rintro ⟨definition, root, runs, steps, views, lengths⟩
      exact ⟨_, views.ofFile_eq_ok_iff.mpr ⟨lengths, rfl⟩⟩
  · intro action built
    rcases exists_hasViews_of_ofFile built with ⟨root, runs, steps, views⟩
    rcases views.ofFile_eq_ok_iff.mp built with ⟨lengths, isPaired⟩
    have withSteps := views.pairedWith file.origin (LineIndex.ofText file.text) lengths
    rw [isPaired] at withSteps
    exact ⟨root, runs, steps, views, withSteps⟩
  · intro definition root runs steps views id keyOffset declared sameSteps
    have sameCases : (∃ action, ofFile file = .ok action) ↔
        declared.stepList.length = runs.2.stepItems.length := by
      simp only [views.ofFile_eq_ok_iff, exists_and_left, exists_eq', and_true, sameSteps,
        views.stepItems_eq]
    simp only [pairJob_node_eq_ok_iff]
    constructor
    · rw [sameCases]
      simp only [exists_and_left, exists_eq', and_true]
    · rintro action job built ⟨-, rfl⟩
      rcases views.ofFile_eq_ok_iff.mp built with ⟨-, rfl⟩
      have steps_eq : List.zipWith (pairedStep file.origin (LineIndex.ofText file.text))
          declared.stepList runs.2.stepItems =
            List.zipWith (pairedStep file.origin (LineIndex.ofText file.text))
              definition.runs.steps runs.2.stepItems := by
        rw [sameSteps]
      refine ⟨steps_eq, ?_⟩
      intro rawName
      exact congrArg (Step.matchName · rawName) steps_eq

/-- A composite action of two steps. -/
def setupFile : SourceFile :=
  ⟨"name: Setup\nruns:\n  using: composite\n  steps:\n    - run: make\n    - uses: ./cache\n",
    ⟨none, "action.yml"⟩⟩

theorem paired_as_job_setup :
    ∃ (action : CompositeAction) (job : Job), ofFile setupFile = .ok action ∧ action.startLine = 2 ∧
      action.steps.map (·.startLine) = [5, 6] ∧ job.id = "setup" ∧ job.steps = action.steps ∧
      job.matchStep "Run ./cache" = action.matchStep "Run ./cache" := by
  have reported : (ofFile setupFile).toOption.map (fun action =>
      (action.startLine, action.steps.map (·.startLine))) = some (2, [5, 6]) := by
    decide +kernel
  rcases Except.exists_of_map_toOption reported with ⟨action, built, lines⟩
  rcases Prod.mk.inj lines with ⟨line, stepLines⟩
  rcases paired_as_job setupFile with ⟨-, views, asJob⟩
  rcases views action built with ⟨root, runs, steps, hasViews, -⟩
  rcases asJob action.definition root runs steps hasViews "setup" 0
      ⟨none, none, none, none, some action.definition.runs.steps, none, []⟩ rfl with
    ⟨sameCases, same⟩
  rcases sameCases.mp ⟨action, built⟩ with ⟨job, paired⟩
  rcases same action job built paired with ⟨sameSteps, sameAnswers⟩
  rcases pairJob_node_eq_ok_iff.mp paired with ⟨-, rfl⟩
  exact ⟨action, _, built, line, stepLines, rfl, sameSteps, sameAnswers "Run ./cache"⟩

/-- A composite action whose steps are an alias, so that the outline has no items for them. -/
def aliasedFile : SourceFile :=
  ⟨"name: Setup\nall: &all [\x7brun: make\x7d]\nruns:\n  using: composite\n  steps: *all\n",
    ⟨none, "action.yml"⟩⟩

example :
    (CompositeDefinition.ofText aliasedFile.text).toOption.map (·.runs.steps.length) = some 1 ∧
      (ofFile aliasedFile).toOption.isNone = true := by
  decide +kernel

end CompositeAction

end RunAtlas
