import RunAtlas.Model.CompositeAction
import RunAtlas.Proofs.Outline.SameLines
import RunAtlas.Proofs.Text.LineEndings
import RunAtlas.Proofs.Yaml.Value

/-!
# Line endings do not change what is reported

A model keeps of an outline only its shape and the lines of its nodes.  So outlines that report the
same lines pair to the same models, and fail for the same causes.  In a text that is written with
another line ending every mark leads to another offset on the same line; if both texts are read
alike, the models of both files are therefore equal.
-/

namespace RunAtlas

open Yaml Text

variable {first second : LineIndex} {origin : Origin}

/-! ## Pairing -/

/-- Two jobs have the same id and parts, and stand on the same lines. -/
structure JobOutline.SameLines (first second : LineIndex) (job other : JobOutline) : Prop where
  id_eq : job.id = other.id
  startLine_eq : job.startLine first = other.startLine second
  node : job.node.SameLines first second other.node

namespace JobOutline

theorem sameLines_ofEntry {entry otherEntry : Node × Node}
    (same : Node.SameLinesEntry first second entry otherEntry) :
    (ofEntry entry).SameLines first second (ofEntry otherEntry) :=
  ⟨congrArg (·.getD "") same.key.scalarText?_eq, same.key.lineOf_offset, same.value⟩

theorem SameLines.stepNodes_forall₂ {job other : JobOutline}
    (same : job.SameLines first second other) :
    List.Forall₂ (Node.SameLines first second) job.stepNodes other.stepNodes := by
  have found := same.node.get?_rel "steps"
  unfold stepNodes stepNodes?
  generalize job.node.get? "steps" = steps, other.node.get? "steps" = others at found
  cases found with
  | none => exact .nil
  | some steps => exact steps.items_forall₂

end JobOutline

/-- Nodes on the same lines give steps the same lines. -/
theorem zipWith_step_eq {nodes others : List Node}
    (same : List.Forall₂ (Node.SameLines first second) nodes others)
    (steps : List StepDefinition) :
    List.zipWith (fun step node => (⟨step, Node.startLine first node, origin⟩ : Step)) steps nodes =
      List.zipWith (fun step node => ⟨step, Node.startLine second node, origin⟩) steps others := by
  induction same generalizing steps with
  | nil => simp
  | cons node _ ih =>
      cases steps with
      | nil => rfl
      | cons step steps =>
          have line : Node.startLine first _ = Node.startLine second _ := node.lineOf_offset
          rw [List.zipWith_cons_cons, List.zipWith_cons_cons, line, ih]

theorem pairSteps_eq {job other : JobOutline} (same : job.SameLines first second other)
    (steps : List StepDefinition) :
    pairSteps origin first steps job = pairSteps origin second steps other := by
  have nodes := same.stepNodes_forall₂
  dsimp only [pairSteps]
  rw [nodes.length_eq, zipWith_step_eq nodes, same.id_eq]

theorem pairJob_eq {job other : JobOutline} (same : job.SameLines first second other)
    (id : String) (definition : JobDefinition) :
    pairJob origin first id definition job = pairJob origin second id definition other := by
  unfold pairJob
  rw [same.id_eq, pairSteps_eq same, same.startLine_eq]

theorem pairJobsInOrder_eq {outlines others : List JobOutline}
    (same : List.Forall₂ (JobOutline.SameLines first second) outlines others)
    (declared : List (String × JobDefinition)) :
    pairJobsInOrder origin first declared outlines =
      pairJobsInOrder origin second declared others := by
  induction same generalizing declared with
  | nil => cases declared <;> rfl
  | cons job _ ih =>
      cases declared with
      | nil => rfl
      | cons named declared => rw [pairJobsInOrder, pairJobsInOrder, pairJob_eq job, ih]

/-- Two outlines have roots of the same shape on the same lines. -/
def FileOutline.SameLines (outline other : FileOutline) : Prop :=
  outline.root.SameLines outline.index other.index other.root

namespace FileOutline.SameLines

variable {outline other : FileOutline}

theorem startLine_eq (same : outline.SameLines other) : outline.startLine = other.startLine :=
  same.lineOf_offset

theorem jobs_rel (same : outline.SameLines other) :
    Except.Rel (List.Forall₂ (JobOutline.SameLines outline.index other.index))
      outline.jobs other.jobs := by
  have found := Node.SameLines.get?_rel same "jobs"
  unfold FileOutline.jobs
  generalize outline.root.get? "jobs" = jobs, other.root.get? "jobs" = others at found
  cases found with
  | none => exact .error _
  | some jobs =>
      refine .ok (List.forall₂_map_left_iff.mpr (List.forall₂_map_right_iff.mpr ?_))
      exact jobs.entries_forall₂.imp fun _ _ => JobOutline.sameLines_ofEntry

theorem compositeJob_rel (same : outline.SameLines other) :
    Except.Rel (JobOutline.SameLines outline.index other.index)
      outline.compositeJob other.compositeJob := by
  have found := Node.SameLines.lookup?_rel same "runs"
  unfold FileOutline.compositeJob
  generalize outline.root.lookup? "runs" = entry, other.root.lookup? "runs" = others at found
  cases found with
  | none => exact .error _
  | @some entry otherEntry same =>
      obtain ⟨key, runs⟩ := entry
      obtain ⟨otherKey, otherRuns⟩ := otherEntry
      have steps := same.value.get?_rel "steps"
      dsimp only at steps ⊢
      generalize runs.get? "steps" = steps, otherRuns.get? "steps" = others at steps
      cases steps with
      | none => exact .error _
      | some steps => exact .ok ⟨rfl, same.key.lineOf_offset, same.value⟩

/-- Outlines that report the same lines pair to the same jobs. -/
theorem pairJobs_eq (same : outline.SameLines other) (declared : List (String × JobDefinition)) :
    pairJobs origin outline declared = pairJobs origin other declared := by
  unfold pairJobs
  apply same.jobs_rel.bind_eq
  intro outlines others alike
  rw [alike.length_eq, pairJobsInOrder_eq alike]

/-- Outlines that report the same lines pair to the same workflow. -/
theorem workflow_pair_eq (same : outline.SameLines other) (definition : WorkflowDefinition) :
    Workflow.pair origin definition outline = Workflow.pair origin definition other := by
  unfold Workflow.pair
  rw [same.pairJobs_eq, same.startLine_eq]

/-- Outlines that report the same lines pair to the same composite action. -/
theorem compositeAction_pair_eq (same : outline.SameLines other)
    (definition : CompositeDefinition) :
    CompositeAction.pair origin definition outline =
      CompositeAction.pair origin definition other := by
  unfold CompositeAction.pair
  apply same.compositeJob_rel.bind_eq
  intro job otherJob jobs
  rw [pairSteps_eq jobs, jobs.startLine_eq]

end FileOutline.SameLines

/-! ## Reading -/

namespace Yaml

/-- What a reader sees of an event: the line and the column of its mark, and not its index. -/
def MarkedEvent.seen (marked : MarkedEvent) : Event × Nat × Nat :=
  (marked.event, marked.mark.line, marked.mark.column)

/-- The marks of events stay on the lines of a text. -/
def MarksInside (text : String) (events : List MarkedEvent) : Prop :=
  ∀ marked ∈ events, ∀ content ∈ (lines text.toList)[marked.mark.line - 1]?,
    marked.mark.column ≤ content.length

instance (text : String) (events : List MarkedEvent) : Decidable (MarksInside text events) :=
  inferInstanceAs (Decidable (∀ marked ∈ events, ∀ content ∈ _, _))

/-- Two texts are read alike: as the same value, and as the same events, whose marks have the same
lines and columns and stay on the lines of the text. -/
structure ReadAlike (text other : String) : Prop where
  value : ∃ value, Classic.value? text.toList = some value ∧
    Classic.value? other.toList = some value
  events : ∃ events others, Current.events? text.toList = some events ∧
    Current.events? other.toList = some others ∧
    events.map MarkedEvent.seen = others.map MarkedEvent.seen ∧ MarksInside text events

instance (text other : String) : Decidable (ReadAlike text other) :=
  decidable_of_iff
    ((∃ value ∈ Classic.value? text.toList, Classic.value? other.toList = some value) ∧
      ∃ events ∈ Current.events? text.toList, ∃ others ∈ Current.events? other.toList,
        events.map MarkedEvent.seen = others.map MarkedEvent.seen ∧ MarksInside text events)
    ⟨fun ⟨value, events, found, others, foundOther, seen⟩ =>
        ⟨value, events, others, found, foundOther, seen⟩,
      fun ⟨value, events, others, found, foundOther, seen⟩ =>
        ⟨value, events, found, others, foundOther, seen⟩⟩

end Yaml

/-- Events that are seen alike stand on the same lines of a text and of its rewritten form. -/
theorem forall₂_sameLine_of_seen (ending : LineEnding) {text : String}
    (plain : '\r' ∉ text.toList) {events others : List MarkedEvent}
    (inside : MarksInside text events)
    (seen : events.map MarkedEvent.seen = others.map MarkedEvent.seen) :
    List.Forall₂
      (MarkedEvent.SameLine (LineIndex.ofText text) (LineIndex.ofText (ending.rewriteText text)))
      events others := by
  have pointwise : List.Forall₂ (fun marked other => marked.seen = other.seen) events others :=
    List.forall₂_map_left_iff.mp (List.forall₂_map_right_iff.mp (List.forall₂_eq_eq_eq ▸ seen))
  refine ((List.forall₂_and_left events others).mpr ⟨inside, pointwise⟩).imp ?_
  rintro ⟨event, mark⟩ ⟨otherEvent, otherMark⟩ ⟨inside, same⟩
  obtain ⟨sameEvent, sameLine, sameColumn⟩ : event = otherEvent ∧ mark.line = otherMark.line ∧
      mark.column = otherMark.column := by
    simpa [MarkedEvent.seen] using same
  refine ⟨sameEvent, ?_⟩
  dsimp only [Builder.offsetOf]
  rw [← sameLine, ← sameColumn, LineIndex.lineOf_offsetOf_rewriteText ending plain inside]

/-- Roots on the same lines give outlines that report the same lines. -/
theorem FileOutline.ofNode_rel {root other : Node} (same : root.SameLines first second other) :
    Except.Rel FileOutline.SameLines (ofNode first root) (ofNode second other) := by
  unfold ofNode
  rw [same.isMapping_eq]
  split
  · exact .ok same
  · exact .error _

/-- The outlines of a text and of its rewritten form report the same lines if both are read
alike. -/
theorem FileOutline.ofText_rel (ending : LineEnding) {text : String} (plain : '\r' ∉ text.toList)
    (alike : ReadAlike text (ending.rewriteText text)) :
    Except.Rel FileOutline.SameLines (ofText text) (ofText (ending.rewriteText text)) := by
  obtain ⟨events, others, found, foundOther, seen, inside⟩ := alike.events
  have built : Except.Rel
      (Node.SameLines (LineIndex.ofText text) (LineIndex.ofText (ending.rewriteText text)))
      (Node.ofText text (LineIndex.ofText text))
      (Node.ofText (ending.rewriteText text) (LineIndex.ofText (ending.rewriteText text))) := by
    unfold Node.ofText
    rw [found, foundOther]
    exact Builder.run_rel (forall₂_sameLine_of_seen ending plain inside seen)
  exact built.bind FileOutline.ofNode_rel

/-- Texts that are read alike have the same root. -/
theorem readRoot_eq {text other : String} (alike : ReadAlike text other) :
    readRoot other = readRoot text := by
  obtain ⟨value, found, foundOther⟩ := alike.value
  rw [readRoot, readRoot, found, foundOther]

/-! ## Files -/

/-- The file with another line ending. -/
def SourceFile.withLineEnding (ending : LineEnding) (file : SourceFile) : SourceFile :=
  { file with content := ending.rewriteText file.content }

theorem withoutByteOrderMark_cons_of_ne {c : Char} (other : c ≠ '\uFEFF') (rest : List Char) :
    withoutByteOrderMark (c :: rest) = c :: rest := by
  unfold withoutByteOrderMark
  split
  · rename_i shape
    exact absurd (List.cons.inj shape).1 other
  · rfl

/-- A byte-order mark may be left out before or after line endings are rewritten. -/
theorem withoutByteOrderMark_rewrite (ending : LineEnding) (text : List Char) :
    withoutByteOrderMark (ending.rewrite text) = ending.rewrite (withoutByteOrderMark text) := by
  cases text with
  | nil => rfl
  | cons c rest =>
      by_cases mark : c = '\uFEFF'
      · subst mark
        rw [LineEnding.rewrite_cons_of_ne ending (by decide)]
        rfl
      · rw [withoutByteOrderMark_cons_of_ne mark]
        by_cases lineFeed : c = '\n'
        · subst lineFeed
          rw [LineEnding.rewrite_lineFeed_cons]
          cases ending <;> exact withoutByteOrderMark_cons_of_ne (by decide) _
        · rw [LineEnding.rewrite_cons_of_ne ending lineFeed, withoutByteOrderMark_cons_of_ne mark]

namespace SourceFile

theorem text_withLineEnding (ending : LineEnding) (file : SourceFile) :
    (file.withLineEnding ending).text = ending.rewriteText file.text := by
  simp [text, withLineEnding, LineEnding.rewriteText, withoutByteOrderMark_rewrite]

theorem mem_text {file : SourceFile} {c : Char} (member : c ∈ file.text.toList) :
    c ∈ file.content.toList := by
  rw [text, String.toList_ofList] at member
  unfold withoutByteOrderMark at member
  split at member
  · rename_i shape
    rw [shape]
    exact List.mem_cons_of_mem _ member
  · exact member

end SourceFile

/-- A workflow is built alike from a file and from its form with another line ending, if both are
read alike. -/
theorem Workflow.build_withLineEnding (ending : LineEnding) {file : SourceFile}
    (plain : '\r' ∉ file.text.toList) (alike : ReadAlike file.text (ending.rewriteText file.text))
    {read : String → Except Cause WorkflowDefinition}
    (reads : read (ending.rewriteText file.text) = read file.text) :
    build read (file.withLineEnding ending) = build read file := by
  unfold build
  rw [file.text_withLineEnding, reads]
  apply congrArg (_ >>= ·)
  funext definition
  symm
  apply (FileOutline.ofText_rel ending plain alike).bind_eq
  intro outline other same
  exact same.workflow_pair_eq definition

/-- A composite action is built alike from a file and from its form with another line ending, if
both are read alike. -/
theorem CompositeAction.build_withLineEnding (ending : LineEnding) {file : SourceFile}
    (plain : '\r' ∉ file.text.toList)
    (alike : ReadAlike file.text (ending.rewriteText file.text)) :
    build (file.withLineEnding ending) = build file := by
  unfold build CompositeDefinition.ofText
  rw [file.text_withLineEnding, readRoot_eq alike]
  apply congrArg (_ >>= ·)
  funext definition
  symm
  apply (FileOutline.ofText_rel ending plain alike).bind_eq
  intro outline other same
  exact same.compositeAction_pair_eq definition

/-- Line endings do not change what is reported.  A text without carriage returns has as many lines
as each of its rewritten forms; an offset stands on the same line as its counterpart, and a column
that stays on its line leads to the same line in both.  So if a file is read alike in both forms,
its models are equal, with all lines that they report, or are missing for the same cause. -/
theorem models_withLineEnding (ending : LineEnding) (file : SourceFile)
    (plain : '\r' ∉ file.content.toList) :
    (LineIndex.ofText (ending.rewriteText file.content)).lineCount =
        (LineIndex.ofText file.content).lineCount ∧
    (∀ offset,
      (LineIndex.ofText (ending.rewriteText file.content)).lineOf
          (ending.moved file.content.toList offset) =
        (LineIndex.ofText file.content).lineOf offset) ∧
    (∀ line column,
      (∀ content, (lines file.content.toList)[line - 1]? = some content →
        column ≤ content.length) →
      (LineIndex.ofText (ending.rewriteText file.content)).lineOf
          ((LineIndex.ofText (ending.rewriteText file.content)).offsetOf line column) =
        (LineIndex.ofText file.content).lineOf
          ((LineIndex.ofText file.content).offsetOf line column)) ∧
    (ReadAlike file.text (file.withLineEnding ending).text →
      Workflow.ofFile (file.withLineEnding ending) = Workflow.ofFile file ∧
      Workflow.reusableOfFile (file.withLineEnding ending) = Workflow.reusableOfFile file ∧
      CompositeAction.ofFile (file.withLineEnding ending) = CompositeAction.ofFile file) := by
  refine ⟨LineIndex.lineCount_rewriteText ending plain, LineIndex.lineOf_moved ending plain,
    fun line column => LineIndex.lineOf_offsetOf_rewriteText ending plain, ?_⟩
  intro alike
  rw [file.text_withLineEnding] at alike
  have plainText : '\r' ∉ file.text.toList := fun member => plain (SourceFile.mem_text member)
  have workflow : WorkflowDefinition.ofText (ending.rewriteText file.text) =
      WorkflowDefinition.ofText file.text := by
    rw [WorkflowDefinition.ofText, readRoot_eq alike]
    rfl
  have reusable : WorkflowDefinition.reusableOfText (ending.rewriteText file.text) =
      WorkflowDefinition.reusableOfText file.text := by
    rw [WorkflowDefinition.reusableOfText, workflow]
    rfl
  refine ⟨?_, ?_, ?_⟩
  · rw [Workflow.ofFile, Workflow.build_withLineEnding ending plainText alike workflow]
    rfl
  · rw [Workflow.reusableOfFile, Workflow.build_withLineEnding ending plainText alike reusable]
    rfl
  · rw [CompositeAction.ofFile, CompositeAction.build_withLineEnding ending plainText alike]
    rfl

/-- A file with a step that is left empty, so that its item stands on the next line. -/
def lineFeedFile : SourceFile :=
  ⟨"jobs:\n  é:\n    steps:\n    -\n", ⟨none, "ci.yml"⟩⟩

theorem models_lineFeedFile :
    '\r' ∉ lineFeedFile.content.toList ∧
    (lineFeedFile.withLineEnding .pair).text = "jobs:\r\n  é:\r\n    steps:\r\n    -\r\n" ∧
    (LineIndex.ofText lineFeedFile.content).lineOf 15 = 3 ∧
    (LineIndex.ofText (LineEnding.pair.rewriteText lineFeedFile.content)).lineOf 17 = 3 ∧
    (LineIndex.ofText (LineEnding.carriageReturn.rewriteText lineFeedFile.content)).lineOf 15 = 3 ∧
    ∀ ending ∈ [LineEnding.pair, .carriageReturn],
      ReadAlike lineFeedFile.text (lineFeedFile.withLineEnding ending).text ∧
      Workflow.ofFile (lineFeedFile.withLineEnding ending) = Workflow.ofFile lineFeedFile ∧
      ∃ workflow, Workflow.ofFile lineFeedFile = .ok workflow ∧
        workflow.jobs.map (fun job => (job.startLine, job.steps.map (·.startLine))) =
          [(2, [5])] := by
  have plain : '\r' ∉ lineFeedFile.content.toList := by decide
  have alike : ∀ ending ∈ [LineEnding.pair, .carriageReturn],
      ReadAlike lineFeedFile.text (lineFeedFile.withLineEnding ending).text := by
    decide +kernel
  have reported : (Workflow.ofFile lineFeedFile).toOption.map (fun workflow =>
      workflow.jobs.map fun job => (job.startLine, job.steps.map (·.startLine))) =
        some [(2, [5])] := by
    decide +kernel
  have line : (LineIndex.ofText lineFeedFile.content).lineOf 15 = 3 := by decide +kernel
  -- Two line feeds stand before the offset.  As pairs they take up two more places.
  have moved : LineEnding.pair.moved lineFeedFile.content.toList 15 = 17 := by
    rw [LineEnding.moved_pair]
    decide
  refine ⟨plain, by decide +kernel, line, ?_, ?_, ?_⟩
  · rw [← moved, (models_withLineEnding .pair lineFeedFile plain).2.1, line]
  · have kept := (models_withLineEnding .carriageReturn lineFeedFile plain).2.1 15
    rw [LineEnding.moved_carriageReturn, line] at kept
    exact kept
  · intro ending member
    obtain ⟨-, -, -, models⟩ := models_withLineEnding ending lineFeedFile plain
    obtain ⟨workflows, -, -⟩ := models (alike ending member)
    exact ⟨alike ending member, workflows, Except.exists_of_map_toOption reported⟩

end RunAtlas
