import RunAtlas.Proofs.Model.Stages
import RunAtlas.Proofs.Outline.NodeLines

/-!
# Reported lines follow the file

The lines that are reported of a workflow, its own, and then those of its jobs and of their steps,
never go back.  Of the marks of events it is only needed that their lines never go back and that
their columns stay on their lines.
-/

namespace RunAtlas

open Yaml Text Node WrittenNode

namespace Yaml

/-- The marks of events never go back to an earlier line of a text, and stay on its lines. -/
structure MarksFollow (text : String) (events : List MarkedEvent) : Prop where
  positive : ∀ marked ∈ events, 1 ≤ marked.mark.line
  ordered : events.Pairwise fun earlier later => earlier.mark.line ≤ later.mark.line
  inside : ∀ marked ∈ events, ∀ content,
    (lines text.toList)[marked.mark.line - 1]? = some content →
      marked.mark.column ≤ content.length

instance (text : String) (events : List MarkedEvent) : Decidable (MarksFollow text events) :=
  decidable_of_iff
    ((∀ marked ∈ events, 1 ≤ marked.mark.line) ∧
      (events.Pairwise fun earlier later => earlier.mark.line ≤ later.mark.line) ∧
      ∀ marked ∈ events, ∀ content ∈ (lines text.toList)[marked.mark.line - 1]?,
        marked.mark.column ≤ content.length)
    ⟨fun ⟨positive, ordered, inside⟩ => ⟨positive, ordered, inside⟩,
      fun follow => ⟨follow.positive, follow.ordered, follow.inside⟩⟩

/-- The line of the offset of a mark is that of the mark, or the last one of the text. -/
theorem MarksFollow.lineOf_offsetOf {text : String} {events : List MarkedEvent}
    (follow : MarksFollow text events) {marked : MarkedEvent} (member : marked ∈ events) :
    (LineIndex.ofText text).lineOf (Builder.offsetOf (LineIndex.ofText text) marked.mark) =
      min marked.mark.line (LineIndex.ofText text).lineCount :=
  LineIndex.lineOf_offsetOf (follow.positive marked member) (follow.inside marked member)

/-- The lines of the offsets of marks never go back. -/
theorem MarksFollow.pairwise_lineOf {text : String} {events : List MarkedEvent}
    (follow : MarksFollow text events) :
    ((markOffsets (LineIndex.ofText text) events).map
      (LineIndex.ofText text).lineOf).Pairwise (· ≤ ·) := by
  rw [markOffsets, List.map_map, List.pairwise_map]
  refine follow.ordered.imp_of_mem fun {earlier later} earlierMember laterMember ordered => ?_
  simp only [Function.comp_apply, follow.lineOf_offsetOf earlierMember,
    follow.lineOf_offsetOf laterMember]
  omega

end Yaml

/-- The offsets of a node that is built come in the order of the events. -/
theorem Builder.offsets_sublist_of_run {index : LineIndex} {events : List MarkedEvent} {root : Node}
    (built : Builder.run index events = .ok root) :
    root.offsets.Sublist (markOffsets index events) := by
  obtain ⟨begun, rest, shape, offsets⟩ := Builder.offsets_of_run built
  have kept : begun.Sublist events :=
    calc
      begun.Sublist (startEvents events) := by
        rw [shape]
        exact List.sublist_append_left begun rest
      List.Sublist _ events := List.filter_sublist
  rw [offsets]
  exact kept.map _

namespace Job

/-- The line of a job, followed by those of its steps. -/
def startLines (job : Job) : List Nat :=
  job.startLine :: job.steps.map (·.startLine)

end Job

namespace Workflow

/-- The line of a workflow, followed by those of its jobs and of their steps. -/
def startLines (workflow : Workflow) : List Nat :=
  workflow.startLine :: workflow.jobs.flatMap Job.startLines

end Workflow

variable {origin : Origin} {index : LineIndex}

/-- The lines of a job are those of its key and of the items of its steps. -/
theorem startLines_pairedJob {declared : String × JobDefinition} {entry : Node × Node}
    (agrees : Agrees declared entry) :
    (pairedJob origin index declared entry).startLines = (jobOffsets entry).map index.lineOf := by
  have steps :
      (List.zipWith (pairedStep origin index) declared.2.stepList entry.2.stepItems).map
          (·.startLine) =
        (entry.2.stepItems.map offset).map index.lineOf := by
    calc
      _ = (declared.2.stepList.zip entry.2.stepItems).map fun pair =>
            index.lineOf pair.2.offset := by
        rw [List.map_zipWith, List.map_zip_eq_zipWith]
        rfl
      _ = ((declared.2.stepList.zip entry.2.stepItems).map Prod.snd).map fun item =>
            index.lineOf item.offset := by
        rw [List.map_map]
        rfl
      _ = (entry.2.stepItems.map offset).map index.lineOf := by
        rw [List.map_snd_zip (Nat.le_of_eq agrees.length_eq.symm), List.map_map]
        rfl
  simp [Job.startLines, pairedJob, jobOffsets, steps]

/-- The lines of jobs are those of the entries with which they are paired. -/
theorem flatMap_startLines_pairedJobs {declared : List (String × JobDefinition)}
    {entries : List (Node × Node)} (agree : List.Forall₂ Agrees declared entries) :
    (List.zipWith (pairedJob origin index) declared entries).flatMap Job.startLines =
      (entries.flatMap jobOffsets).map index.lineOf := by
  induction agree with
  | nil => rfl
  | cons agrees _ ih => simp [startLines_pairedJob agrees, ih]

/-- The lines of a workflow that is paired with an outline are those of offsets in document
order. -/
theorem exists_sublist_startLines {definition : WorkflowDefinition} {outline : FileOutline}
    {workflow : Workflow} (paired : Workflow.pair origin definition outline = .ok workflow) :
    ∃ offsets : List Nat, offsets.Sublist outline.root.offsets ∧
      workflow.startLines = offsets.map outline.index.lineOf := by
  obtain ⟨jobs, jobsPaired, rfl⟩ := Workflow.pair_eq_ok_iff.mp paired
  obtain ⟨node, found, agree, rfl⟩ := pairJobs_eq_ok_iff.mp jobsPaired
  refine ⟨outline.root.offset :: node.entries.flatMap jobOffsets, ?_, ?_⟩
  · exact ((flatMap_jobOffsets_sublist node).cons_cons _).trans
      (offset_cons_offsets_sublist_of_get? found)
  · simp only [Workflow.startLines, flatMap_startLines_pairedJobs agree, List.map_cons]
    rfl

/-- A file whose workflow is built has events from which its root is built. -/
theorem exists_events_of_ofFile {file : SourceFile} {workflow : Workflow}
    (built : Workflow.ofFile file = .ok workflow ∨ Workflow.reusableOfFile file = .ok workflow) :
    ∃ events root definition, Current.events? file.text.toList = some events ∧
      Builder.run (LineIndex.ofText file.text) events = .ok root ∧
      Workflow.pair file.origin definition ⟨root, LineIndex.ofText file.text⟩ = .ok workflow := by
  obtain ⟨definition, outline, -, outlined, paired⟩ := Workflow.exists_pair_of_ofFile built
  obtain ⟨events, root, found, run, -, rfl⟩ := FileOutline.ofText_eq_ok_iff.mp outlined
  exact ⟨events, root, definition, found, run, paired⟩

/-- In lines that never go back, the steps of a job come no earlier than the job, and no later than
the next one. -/
theorem steps_between_of_pairwise {workflow : Workflow}
    (ordered : workflow.startLines.Pairwise (· ≤ ·)) {i : Nat} {job : Job}
    (found : workflow.jobs[i]? = some job) {step : Step} (member : step ∈ job.steps) :
    job.startLine ≤ step.startLine ∧
      ∀ next, workflow.jobs[i + 1]? = some next → step.startLine ≤ next.startLine := by
  obtain ⟨-, orderedJobs⟩ := List.pairwise_cons.mp ordered
  obtain ⟨within, across⟩ := List.pairwise_flatMap.mp orderedJobs
  constructor
  · obtain ⟨first, -⟩ := List.pairwise_cons.mp (within job (List.mem_of_getElem? found))
    exact first _ (List.mem_map_of_mem member)
  · intro next foundNext
    obtain ⟨bound, rfl⟩ := List.getElem?_eq_some_iff.mp found
    obtain ⟨boundNext, rfl⟩ := List.getElem?_eq_some_iff.mp foundNext
    refine List.pairwise_iff_getElem.mp across i (i + 1) bound boundNext (Nat.lt_succ_self i)
      step.startLine ?_ _ List.mem_cons_self
    exact List.mem_cons_of_mem _ (List.mem_map_of_mem member)

/-- The lines that are reported of a workflow never go back and are lines of its text, if the marks
of the events of the text never go back and stay on its lines.  So the steps of a job are reported
no earlier than the job and no later than the next one. -/
theorem startLines_follow_text {file : SourceFile} {workflow : Workflow}
    (follow : ∀ events, Current.events? file.text.toList = some events →
      MarksFollow file.text events)
    (built : Workflow.ofFile file = .ok workflow ∨ Workflow.reusableOfFile file = .ok workflow) :
    workflow.startLines.Pairwise (· ≤ ·) ∧
    (∀ line ∈ workflow.startLines, 1 ≤ line ∧ line ≤ (lines file.text.toList).length) ∧
    ∀ (i : Nat) (job : Job), workflow.jobs[i]? = some job → ∀ step ∈ job.steps,
      job.startLine ≤ step.startLine ∧
        ∀ next, workflow.jobs[i + 1]? = some next → step.startLine ≤ next.startLine := by
  obtain ⟨events, root, definition, found, run, paired⟩ := exists_events_of_ofFile built
  obtain ⟨offsets, sublist, startLines⟩ := exists_sublist_startLines paired
  have ordered : workflow.startLines.Pairwise (· ≤ ·) := by
    rw [startLines]
    exact (follow events found).pairwise_lineOf.sublist
      ((sublist.trans (Builder.offsets_sublist_of_run run)).map _)
  refine ⟨ordered, ?_, fun i job found step => steps_between_of_pairwise ordered found⟩
  intro line member
  rw [startLines] at member
  obtain ⟨offset, -, rfl⟩ := List.mem_map.mp member
  rw [← LineIndex.lineCount_ofText]
  exact ⟨LineIndex.one_le_lineOf _ offset, LineIndex.lineOf_le_lineCount _ offset⟩

/-- A file with a step and a job that are left empty. -/
def sparseFile : SourceFile :=
  ⟨"name: é\r\njobs:\r\n  a:\r\n    steps:\r\n    - run: x\r\n    -\r\n  b:\r\n", ⟨none, "ci.yml"⟩⟩

theorem startLines_sparseFile :
    ∃ workflow, Workflow.ofFile sparseFile = .ok workflow ∧
      (∀ events, Current.events? sparseFile.text.toList = some events →
        MarksFollow sparseFile.text events) ∧
      workflow.startLines = [1, 3, 5, 7, 7] ∧
      workflow.startLines.Pairwise (· ≤ ·) ∧
      ∀ line ∈ workflow.startLines, 1 ≤ line ∧ line ≤ (lines sparseFile.text.toList).length := by
  have lines : (Workflow.ofFile sparseFile).toOption.map Workflow.startLines =
      some [1, 3, 5, 7, 7] := by
    decide +kernel
  have marks : ∀ events ∈ Current.events? sparseFile.text.toList,
      MarksFollow sparseFile.text events := by
    decide +kernel
  cases built : Workflow.ofFile sparseFile with
  | error failure => simp [built, Except.toOption] at lines
  | ok workflow =>
      have follow := startLines_follow_text marks (.inl built)
      exact ⟨workflow, rfl, marks, by simpa [built, Except.toOption] using lines, follow.1,
        follow.2.1⟩

end RunAtlas
