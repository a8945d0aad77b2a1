import RunAtlas.Proofs.Definition.Plans
import RunAtlas.Proofs.Model.Stages
import RunAtlas.Proofs.Outline.Description

/-!
# Both views of a document can be paired

A definition that is decoded from a value agrees with every node that describes the value: the jobs
of both come in the same order under the same keys, and so do their steps.  Each job and each step
then has its line from the very node that describes the value from which it is decoded.
-/

namespace RunAtlas

open Yaml Decode Node Text

/-! ## Steps -/

/-- What stands for the steps of a job is read item by item. -/
theorem forall₂_elements_of_toOptional {α : Type} {read : Value → Except Mismatch α} {node : Node}
    {value : Value} {result : Option (List α)} (described : Describes node value)
    (reading : value.toOptional (Value.toList read) = .ok result) :
    List.Forall₂ (fun element step => read element = .ok step) value.elements
      (result.getD []) := by
  cases described with
  | null offset text =>
      cases reading
      exact .nil
  | @sequence offset items values described =>
      simp only [Value.toOptional, Value.toList, Value.toItems, Value.untag] at reading
      cases all : Value.readAll read values with
      | error mismatch => simp [all, bind, Except.bind, Except.map] at reading
      | ok steps =>
          simp only [all, bind, Except.bind, Except.map, Except.ok.injEq] at reading
          subst reading
          exact forall₂_of_readAll all
  | boolean offset text value => cases reading
  | number offset text value => cases reading
  | string offset text => cases reading
  | mapping offset distinct described => cases reading

/-- The steps of a job are read from the values that the items of its node describe. -/
theorem forall₂_steps {node : Node} {value : Value} {job : JobDefinition}
    (described : Describes node value) (decoded : JobDefinition.decode value = .ok job) :
    List.Forall₂ Describes node.stepItems value.stepElements ∧
      List.Forall₂ (fun element step => StepDefinition.decode element = .ok step)
        value.stepElements job.stepList := by
  cases described with
  | null offset text =>
      cases decoded
      exact ⟨.nil, .nil⟩
  | @mapping offset entries pairs distinct described =>
      have untagged : ∀ pair ∈ pairs, pair.1.untag = pair.1 :=
        (Describes.mapping offset distinct described).untag_key
      obtain ⟨plain, steps⟩ := JobDefinition.steps_of_decode untagged decoded
      have related := rel_get?_valueOf? offset described plain "steps"
      have elements : (Value.mapping pairs).stepElements =
          ((Value.valueOf? pairs "steps").map Value.elements).getD [] := rfl
      rw [elements, stepItems, JobDefinition.stepList]
      generalize (Node.mapping offset entries).get? "steps" = stepsNode at related
      rcases steps with ⟨absent, missing⟩ | ⟨steps, found, reading⟩
      · rw [absent] at related ⊢
        cases related
        simp [missing]
      · rw [found] at related ⊢
        cases related with
        | some described =>
            exact ⟨described.items_elements, forall₂_elements_of_toOptional described reading⟩
  | boolean offset text value => cases decoded
  | number offset text value => cases decoded
  | string offset text => cases decoded
  | sequence offset described => cases decoded

/-! ## Jobs -/

/-- Jobs are read in order from the values under their ids. -/
theorem forall₂_jobs {node : Node} {value : Value} {declared : List (String × JobDefinition)}
    (described : Describes node value)
    (decoded : toNamedValues JobDefinition.decode value = .ok declared) :
    List.Forall₂
      (fun pair named => pair.1 = .string named.1 ∧ JobDefinition.decode pair.2 = .ok named.2)
      value.pairs declared := by
  simp only [toNamedValues, Except.bind_eq_ok_iff] at decoded
  obtain ⟨pairs, isPairs, decoded⟩ := decoded
  have pairs_eq : pairs = value.pairs := by
    cases described <;> cases isPairs <;> rfl
  subst pairs_eq
  obtain ⟨added, rfl, read⟩ :=
    forall₂_of_namedValues described.untag_key described.distinct_pairs (by simp) decoded
  exact read

/-- A job agrees with the entry that describes the value from which it is read. -/
theorem agrees_of_describes {entry : Node × Node} {pair : Value × Value}
    {named : String × JobDefinition} (describes : DescribesEntry entry pair)
    (isName : pair.1 = .string named.1) (decoded : JobDefinition.decode pair.2 = .ok named.2) :
    Agrees named entry := by
  obtain ⟨describesKey, describesValue⟩ := describes
  obtain rfl := isName
  obtain ⟨items, elements⟩ := forall₂_steps describesValue decoded
  exact ⟨by simp [keyText, describesKey.scalarText?_eq],
    (items.length_eq.trans elements.length_eq).symm⟩

/-- Jobs agree one by one with the entries that describe the values from which they are read. -/
theorem forall₂_agrees_of_describes {entries : List (Node × Node)} {pairs : List (Value × Value)}
    {declared : List (String × JobDefinition)}
    (described : List.Forall₂ DescribesEntry entries pairs)
    (read : List.Forall₂
      (fun pair named => pair.1 = .string named.1 ∧ JobDefinition.decode pair.2 = .ok named.2)
      pairs declared) :
    List.Forall₂ Agrees declared entries := by
  induction described generalizing declared with
  | nil =>
      cases read
      exact .nil
  | cons describes _ ih =>
      cases read with
      | cons first rest => exact .cons (agrees_of_describes describes first.1 first.2) (ih rest)

/-- A job is made of an entry of a node and of the entry of a value that it describes, and so is
each of its steps. -/
structure Job.ReadFrom (index : LineIndex) (entry : Node × Node) (pair : Value × Value)
    (job : Job) : Prop where
  name_eq : pair.1 = .string job.id
  key_eq : entry.1.scalarText? = some job.id
  described : Describes entry.2 pair.2
  decoded : JobDefinition.decode pair.2 = .ok job.definition
  startLine_eq : job.startLine = index.lineOf entry.1.offset
  length_items : job.steps.length = entry.2.stepItems.length
  length_elements : job.steps.length = pair.2.stepElements.length
  step : ∀ (j : Nat) (step : Step), job.steps[j]? = some step →
    ∃ item element, entry.2.stepItems[j]? = some item ∧ pair.2.stepElements[j]? = some element ∧
      Describes item element ∧ StepDefinition.decode element = .ok step.definition ∧
      step.startLine = index.lineOf item.offset

variable {origin : Origin} {index : LineIndex}

/-- What pairing makes of a job is read from the entry and the value of the job. -/
theorem readFrom_pairedJob {entry : Node × Node} {pair : Value × Value}
    {named : String × JobDefinition} (describes : DescribesEntry entry pair)
    (isName : pair.1 = .string named.1) (decoded : JobDefinition.decode pair.2 = .ok named.2) :
    (pairedJob origin index named entry).ReadFrom index entry pair := by
  obtain ⟨describesKey, describesValue⟩ := describes
  obtain rfl := isName
  obtain ⟨items, elements⟩ := forall₂_steps describesValue decoded
  have lengths := items.length_eq.trans elements.length_eq
  refine ⟨rfl, describesKey.scalarText?_eq, describesValue, decoded, rfl, ?_, ?_, ?_⟩
  · simp [pairedJob, lengths]
  · simp [pairedJob, lengths, elements.length_eq]
  · intro j step found
    obtain ⟨definition, item, foundDefinition, foundItem, rfl⟩ :=
      List.getElem?_zipWith_eq_some.mp found
    obtain ⟨element, foundElement, describesItem⟩ := exists_getElem?_of_forall₂ items foundItem
    obtain ⟨_, sameDefinition, read⟩ := exists_getElem?_of_forall₂ elements foundElement
    obtain rfl := Option.some.inj (foundDefinition.symm.trans sameDefinition)
    exact ⟨item, element, foundItem, foundElement, describesItem, read, rfl⟩

/-! ## Whole documents -/

/-- A value that is accepted as a workflow is a mapping, and what it holds under the key of the
jobs is read as the jobs. -/
theorem exists_jobs_of_accepted {node : Node} {value : Value} {workflow : WorkflowDefinition}
    (described : Describes node value)
    (accepted : (rootEntries value >>= WorkflowDefinition.ofRoot) = .ok workflow) :
    node.isMapping = true ∧
      ∃ jobsNode jobsValue, node.get? "jobs" = some jobsNode ∧ value.get? "jobs" = some jobsValue ∧
        Describes jobsNode jobsValue ∧
        toNamedValues JobDefinition.decode jobsValue = .ok workflow.jobs := by
  obtain ⟨root, isRoot, ofRoot⟩ := Except.bind_eq_ok_iff.mp accepted
  cases described with
  | @mapping offset entries pairs distinct described =>
      cases isRoot
      obtain ⟨-, -, -, decoded⟩ := WorkflowDefinition.ofRoot_eq_ok_iff.mp ofRoot
      obtain ⟨plain, jobsValue, found, reading⟩ := WorkflowDefinition.jobs_of_decode
        (Describes.mapping offset distinct described).untag_key decoded
      have related := rel_get?_valueOf? offset described plain "jobs"
      generalize (Node.mapping offset entries).get? "jobs" = jobsNode at related
      replace found : Value.valueOf? root "jobs" = some jobsValue := found
      rw [found] at related
      cases related with
      | @some jobsNode _ describedJobs =>
          exact ⟨rfl, jobsNode, jobsValue, rfl, found, describedJobs, reading⟩
  | _ => cases isRoot

/-- The jobs of a workflow that is decoded from a value can be paired with every node that describes
the value.  Each of them then has its definition from the value and its line from the node at one
position of the jobs, under the same key, and so has each of its steps. -/
theorem pairJobs_of_describes {node : Node} {value : Value} {workflow : WorkflowDefinition}
    (origin : Origin) (index : LineIndex) (described : Describes node value)
    (accepted : (rootEntries value >>= WorkflowDefinition.ofRoot) = .ok workflow) :
    ∃ outline jobs jobsNode jobsValue,
      FileOutline.ofNode index node = .ok outline ∧
      pairJobs origin outline workflow.jobs = .ok jobs ∧
      node.get? "jobs" = some jobsNode ∧ value.get? "jobs" = some jobsValue ∧
      Describes jobsNode jobsValue ∧
      jobs.length = jobsNode.entries.length ∧ jobs.length = jobsValue.pairs.length ∧
      ∀ (i : Nat) (job : Job), jobs[i]? = some job →
        ∃ entry pair, jobsNode.entries[i]? = some entry ∧ jobsValue.pairs[i]? = some pair ∧
          job.ReadFrom index entry pair := by
  obtain ⟨mapping, jobsNode, jobsValue, found, foundValue, describedJobs, reading⟩ :=
    exists_jobs_of_accepted described accepted
  have entries := describedJobs.entries_pairs
  have read := forall₂_jobs describedJobs reading
  have agree := forall₂_agrees_of_describes entries read
  refine ⟨⟨node, index⟩, _, jobsNode, jobsValue,
    FileOutline.ofNode_eq_ok_iff.mpr ⟨mapping, rfl⟩,
    pairJobs_eq_ok_iff.mpr ⟨jobsNode, found, agree, rfl⟩, found, foundValue, describedJobs,
    by simp [agree.length_eq], by simp [agree.length_eq, entries.length_eq], ?_⟩
  intro i job foundJob
  obtain ⟨named, entry, foundNamed, foundEntry, rfl⟩ := List.getElem?_zipWith_eq_some.mp foundJob
  obtain ⟨pair, foundPair, describes⟩ := exists_getElem?_of_forall₂ entries foundEntry
  obtain ⟨_, sameNamed, isName, decoded⟩ := exists_getElem?_of_forall₂ read foundPair
  obtain rfl := Option.some.inj (foundNamed.symm.trans sameNamed)
  exact ⟨entry, pair, foundEntry, foundPair, readFrom_pairedJob describes isName decoded⟩

/-- The value of a workflow with an empty step and an empty job. -/
def buildAndLintValue : Value :=
  .mapping
    [(.string "jobs",
      .mapping
        [(.string "build", .mapping [(.string "steps", .sequence [.null, .mapping []])]),
          (.string "lint", .null)])]

theorem pairJobs_buildAndLintValue :
    Describes buildAndLintOutline.root buildAndLintValue ∧
    (rootEntries buildAndLintValue >>= WorkflowDefinition.ofRoot) =
      .ok ⟨none, none, buildAndLint, []⟩ ∧
    ∃ outline jobs,
      FileOutline.ofNode buildAndLintOutline.index buildAndLintOutline.root = .ok outline ∧
      pairJobs ⟨none, "ci.yml"⟩ outline buildAndLint = .ok jobs ∧ jobs.length = 2 := by
  have steps : Describes
      (.mapping 24 [(.scalar 19 "steps", .sequence 30 [.scalar 32 "", .mapping 39 []])])
      (.mapping [(.string "steps", .sequence [.null, .mapping []])]) :=
    .mapping _ (by simp)
      (.cons (.entry (.string _ _)
        (.sequence _ (.cons (.null _ _) (.cons (.mapping _ (by simp) .nil) .nil)))) .nil)
  have described : Describes buildAndLintOutline.root buildAndLintValue :=
    .mapping _ (by simp)
      (.cons (.entry (.string _ _)
        (.mapping _ (by simp)
          (.cons (.entry (.string _ _) steps)
            (.cons (.entry (.string _ _) (.null _ _)) .nil)))) .nil)
  have accepted : (rootEntries buildAndLintValue >>= WorkflowDefinition.ofRoot) =
      .ok ⟨none, none, buildAndLint, []⟩ := rfl
  obtain ⟨outline, jobs, jobsNode, jobsValue, outlined, paired, found, -, -, length, -⟩ :=
    pairJobs_of_describes ⟨none, "ci.yml"⟩ buildAndLintOutline.index described accepted
  refine ⟨described, accepted, outline, jobs, outlined, paired, ?_⟩
  rw [length, ← Option.some.inj (show some _ = some jobsNode from found)]
  rfl

end RunAtlas
