import RunAtlas.Proofs.FirstElement
import RunAtlas.Proofs.Model.CallableWorkflows
import RunAtlas.Proofs.Model.Pairing
import RunAtlas.Proofs.Outline.Building

/-!
# The checks that a file has to pass

A model is built from a file by passing checks in a row: first those of the view of values, then
those of the outline, and last whether the two views agree.  Each check is stated of the text alone,
without regard to the others, so that a text may fail many of them.  A computation passes checks in
order if it fails only for the first that fails, in its phase and with its code.  Chained
computations pass their checks in a row (`PassesInOrder.bind`), and so does every way to build a
model (`ModelKind.buildWorkflow_passesInOrder`, `ModelKind.buildComposite_passesInOrder`).
-/

namespace RunAtlas

open Yaml Text Node

/-! ## Checks -/

/-- What is checked while a model is built from a file. -/
inductive Check where
  /-- The text is read as a value. -/
  | reading
  /-- The root of a view is a mapping. -/
  | root (view : View)
  /-- A view has the keys without which the file is not what it is read as. -/
  | requiredKeys (view : View)
  /-- The jobs are no empty mapping. -/
  | someJobs
  /-- The value is decoded. -/
  | decoding
  /-- The definition is of the kind that is asked for. -/
  | kind
  /-- The text is scanned and built into a node. -/
  | scan
  /-- The two views agree. -/
  | agreement
deriving DecidableEq

namespace Check

/-- The phase in which a check is made. -/
def phase : Check → Phase
  | .reading => .yaml
  | .root view | .requiredKeys view => view.phase
  | .someJobs | .decoding | .kind => .value
  | .scan => .ast
  | .agreement => .pairing

/-- The code of a check that fails. -/
def code : Check → String
  | .reading | .decoding => "P001"
  | .root _ => "P002"
  | .requiredKeys _ => "P003"
  | .someJobs => "P004"
  | .kind => "P005"
  | .scan => "A001"
  | .agreement => "M001"

/-- What is checked of the outline, in order. -/
def ofOutline : List Check :=
  [.scan, .root .ast, .requiredKeys .ast]

end Check

/-- What a file is built as: a workflow, which may have to be one that other workflows can call, or
a composite action. -/
inductive ModelKind where
  | workflow (callable : Bool)
  | composite

namespace ModelKind

/-- Build a model of a file. -/
def outcome : ModelKind → SourceFile → Except Failure Unit
  | .workflow false, file => (Workflow.ofFile file).map fun _ => ()
  | .workflow true, file => (Workflow.reusableOfFile file).map fun _ => ()
  | .composite, file => (CompositeAction.ofFile file).map fun _ => ()

/-- What is checked of the value, in order. -/
def valueChecks : ModelKind → List Check
  | .workflow false => [.reading, .root .value, .requiredKeys .value, .someJobs, .decoding]
  | .workflow true => [.reading, .root .value, .requiredKeys .value, .someJobs, .decoding, .kind]
  | .composite => [.reading, .root .value, .requiredKeys .value, .decoding, .kind]

/-- All checks in order. -/
def checks (kind : ModelKind) : List Check :=
  kind.valueChecks ++ (Check.ofOutline ++ [.agreement])

/-! ## What it is to fail a check -/

/-- The entries of a value have no jobs, or no steps to run. -/
def MissesKey : ModelKind → List (Value × Value) → Prop
  | .workflow _, entries => Value.valueOf? entries "jobs" = none
  | .composite, entries => (Value.valueOf? entries "runs").bind (·.get? "steps") = none

/-- The entries of a value cannot be decoded. -/
def IsUndecodable : ModelKind → List (Value × Value) → Prop
  | .workflow _, entries => ∃ mismatch, WorkflowDefinition.decode entries = .error mismatch
  | .composite, entries => ∃ mismatch, CompositeDefinition.decode entries = .error mismatch

/-- The entries of a value are decoded as a workflow that cannot be called, or as an action that is
not run as a composite one. -/
def IsOtherKind : ModelKind → List (Value × Value) → Prop
  | .workflow false, _ => False
  | .workflow true, entries =>
      ∃ workflow, WorkflowDefinition.decode entries = .ok workflow ∧ ¬ workflow.DeclaresCall
  | .composite, entries =>
      ∃ action, CompositeDefinition.decode entries = .ok action ∧
        action.runs.engine ≠ "composite"

/-- A node has no entry for jobs, or none for steps to run. -/
def MissesNode : ModelKind → Node → Prop
  | .workflow _, root => root.get? "jobs" = none
  | .composite, root => (root.get? "runs").bind (·.get? "steps") = none

/-- The ids of jobs are not the texts of the keys in order, or at some position the number of steps
is not that of the items. -/
def Disagrees : ModelKind → List (Value × Value) → Node → Prop
  | .workflow _, entries, root =>
      ∃ workflow jobs, WorkflowDefinition.decode entries = .ok workflow ∧
        root.get? "jobs" = some jobs ∧
        (workflow.jobs.map Prod.fst ≠ jobs.entries.map keyText ∨
          ∃ (i : Nat) (job : String × JobDefinition) (entry : Node × Node),
            workflow.jobs[i]? = some job ∧ jobs.entries[i]? = some entry ∧
              job.2.stepList.length ≠ entry.2.stepItems.length)
  | .composite, entries, root =>
      ∃ action runs, CompositeDefinition.decode entries = .ok action ∧
        root.get? "runs" = some runs ∧ action.runs.steps.length ≠ runs.stepItems.length

/-- The text has the entries of a mapping as its value. -/
def HasEntries (text : String) (entries : List (Value × Value)) : Prop :=
  Classic.value? text.toList = some (.mapping entries)

/-- The text has a node as its outline. -/
def HasNode (text : String) (root : Node) : Prop :=
  Node.ofText text (LineIndex.ofText text) = .ok root

/-- A text fails a check, whatever else it fails. -/
def Fails (kind : ModelKind) (text : String) : Check → Prop
  | .reading => Classic.value? text.toList = none
  | .root .value =>
      ∃ value, Classic.value? text.toList = some value ∧ ∀ entries, value ≠ .mapping entries
  | .requiredKeys .value => ∃ entries, HasEntries text entries ∧ kind.MissesKey entries
  | .someJobs =>
      ∃ entries, HasEntries text entries ∧ Value.valueOf? entries "jobs" = some (.mapping [])
  | .decoding => ∃ entries, HasEntries text entries ∧ kind.IsUndecodable entries
  | .kind => ∃ entries, HasEntries text entries ∧ kind.IsOtherKind entries
  | .scan => ∀ root, ¬ HasNode text root
  | .root .ast => ∃ root, HasNode text root ∧ root.isMapping = false
  | .requiredKeys .ast => ∃ root, HasNode text root ∧ kind.MissesNode root
  | .agreement =>
      ∃ entries root, HasEntries text entries ∧ HasNode text root ∧ kind.Disagrees entries root

end ModelKind

/-! ## Checks in a row -/

/-- A computation fails only for the first of its checks that fails, in its phase and with its code,
and succeeds only if none fails. -/
structure PassesInOrder {α : Type} (Fails : Check → Prop) (checks : List Check)
    (outcome : Except Cause α) : Prop where
  failed : ∀ cause, outcome = .error cause →
    ∃ check, IsFirst Fails checks check ∧ cause.phase = check.phase ∧ cause.code = check.code
  passed : ∀ result, outcome = .ok result → ∀ check ∈ checks, ¬ Fails check

namespace PassesInOrder

variable {α β : Type} {Fails : Check → Prop} {check : Check} {checks front back : List Check}
  {outcome : Except Cause α}

theorem nil (result : α) : PassesInOrder Fails [] (.ok result) where
  failed := by
    rintro cause ⟨⟩
  passed _ _ := List.forall_mem_nil _

/-- A check that fails leaves the others unseen. -/
theorem fails {cause : Cause} (fails : Fails check) (phase_eq : cause.phase = check.phase)
    (code_eq : cause.code = check.code) :
    PassesInOrder Fails (check :: checks) (.error cause : Except Cause α) where
  failed := by
    rintro _ ⟨⟩
    exact ⟨check, isFirst_cons_iff.mpr (.inl ⟨fails, rfl⟩), phase_eq, code_eq⟩
  passed := by
    rintro _ ⟨⟩

/-- A check that does not fail leaves it to the others. -/
theorem passes (passes : ¬ Fails check) (others : PassesInOrder Fails checks outcome) :
    PassesInOrder Fails (check :: checks) outcome where
  failed cause failure := by
    rcases others.failed cause failure with ⟨other, first, reported⟩
    exact ⟨other, isFirst_cons_iff.mpr (.inr ⟨passes, first⟩), reported⟩
  passed result success := List.forall_mem_cons.mpr ⟨passes, others.passed result success⟩

/-- The checks of a computation come before those of the one that is chained to it. -/
theorem bind {next : α → Except Cause β} (first : PassesInOrder Fails front outcome)
    (second : ∀ result, outcome = .ok result → PassesInOrder Fails back (next result)) :
    PassesInOrder Fails (front ++ back) (outcome >>= next) where
  failed cause failure := by
    rcases Except.bind_eq_error_iff.mp failure with failure | ⟨result, success, failure⟩
    · rcases first.failed cause failure with ⟨check, isFirst, reported⟩
      exact ⟨check, isFirst_append_iff.mpr (.inl isFirst), reported⟩
    · rcases (second result success).failed cause failure with ⟨check, isFirst, reported⟩
      have none := first.passed result success
      exact ⟨check, isFirst_append_iff.mpr (.inr ⟨none, isFirst⟩), reported⟩
  passed final success := by
    rcases Except.bind_eq_ok_iff.mp success with ⟨result, success, successNext⟩
    rw [List.forall_mem_append]
    exact ⟨first.passed result success, (second result success).passed final successNext⟩

end PassesInOrder

namespace ModelKind

section Uniqueness

variable {text : String} {entries : List (Value × Value)} {root : Node}

theorem HasEntries.exists_iff (has : HasEntries text entries)
    {property : List (Value × Value) → Prop} :
    (∃ others, HasEntries text others ∧ property others) ↔ property entries := by
  constructor
  · rintro ⟨others, hasOthers, holds⟩
    cases has.symm.trans hasOthers
    exact holds
  · exact fun holds => ⟨entries, has, holds⟩

theorem HasNode.exists_iff (has : HasNode text root) {property : Node → Prop} :
    (∃ other, HasNode text other ∧ property other) ↔ property root := by
  constructor
  · rintro ⟨other, hasOther, holds⟩
    cases has.symm.trans hasOther
    exact holds
  · exact fun holds => ⟨root, has, holds⟩

end Uniqueness

/-! ## The view of values -/

section Values

variable {text : String} {root : List (Value × Value)}

theorem readRoot_passesInOrder (kind : ModelKind) :
    PassesInOrder (kind.Fails text) [.reading, .root .value] (readRoot text) := by
  unfold readRoot
  cases found : Classic.value? text.toList with
  | none => exact .fails found rfl rfl
  | some value =>
      have reading : ¬ kind.Fails text .reading := by
        rw [Fails, found]
        exact Option.some_ne_none value
      apply PassesInOrder.passes reading
      cases value with
      | mapping entries =>
          apply PassesInOrder.passes _ (.nil entries)
          rintro ⟨value, same, notMapping⟩
          cases found.symm.trans same
          exact notMapping entries rfl
      | _ => exact .fails ⟨_, found, nofun⟩ rfl rfl

theorem workflowOfRoot_passesInOrder (callable : Bool) (has : HasEntries text root) :
    PassesInOrder ((workflow callable).Fails text) [.requiredKeys .value, .someJobs, .decoding]
      (WorkflowDefinition.ofRoot root) := by
  unfold WorkflowDefinition.ofRoot
  have keys_iff : (workflow callable).Fails text (.requiredKeys .value) ↔
      Value.valueOf? root "jobs" = none := has.exists_iff
  have someJobs_iff : (workflow callable).Fails text .someJobs ↔
      Value.valueOf? root "jobs" = some (.mapping []) := has.exists_iff
  have decoding_iff : (workflow callable).Fails text .decoding ↔
      ∃ mismatch, WorkflowDefinition.decode root = .error mismatch := has.exists_iff
  split
  · rename_i missing
    exact .fails (keys_iff.mpr missing) rfl rfl
  · rename_i empty
    apply PassesInOrder.passes (by simp [keys_iff, empty])
    exact .fails (someJobs_iff.mpr empty) rfl rfl
  · rename_i jobs notEmpty found
    have some_job : ¬ (workflow callable).Fails text .someJobs := by
      rw [someJobs_iff, found]
      rintro ⟨⟩
      exact notEmpty rfl
    apply PassesInOrder.passes (by simp [keys_iff, found])
    apply PassesInOrder.passes some_job
    cases decoded : WorkflowDefinition.decode root with
    | error mismatch => exact .fails (decoding_iff.mpr ⟨mismatch, decoded⟩) rfl rfl
    | ok definition => exact .passes (by simp [decoding_iff, decoded]) (.nil definition)

theorem workflowOfText_passesInOrder (callable : Bool) :
    PassesInOrder ((workflow callable).Fails text) (workflow false).valueChecks
      (WorkflowDefinition.ofText text) := by
  apply (readRoot_passesInOrder (workflow callable)).bind
  intro root read
  exact workflowOfRoot_passesInOrder callable (readRoot_eq_ok_iff.mp read)

/-- A definition that has been read is what the entries of the text are decoded as. -/
theorem exists_entries_of_workflowOfText {definition : WorkflowDefinition}
    (accepted : WorkflowDefinition.ofText text = .ok definition) :
    ∃ entries, HasEntries text entries ∧ WorkflowDefinition.decode entries = .ok definition := by
  rcases WorkflowDefinition.ofText_eq_ok_iff.mp accepted with ⟨root, jobs, read, -, -, decoded⟩
  exact ⟨root, readRoot_eq_ok_iff.mp read, decoded⟩

theorem reusableOfText_passesInOrder :
    PassesInOrder ((workflow true).Fails text) (workflow true).valueChecks
      (WorkflowDefinition.reusableOfText text) := by
  apply (workflowOfText_passesInOrder true).bind
  intro definition accepted
  rcases exists_entries_of_workflowOfText accepted with ⟨entries, has, decoded⟩
  have kind_iff : (workflow true).Fails text .kind ↔ ¬ definition.DeclaresCall := by
    have holds : (workflow true).Fails text .kind ↔ (workflow true).IsOtherKind entries :=
      has.exists_iff
    simp [holds, IsOtherKind, decoded]
  rw [← WorkflowDefinition.isCallable_iff] at kind_iff
  unfold WorkflowDefinition.requireCallable
  split
  · rename_i callable
    exact .passes (by simp [kind_iff, callable]) (.nil definition)
  · rename_i notCallable
    exact .fails (kind_iff.mpr notCallable) rfl rfl

theorem compositeOfRoot_passesInOrder (has : HasEntries text root) :
    PassesInOrder (composite.Fails text) [.requiredKeys .value, .decoding, .kind]
      (CompositeDefinition.ofRoot root) := by
  unfold CompositeDefinition.ofRoot
  have keys_iff : composite.Fails text (.requiredKeys .value) ↔
      (Value.valueOf? root "runs").bind (·.get? "steps") = none := has.exists_iff
  have decoding_iff : composite.Fails text .decoding ↔
      ∃ mismatch, CompositeDefinition.decode root = .error mismatch := has.exists_iff
  have kind_iff : composite.Fails text .kind ↔
      ∃ action, CompositeDefinition.decode root = .ok action ∧ action.runs.engine ≠ "composite" :=
    has.exists_iff
  cases foundRuns : Value.valueOf? root "runs" with
  | none => exact .fails (keys_iff.mpr (by simp [foundRuns])) rfl rfl
  | some runs =>
      cases foundSteps : runs.get? "steps" with
      | none =>
          simp only [foundSteps]
          exact .fails (keys_iff.mpr (by simp [foundRuns, foundSteps])) rfl rfl
      | some steps =>
          simp only [foundSteps]
          apply PassesInOrder.passes (by simp [keys_iff, foundRuns, foundSteps])
          cases decoded : CompositeDefinition.decode root with
          | error mismatch => exact .fails (decoding_iff.mpr ⟨mismatch, decoded⟩) rfl rfl
          | ok action =>
              apply PassesInOrder.passes (by simp [decoding_iff, decoded])
              change PassesInOrder _ _ (if action.runs.engine = "composite" then _ else _)
              split
              · rename_i isComposite
                exact .passes (by simp [kind_iff, decoded, isComposite]) (.nil action)
              · rename_i notComposite
                exact .fails (kind_iff.mpr ⟨action, decoded, notComposite⟩) rfl rfl

theorem compositeOfText_passesInOrder :
    PassesInOrder (composite.Fails text) composite.valueChecks
      (CompositeDefinition.ofText text) := by
  apply (readRoot_passesInOrder composite).bind
  intro root read
  exact compositeOfRoot_passesInOrder (readRoot_eq_ok_iff.mp read)

end Values

/-! ## The outline -/

section Outlines

variable {text : String}

/-- Whatever goes wrong before there is a node is reported under one code. -/
theorem phase_code_of_nodeOfText_eq_error {index : LineIndex} {cause : Cause}
    (failed : Node.ofText text index = .error cause) :
    cause.phase = .ast ∧ cause.code = "A001" := by
  unfold Node.ofText at failed
  split at failed
  · cases failed
    exact ⟨rfl, rfl⟩
  · rename_i events scanned
    rcases faultless_or_firstFault (nodeEvents events) with faultless | ⟨other, first⟩
    · by_cases something : ∃ (node : WrittenNode) (rest : List MarkedEvent),
          nodeEvents events = node.events ++ rest
      · rcases something with ⟨node, rest, begins⟩
        rw [Builder.run_of_begins faultless begins] at failed
        contradiction
      · rw [Builder.run_of_not_begins faultless something] at failed
        cases failed
        exact ⟨rfl, rfl⟩
    · rw [Builder.run_of_firstFault first] at failed
      cases failed
      rcases first with ⟨before, marked, after, -, -, fault⟩
      exact fault.phase_code

theorem outlineOfText_passesInOrder (kind : ModelKind) :
    PassesInOrder (kind.Fails text) [.scan, .root .ast] (FileOutline.ofText text) := by
  have scans : PassesInOrder (kind.Fails text) [.scan]
      (Node.ofText text (LineIndex.ofText text)) := by
    cases found : Node.ofText text (LineIndex.ofText text) with
    | error cause =>
        rcases phase_code_of_nodeOfText_eq_error found with ⟨phase_eq, code_eq⟩
        apply PassesInOrder.fails _ phase_eq code_eq
        intro root has
        cases has.symm.trans found
    | ok root => exact .passes (fun fails => fails root found) (.nil root)
  apply scans.bind
  intro root has
  have root_iff : kind.Fails text (.root .ast) ↔ root.isMapping = false :=
    HasNode.exists_iff has
  unfold FileOutline.ofNode
  split
  · rename_i isMapping
    exact .passes (by simp [root_iff, isMapping]) (.nil _)
  · rename_i notMapping
    exact .fails (root_iff.mpr (Bool.eq_false_iff.mpr notMapping)) rfl rfl

theorem hasNode_of_outlineOfText {outline : FileOutline}
    (found : FileOutline.ofText text = .ok outline) : HasNode text outline.root := by
  rw [FileOutline.ofText, Except.bind_eq_ok_iff] at found
  rcases found with ⟨root, built, accepted⟩
  rcases FileOutline.ofNode_eq_ok_iff.mp accepted with ⟨-, rfl⟩
  exact built

end Outlines

/-! ## Both views -/

section Pairing

variable {text : String} {entries : List (Value × Value)} {origin : Origin}
  {outline : FileOutline}

theorem get?_of_lookup? {node : Node} {key : String} {entry : Node × Node}
    (found : node.lookup? key = some entry) : node.get? key = some entry.2 := by
  rw [get?, found]
  rfl

theorem fails_agreement_iff {kind : ModelKind} (has : HasEntries text entries)
    (hasNode : HasNode text outline.root) :
    kind.Fails text .agreement ↔ kind.Disagrees entries outline.root := by
  constructor
  · rintro ⟨others, root, hasOthers, hasRoot, disagrees⟩
    cases has.symm.trans hasOthers
    cases hasNode.symm.trans hasRoot
    exact disagrees
  · exact fun disagrees => ⟨entries, outline.root, has, hasNode, disagrees⟩

theorem not_forall₂_agrees_iff {declared : List (String × JobDefinition)}
    {nodes : List (Node × Node)} :
    ¬ List.Forall₂ Agrees declared nodes ↔
      declared.map Prod.fst ≠ nodes.map keyText ∨
        ∃ (i : Nat) (job : String × JobDefinition) (entry : Node × Node),
          declared[i]? = some job ∧ nodes[i]? = some entry ∧
            job.2.stepList.length ≠ entry.2.stepItems.length := by
  rw [forall₂_agrees_iff, not_and_or]
  simp only [not_forall, exists_prop]

theorem pairWorkflow_passesInOrder (callable : Bool) {definition : WorkflowDefinition}
    (has : HasEntries text entries) (decoded : WorkflowDefinition.decode entries = .ok definition)
    (hasNode : HasNode text outline.root) :
    PassesInOrder ((workflow callable).Fails text) [.requiredKeys .ast, .agreement]
      (Workflow.pair origin definition outline) := by
  have keys_iff : (workflow callable).Fails text (.requiredKeys .ast) ↔
      outline.root.get? "jobs" = none := hasNode.exists_iff
  have pairs : PassesInOrder ((workflow callable).Fails text) [.requiredKeys .ast, .agreement]
      (pairJobs origin outline definition.jobs) := by
    cases found : outline.root.get? "jobs" with
    | none =>
        rw [pairJobs_of_get?_eq_none _ found]
        exact .fails (keys_iff.mpr found) rfl rfl
    | some jobs =>
        have agreement_iff : (workflow callable).Fails text .agreement ↔
            ¬ List.Forall₂ Agrees definition.jobs jobs.entries := by
          rw [fails_agreement_iff has hasNode, not_forall₂_agrees_iff]
          simp [Disagrees, decoded, found]
        apply PassesInOrder.passes (by simp [keys_iff, found])
        cases paired : pairJobs origin outline definition.jobs with
        | error cause =>
            have phase_eq := phase_of_pairJobs_eq_error found paired
            have code_eq := cause.code_eq_pairingCode_iff.mpr phase_eq
            apply PassesInOrder.fails _ phase_eq code_eq
            rw [agreement_iff]
            intro agree
            cases paired.symm.trans (pairJobs_eq_ok_iff.mpr ⟨jobs, found, agree, rfl⟩)
        | ok result =>
            apply PassesInOrder.passes _ (.nil result)
            rw [agreement_iff, not_not]
            rcases pairJobs_eq_ok_iff.mp paired with ⟨_, foundToo, agree, -⟩
            cases found.symm.trans foundToo
            exact agree
  exact pairs.bind fun jobs _ => .nil _

theorem pairComposite_passesInOrder {definition : CompositeDefinition}
    (has : HasEntries text entries) (decoded : CompositeDefinition.decode entries = .ok definition)
    (hasNode : HasNode text outline.root) :
    PassesInOrder (composite.Fails text) [.requiredKeys .ast, .agreement]
      (CompositeAction.pair origin definition outline) := by
  have keys_iff : composite.Fails text (.requiredKeys .ast) ↔
      (outline.root.get? "runs").bind (·.get? "steps") = none := hasNode.exists_iff
  have agreement_iff : composite.Fails text .agreement ↔
      ∃ runs, outline.root.get? "runs" = some runs ∧
        definition.runs.steps.length ≠ runs.stepItems.length := by
    rw [fails_agreement_iff has hasNode]
    simp [Disagrees, decoded]
  have finds : PassesInOrder (composite.Fails text) [.requiredKeys .ast] outline.compositeJob := by
    unfold FileOutline.compositeJob
    cases foundRuns : outline.root.lookup? "runs" with
    | none => exact .fails (keys_iff.mpr (by simp [get?, foundRuns])) rfl rfl
    | some runs =>
        have found := get?_of_lookup? foundRuns
        cases foundSteps : runs.2.get? "steps" with
        | none =>
            simp only [foundSteps]
            exact .fails (keys_iff.mpr (by simp [found, foundSteps])) rfl rfl
        | some steps =>
            simp only [foundSteps]
            exact .passes (by simp [keys_iff, found, foundSteps]) (.nil _)
  apply finds.bind
  intro job foundJob
  rcases FileOutline.compositeJob_eq_ok_iff.mp foundJob with ⟨runs, steps, foundRuns, -, rfl⟩
  have found := get?_of_lookup? foundRuns
  have pairs : PassesInOrder (composite.Fails text) [.agreement]
      (pairSteps origin outline.index definition.runs.steps (.unnamed runs.1.offset runs.2)) := by
    cases paired : pairSteps origin outline.index definition.runs.steps
        (.unnamed runs.1.offset runs.2) with
    | error cause =>
        have phase_eq := phase_of_pairSteps_eq_error paired
        have code_eq := cause.code_eq_pairingCode_iff.mpr phase_eq
        apply PassesInOrder.fails _ phase_eq code_eq
        refine agreement_iff.mpr ⟨runs.2, found, ?_⟩
        intro lengths
        cases paired.symm.trans (pairSteps_eq_ok_iff.mpr ⟨lengths, rfl⟩)
    | ok steps =>
        apply PassesInOrder.passes _ (.nil steps)
        rw [agreement_iff]
        rintro ⟨_, foundToo, lengths⟩
        cases found.symm.trans foundToo
        exact lengths (pairSteps_eq_ok_iff.mp paired).1
  exact pairs.bind fun steps _ => .nil _

end Pairing

/-! ## Building -/

section Building

variable (file : SourceFile)

theorem buildWorkflow_passesInOrder (callable : Bool)
    {read : String → Except Cause WorkflowDefinition}
    (reads : PassesInOrder ((workflow callable).Fails file.text) (workflow callable).valueChecks
      (read file.text))
    (read_eq : ∀ definition, read file.text = .ok definition →
      WorkflowDefinition.ofText file.text = .ok definition) :
    PassesInOrder ((workflow callable).Fails file.text) (workflow callable).checks
      (Workflow.build read file) := by
  apply reads.bind
  intro definition accepted
  rcases exists_entries_of_workflowOfText (read_eq definition accepted) with
    ⟨entries, has, decoded⟩
  apply (outlineOfText_passesInOrder (workflow callable)).bind
  intro outline found
  exact pairWorkflow_passesInOrder callable has decoded (hasNode_of_outlineOfText found)

theorem buildComposite_passesInOrder :
    PassesInOrder (composite.Fails file.text) composite.checks (CompositeAction.build file) := by
  apply compositeOfText_passesInOrder.bind
  intro definition accepted
  rcases CompositeDefinition.ofText_eq_ok_iff.mp accepted with ⟨root, read, -, decoded, -⟩
  apply (outlineOfText_passesInOrder composite).bind
  intro outline found
  exact pairComposite_passesInOrder (readRoot_eq_ok_iff.mp read) decoded
    (hasNode_of_outlineOfText found)

end Building

end ModelKind

end RunAtlas
