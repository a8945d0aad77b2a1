import RunAtlas.Model.CompositeAction
import RunAtlas.Proofs.FirstElement
import RunAtlas.Proofs.Outcome
import RunAtlas.Proofs.Text.Cuts

/-!
# The names of steps

A run-time name refers to the first step that it fits once a decoration is removed from it.  The
decoration is removed no matter who wrote it.  So the declared name of a step leads back to the step
or to an earlier one, unless the declared name itself begins with a decoration.

A step without a declared name and a text to run is reported under a decoration and its reference.
The reference is split at its last at sign and the run-time name at its first, so that the step is
found under its own reference exactly if that has no two at signs.
-/

namespace RunAtlas

open Text

namespace ActionReference

/-- The action of a reference is the one that an undecorated name tells: what stands in the name
before its first at sign. -/
def IsToldBy (reference : ActionReference) (sought : String) : Prop :=
  IsBeforeFirst '@' sought.toList reference.action.toList

theorem isToldBy_iff {reference : ActionReference} {sought : String} :
    reference.IsToldBy sought ↔
      reference.action = String.ofList (beforeFirst '@' sought.toList) := by
  rw [IsToldBy, isBeforeFirst_iff, ← String.toList_inj, String.toList_ofList]

theorem action_parse_of_splitLast? {reference : String} {before after : List Char}
    (cut : splitLast? '@' reference.toList = some (before, after)) :
    (parse reference).action = String.ofList before := by
  rw [parse, cut]

theorem action_parse_of_not_mem {reference : String} (absent : '@' ∉ reference.toList) :
    (parse reference).action = reference := by
  rw [parse, splitLast?_eq_none_iff.mpr absent]

/-- The two ways to split a reference agree on its action exactly if it has no two at signs. -/
theorem isToldBy_parse_iff {reference : String} :
    (parse reference).IsToldBy reference ↔ reference.toList.count '@' ≤ 1 := by
  rw [IsToldBy]
  cases cut : splitLast? '@' reference.toList with
  | none =>
      have absent := splitLast?_eq_none_iff.mp cut
      rw [action_parse_of_not_mem absent, List.count_eq_zero.mpr absent]
      exact iff_of_true ⟨absent, .inl rfl⟩ (Nat.zero_le 1)
  | some parts =>
      obtain ⟨before, after⟩ := parts
      rw [action_parse_of_splitLast? cut, String.toList_ofList]
      exact isBeforeFirst_iff_of_splitLast? cut

/-- A reference is its own action only if it has no at sign. -/
theorem not_mem_of_action_parse_eq_self {reference : String}
    (same : (parse reference).action = reference) : '@' ∉ reference.toList := by
  cases cut : splitLast? '@' reference.toList with
  | none => exact splitLast?_eq_none_iff.mp cut
  | some parts =>
      obtain ⟨before, after⟩ := parts
      obtain ⟨shape, -⟩ := splitLast?_eq_some_iff.mp cut
      rw [action_parse_of_splitLast? cut] at same
      have lengths := congrArg (fun text => text.toList.length) same
      simp only [String.toList_ofList, shape, List.length_append, List.length_cons] at lengths
      omega

end ActionReference

namespace Step

/-! ## Decorations -/

/-- A run-time name is a decoration and a rest, and begins with no longer decoration. -/
structure IsDecorated (rawName decoration rest : String) : Prop where
  isDecoration : decoration ∈ decorations
  shape : rawName = decoration ++ rest
  longest : ∀ other ∈ decorations, other.toList <+: rawName.toList →
    other.toList.length ≤ decoration.toList.length

/-- A run-time name begins with no decoration. -/
def IsPlain (rawName : String) : Prop :=
  ∀ decoration ∈ decorations, ¬ decoration.toList <+: rawName.toList

instance (rawName : String) : Decidable (IsPlain rawName) :=
  inferInstanceAs (Decidable (∀ decoration ∈ decorations, ¬ decoration.toList <+: rawName.toList))

theorem decorations_ordered :
    decorations.Pairwise fun first second => ¬ first.toList <+: second.toList := by
  decide

theorem undecorate_of_isDecorated {rawName decoration rest : String}
    (decorated : IsDecorated rawName decoration rest) : undecorate rawName = rest := by
  rcases decorated with ⟨isDecoration, rfl, longest⟩
  have removed := (findSome?_afterLead?_eq_some_iff decorations_ordered).mpr
    ⟨decoration, isDecoration, String.toList_append, longest⟩
  rw [undecorate, removed]
  exact String.ofList_toList

theorem undecorate_of_isPlain {rawName : String} (plain : IsPlain rawName) :
    undecorate rawName = rawName := by
  rw [undecorate, findSome?_afterLead?_eq_none_iff.mpr plain]

/-- Every run-time name is plain or decorated. -/
theorem isPlain_or_isDecorated (rawName : String) :
    IsPlain rawName ∨ ∃ decoration rest, IsDecorated rawName decoration rest := by
  cases removed : decorations.findSome? fun decoration =>
      afterLead? decoration.toList rawName.toList with
  | none => exact .inl (findSome?_afterLead?_eq_none_iff.mp removed)
  | some rest =>
      rcases (findSome?_afterLead?_eq_some_iff decorations_ordered).mp removed with
        ⟨decoration, isDecoration, shape, longest⟩
      refine .inr ⟨decoration, String.ofList rest, isDecoration, ?_, longest⟩
      rw [← String.toList_inj, String.toList_append, String.toList_ofList]
      exact shape

/-- The decorations under which a step without a declared name is reported. -/
def runDecorations : List String :=
  ["Run ", "Pre Run ", "Post Run "]

/-- No other decoration begins with one of these. -/
theorem length_le_of_runDecoration_leads : ∀ decoration ∈ runDecorations,
    ∀ other ∈ decorations, decoration.toList <+: other.toList →
      other.toList.length ≤ decoration.toList.length := by
  decide

theorem isDecorated_runDecoration {decoration : String} (isRun : decoration ∈ runDecorations)
    (rest : String) : IsDecorated (decoration ++ rest) decoration rest where
  isDecoration := by
    have included : ∀ decoration ∈ runDecorations, decoration ∈ decorations := by decide
    exact included decoration isRun
  shape := rfl
  longest := by
    intro other isDecoration leads
    rcases Nat.le_total other.toList.length decoration.toList.length with shorter | longer
    · exact shorter
    · apply length_le_of_runDecoration_leads decoration isRun other isDecoration
      rw [String.toList_append] at leads
      exact List.prefix_of_prefix_length_le (List.prefix_append _ _) leads longer

theorem runDecoration_append_not_mem_pseudoNames {decoration : String}
    (isRun : decoration ∈ runDecorations) (rest : String) :
    decoration ++ rest ∉ pseudoNames := by
  intro pseudo
  have apart : ∀ decoration ∈ runDecorations, ∀ name ∈ pseudoNames,
      ¬ decoration.toList <+: name.toList := by
    decide
  apply apart decoration isRun _ pseudo
  rw [String.toList_append]
  exact List.prefix_append _ _

/-! ## Resolved names -/

section ResolvedName

variable {step : Step}

theorem name_of_declared {name : String} (declared : step.definition.name = some name) :
    step.name = name := by
  rw [Step.name, declared]
  rfl

theorem name_of_run {text : String} (unnamed : step.definition.name = none)
    (runs : step.definition.run = some text) : step.name = text := by
  rw [name, unnamed, runs]
  rfl

theorem name_of_uses {reference : String} (unnamed : step.definition.name = none)
    (noRun : step.definition.run = none) (uses : step.definition.uses = some reference) :
    step.name = (ActionReference.parse reference).action := by
  rw [name, reference?, unnamed, noRun, uses]
  rfl

theorem name_of_nothing (unnamed : step.definition.name = none)
    (noRun : step.definition.run = none) (noUses : step.definition.uses = none) :
    step.name = "" := by
  rw [name, reference?, unnamed, noRun, noUses]
  rfl

end ResolvedName

/-! ## Fitting names -/

/-- An undecorated name fits a step: it is the resolved name of the step, or it tells its action
before its first at sign. -/
def Fits (sought : String) (step : Step) : Prop :=
  step.name = sought ∨
    ∃ reference, step.reference? = some reference ∧ reference.IsToldBy sought

theorem answersTo_iff {sought : String} (step : Step) :
    answersTo sought step = true ↔ step.Fits sought := by
  rw [answersTo, Bool.or_eq_true, beq_iff_eq, Option.any_eq_true, Fits]
  apply or_congr_right
  apply exists_congr
  intro reference
  rw [beq_iff_eq, ActionReference.isToldBy_iff]

instance (sought : String) (step : Step) : Decidable (step.Fits sought) :=
  decidable_of_iff _ (answersTo_iff step)

/-- A run-time name refers to the first step that it fits once its decoration is removed. -/
theorem value_matchName_eq_some_iff {steps : List Step} {rawName sought : String} {found : Step}
    (notPseudo : rawName ∉ pseudoNames) (undecorated : undecorate rawName = sought) :
    (matchName steps rawName).value = some found ↔ IsFirst (Fits sought) steps found := by
  rw [value_matchName, named?_eq, if_neg notPseudo, undecorated]
  exact find?_eq_some_iff_isFirst answersTo_iff

theorem value_matchName_eq_none_iff {steps : List Step} {rawName sought : String}
    (notPseudo : rawName ∉ pseudoNames) (undecorated : undecorate rawName = sought) :
    (matchName steps rawName).value = none ↔ ∀ step ∈ steps, ¬ step.Fits sought := by
  rw [value_matchName, named?_eq, if_neg notPseudo, undecorated, List.find?_eq_none]
  apply forall₂_congr
  intro step _
  rw [answersTo_iff]

/-- A step is found at the latest where a step stands that the undecorated name fits. -/
theorem exists_found_of_fits (before after : List Step) {step : Step} {rawName sought : String}
    (notPseudo : rawName ∉ pseudoNames) (undecorated : undecorate rawName = sought)
    (fits : step.Fits sought) :
    ∃ front found back, before ++ step :: after = front ++ found :: back ∧
      front.length ≤ before.length ∧
      (matchName (before ++ step :: after) rawName).value = some found ∧ found.Fits sought := by
  obtain ⟨front, found, back, shape, early, fitsFound, none⟩ :=
    exists_isFirst before after fits
  refine ⟨front, found, back, shape, early, ?_, fitsFound⟩
  rw [value_matchName_eq_some_iff notPseudo undecorated]
  exact ⟨front, back, shape, fitsFound, none⟩

/-! ## Declared names -/

/-- What the declared name of one of some steps refers to among them. -/
structure AnswersDeclaredName (steps : List Step) (name : String) (answer : Option Step) :
    Prop where
  /-- A plain name refers to the first step that it fits, and there is one. -/
  plain : IsPlain name → ∃ found, answer = some found ∧ IsFirst (Fits name) steps found
  /-- A decorated name refers to the first step that its rest fits. -/
  decorated : ∀ decoration rest, IsDecorated name decoration rest →
    ∀ found, answer = some found ↔ IsFirst (Fits rest) steps found
  /-- A decorated name refers to no step exactly if its rest fits none. -/
  missed : ∀ decoration rest, IsDecorated name decoration rest →
    (answer = none ↔ ∀ step ∈ steps, ¬ step.Fits rest)

theorem answersDeclaredName_matchName {steps : List Step} {step : Step} {name : String}
    (member : step ∈ steps) (declared : step.definition.name = some name)
    (notPseudo : name ∉ pseudoNames) :
    AnswersDeclaredName steps name (matchName steps name).value where
  plain := by
    intro plain
    obtain ⟨before, after, rfl⟩ := List.append_of_mem member
    have undecorated := undecorate_of_isPlain plain
    have fits : step.Fits name := .inl (name_of_declared declared)
    obtain ⟨-, found, -, -, -, answer, -⟩ :=
      exists_found_of_fits before after notPseudo undecorated fits
    exact ⟨found, answer, (value_matchName_eq_some_iff notPseudo undecorated).mp answer⟩
  decorated := by
    intro decoration rest decorated found
    exact value_matchName_eq_some_iff notPseudo (undecorate_of_isDecorated decorated)
  missed := by
    intro decoration rest decorated
    exact value_matchName_eq_none_iff notPseudo (undecorate_of_isDecorated decorated)

end Step

/-- The declared name of a step of a job or of a composite action, other than the name of a step
that every run has, refers to the first step that it fits once its decoration is removed.  There is
such a step if the declared name has no decoration. -/
theorem matchStep_declaredName {step : Step} {name : String}
    (declared : step.definition.name = some name) (notPseudo : name ∉ Step.pseudoNames) :
    (Step.IsPlain name ∨ ∃ decoration rest, Step.IsDecorated name decoration rest) ∧
    (∀ job : Job, step ∈ job.steps →
      Step.AnswersDeclaredName job.steps name (job.matchStep name).value) ∧
    (∀ action : CompositeAction, step ∈ action.steps →
      Step.AnswersDeclaredName action.steps name (action.matchStep name).value) := by
  refine ⟨Step.isPlain_or_isDecorated name, ?_, ?_⟩
  · intro job member
    exact Step.answersDeclaredName_matchName member declared notPseudo
  · intro action member
    exact Step.answersDeclaredName_matchName member declared notPseudo

/-- A job of two steps, the second of which declares a name that begins with a decoration. -/
def testJob : Job where
  id := "test"
  definition := ⟨none, none, none, none, none, none, []⟩
  startLine := 2
  steps :=
    [⟨⟨none, some "Checkout", some "actions/checkout@v4", none, none, []⟩, 4, ⟨none, "ci.yml"⟩⟩,
      ⟨⟨none, some "Run tests", none, some "cargo test", none, []⟩, 6, ⟨none, "ci.yml"⟩⟩]
  origin := ⟨none, "ci.yml"⟩

theorem matchStep_checkout :
    (∃ found, (testJob.matchStep "Checkout").value = some found ∧
      IsFirst (Step.Fits "Checkout") testJob.steps found) ∧
    (testJob.matchStep "Run tests").value = none := by
  constructor
  · have member : testJob.steps[0] ∈ testJob.steps := List.getElem_mem _
    have answers := (matchStep_declaredName (by rfl) (by decide)).2.1 testJob member
    exact answers.plain (by decide)
  · have member : testJob.steps[1] ∈ testJob.steps := List.getElem_mem _
    have answers := (matchStep_declaredName (by rfl) (by decide)).2.1 testJob member
    have isRun : "Run " ∈ Step.runDecorations := by decide
    have decorated : Step.IsDecorated "Run tests" "Run " "tests" :=
      Step.isDecorated_runDecoration isRun "tests"
    rw [answers.missed "Run " "tests" decorated]
    decide

/-- A workflow of one job, whose only step declares a name that begins with a decoration. -/
def testsFile : SourceFile :=
  ⟨"jobs:\n  a:\n    steps:\n      - name: Run tests\n        run: cargo test\n",
    ⟨none, "ci.yml"⟩⟩

theorem matchStep_runTests :
    ∃ workflow job step, Workflow.ofFile testsFile = .ok workflow ∧ workflow.jobs = [job] ∧
      job.steps = [step] ∧ step.definition.name = some "Run tests" ∧
      "Run tests" ∉ Step.pseudoNames ∧ (job.matchStep "Run tests").value = none := by
  have reported : (Workflow.ofFile testsFile).toOption.map (fun workflow =>
      workflow.jobs.map fun job =>
        (job.steps.map (·.definition.name), (job.matchStep "Run tests").value.isNone)) =
      some [([some "Run tests"], true)] := by
    decide +kernel
  rcases Except.exists_of_map_toOption reported with ⟨workflow, built, jobs⟩
  simp only [List.map_eq_cons_iff, List.map_eq_nil_iff, Prod.mk.injEq] at jobs
  rcases jobs with ⟨job, _, ofJob, ⟨⟨step, _, ofStep, declared, rfl⟩, missed⟩, rfl⟩
  exact ⟨workflow, job, step, built, ofJob, ofStep, declared, by decide,
    Option.isNone_iff_eq_none.mp missed⟩

/-! ## References -/

namespace Step

/-- The resolved name of a step is a reference, or its action is that of the reference. -/
def SharesAction (reference : String) (step : Step) : Prop :=
  step.name = reference ∨
    ∃ own, step.reference? = some own ∧ own.action = (ActionReference.parse reference).action

theorem fits_iff_sharesAction {reference : String} (few : reference.toList.count '@' ≤ 1)
    (step : Step) : step.Fits reference ↔ step.SharesAction reference := by
  have told := ActionReference.isToldBy_iff.mp (ActionReference.isToldBy_parse_iff.mpr few)
  rw [Fits, SharesAction, told]
  simp only [ActionReference.isToldBy_iff]

/-- The reference of a step that has neither a declared name nor a text to run fits the step exactly
if it has no two at signs. -/
theorem fits_reference_iff {step : Step} {reference : String}
    (uses : step.definition.uses = some reference) (unnamed : step.definition.name = none)
    (noRun : step.definition.run = none) :
    step.Fits reference ↔ reference.toList.count '@' ≤ 1 := by
  have own : step.reference? = some (ActionReference.parse reference) := by
    rw [reference?, uses]
    rfl
  have resolved := name_of_uses unnamed noRun uses
  constructor
  · rintro (same | ⟨other, isOwn, told⟩)
    · rw [resolved] at same
      rw [List.count_eq_zero.mpr (ActionReference.not_mem_of_action_parse_eq_self same)]
      exact Nat.zero_le 1
    · rw [own, Option.some.injEq] at isOwn
      rw [← isOwn] at told
      exact ActionReference.isToldBy_parse_iff.mp told
  · intro few
    exact .inr ⟨_, own, ActionReference.isToldBy_parse_iff.mpr few⟩

/-- A step without a declared name and a text to run is reported under a decoration and its
reference, which refers to the first step that the reference fits.  If the reference has no two at
signs, this is the first step with its action, and stands no later than the step that was reported.
If it has two, its action and what stands before the first of them differ, so that the reported step
itself is not found. -/
theorem matchName_reference (before after : List Step) {step : Step}
    {reference decoration : String} (uses : step.definition.uses = some reference)
    (unnamed : step.definition.name = none) (noRun : step.definition.run = none)
    (isRun : decoration ∈ runDecorations) :
    (∀ found, (matchName (before ++ step :: after) (decoration ++ reference)).value = some found ↔
      IsFirst (Fits reference) (before ++ step :: after) found) ∧
    (reference.toList.count '@' ≤ 1 →
      (∀ found,
        (matchName (before ++ step :: after) (decoration ++ reference)).value = some found ↔
          IsFirst (SharesAction reference) (before ++ step :: after) found) ∧
      ∃ front found back, before ++ step :: after = front ++ found :: back ∧
        front.length ≤ before.length ∧
        (matchName (before ++ step :: after) (decoration ++ reference)).value = some found) ∧
    (1 < reference.toList.count '@' →
      ¬ (ActionReference.parse reference).IsToldBy reference ∧
      (matchName (before ++ step :: after) (decoration ++ reference)).value ≠ some step) := by
  have notPseudo := runDecoration_append_not_mem_pseudoNames isRun reference
  have undecorated := undecorate_of_isDecorated (isDecorated_runDecoration isRun reference)
  have fits_iff := fits_reference_iff uses unnamed noRun
  have found_iff (found : Step) :
      (matchName (before ++ step :: after) (decoration ++ reference)).value = some found ↔
        IsFirst (Fits reference) (before ++ step :: after) found :=
    value_matchName_eq_some_iff notPseudo undecorated
  refine ⟨found_iff, ?_, ?_⟩
  · intro few
    constructor
    · intro found
      rw [found_iff]
      exact isFirst_congr (fits_iff_sharesAction few)
    · rcases exists_found_of_fits before after notPseudo undecorated (fits_iff.mpr few) with
        ⟨front, found, back, shape, early, answer, -⟩
      exact ⟨front, found, back, shape, early, answer⟩
  · intro many
    constructor
    · intro agree
      have few := ActionReference.isToldBy_parse_iff.mp agree
      omega
    · intro answer
      rcases (found_iff step).mp answer with ⟨-, -, -, fits, -⟩
      have few := fits_iff.mp fits
      omega

/-- A step of which only the reference is declared. -/
def ofReference (reference : String) (startLine : Nat) : Step :=
  ⟨⟨none, none, some reference, none, none, []⟩, startLine, ⟨none, "ci.yml"⟩⟩

theorem matchName_postRunCache :
    (matchName [ofReference "actions/cache@v4" 4, ofReference "actions/cache@v3" 5]
      "Post Run actions/cache@v3").value = some (ofReference "actions/cache@v4" 4) ∧
    (matchName [ofReference "octo/setup@tools@1.2.0" 4, ofReference "octo/setup@v1" 5]
      "Run octo/setup@tools@1.2.0").value ≠ some (ofReference "octo/setup@tools@1.2.0" 4) := by
  constructor
  · have isRun : "Post Run " ∈ runDecorations := by decide
    have few : "actions/cache@v3".toList.count '@' ≤ 1 := by decide
    have answers := @matchName_reference [ofReference "actions/cache@v4" 4] []
      (ofReference "actions/cache@v3" 5) _ _ rfl rfl rfl isRun
    apply ((answers.2.1 few).1 (ofReference "actions/cache@v4" 4)).mpr
    exact ⟨[], [ofReference "actions/cache@v3" 5], rfl, .inr ⟨_, rfl, rfl⟩, List.forall_mem_nil _⟩
  · have isRun : "Run " ∈ runDecorations := by decide
    have many : 1 < "octo/setup@tools@1.2.0".toList.count '@' := by decide
    have answers := @matchName_reference [] [ofReference "octo/setup@v1" 5]
      (ofReference "octo/setup@tools@1.2.0" 4) _ _ rfl rfl rfl isRun
    exact (answers.2.2 many).2

theorem matchName_runSetupTools :
    (ofReference "octo/setup@tools@1.2.0" 4).definition.uses = some "octo/setup@tools@1.2.0" ∧
    (ofReference "octo/setup@tools@1.2.0" 4).definition.name = none ∧
    (ofReference "octo/setup@tools@1.2.0" 4).definition.run = none ∧
    IsFirst (SharesAction "octo/setup@tools@1.2.0") [ofReference "octo/setup@tools@1.2.0" 4]
      (ofReference "octo/setup@tools@1.2.0" 4) ∧
    (matchName [ofReference "octo/setup@tools@1.2.0" 4] "Run octo/setup@tools@1.2.0").value =
      none := by
  refine ⟨rfl, rfl, rfl, ?_, ?_⟩
  · exact ⟨[], [], rfl, .inr ⟨_, rfl, rfl⟩, List.forall_mem_nil _⟩
  · apply Option.isNone_iff_eq_none.mp
    decide

end Step

end RunAtlas
