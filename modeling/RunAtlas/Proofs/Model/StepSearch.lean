import RunAtlas.Proofs.Model.StepNames

/-!
# Searching for steps

What is left of a run-time name, once the longest decoration that begins it is removed, decides
which step it refers to: the first one that this rest fits.  A search through steps in two parts
goes on to the second part only if nothing is found in the first.

A name under which a step is reported never loses the step: whatever follows a decoration, what is
left of the two together is what follows.
-/

namespace RunAtlas

namespace Step

/-! ## What is left of a name -/

/-- What is left of a run-time name without the longest decoration that begins it. -/
inductive IsRest (rawName : String) : String → Prop
  | plain (plain : IsPlain rawName) : IsRest rawName rawName
  | decorated {decoration rest : String} (decorated : IsDecorated rawName decoration rest) :
      IsRest rawName rest

theorem isRest_iff {rawName rest : String} : IsRest rawName rest ↔ rest = undecorate rawName := by
  constructor
  · rintro (plain | decorated)
    · exact (undecorate_of_isPlain plain).symm
    · exact (undecorate_of_isDecorated decorated).symm
  · rintro rfl
    rcases isPlain_or_isDecorated rawName with plain | ⟨decoration, rest, decorated⟩
    · rw [undecorate_of_isPlain plain]
      exact .plain plain
    · rw [undecorate_of_isDecorated decorated]
      exact .decorated decorated

/-! ## Resolved names -/

/-- The name that a step resolves to, by what is declared of it. -/
inductive ResolvesTo (step : Step) : String → Prop
  | declared {name : String} (declared : step.definition.name = some name) : ResolvesTo step name
  | run {text : String} (unnamed : step.definition.name = none)
      (runs : step.definition.run = some text) : ResolvesTo step text
  | action {reference : String} (unnamed : step.definition.name = none)
      (noRun : step.definition.run = none) (uses : step.definition.uses = some reference) :
      ResolvesTo step (ActionReference.parse reference).action
  | nothing (unnamed : step.definition.name = none) (noRun : step.definition.run = none)
      (noUses : step.definition.uses = none) : ResolvesTo step ""

theorem resolvesTo_iff {step : Step} {resolved : String} :
    step.ResolvesTo resolved ↔ resolved = step.name := by
  constructor
  · rintro (declared | ⟨unnamed, runs⟩ | ⟨unnamed, noRun, uses⟩ | ⟨unnamed, noRun, noUses⟩)
    · exact (name_of_declared declared).symm
    · exact (name_of_run unnamed runs).symm
    · exact (name_of_uses unnamed noRun uses).symm
    · exact (name_of_nothing unnamed noRun noUses).symm
  · rintro rfl
    cases named : step.definition.name with
    | some declared =>
        rw [name_of_declared named]
        exact .declared named
    | none =>
        cases runs : step.definition.run with
        | some text =>
            rw [name_of_run named runs]
            exact .run named runs
        | none =>
            cases uses : step.definition.uses with
            | some reference =>
                rw [name_of_uses named runs uses]
                exact .action named runs uses
            | none =>
                rw [name_of_nothing named runs uses]
                exact .nothing named runs uses

/-! ## Searching -/

variable {steps : List Step} {rawName : String}

theorem position?_eq_some_iff {sought : String} {position : Nat} (notPseudo : rawName ∉ pseudoNames)
    (undecorated : undecorate rawName = sought) :
    position? steps rawName = some position ↔
      ∃ found, IsFirstAt (Fits sought) steps position found := by
  rw [position?, if_neg notPseudo, undecorated]
  exact findIdx?_eq_some_iff_isFirstAt answersTo_iff

/-- The step that is found and its position. -/
theorem value_matchName_eq_some_iff_position {sought : String} {found : Step}
    (notPseudo : rawName ∉ pseudoNames) (undecorated : undecorate rawName = sought) :
    (matchName steps rawName).value = some found ↔
      ∃ position, position? steps rawName = some position ∧
        IsFirstAt (Fits sought) steps position found := by
  rw [value_matchName_eq_some_iff notPseudo undecorated, isFirst_iff_exists_isFirstAt]
  apply exists_congr
  intro position
  rw [position?_eq_some_iff notPseudo undecorated, iff_and_self]
  exact fun first => ⟨found, first⟩

theorem value_matchName_of_pseudo (pseudo : rawName ∈ pseudoNames) :
    (matchName steps rawName).value = none := by
  rw [value_matchName, named?_eq, if_pos pseudo]

/-- Steps that follow others are searched only if nothing is found among these. -/
theorem value_matchName_append (front back : List Step) (rawName : String) :
    (matchName (front ++ back) rawName).value =
      (matchName front rawName).value.or (matchName back rawName).value := by
  simp only [value_matchName, named?_eq]
  split
  · rfl
  · exact List.find?_append

/-- A run-time name other than that of a step that every run has refers to the first step that its
rest without the longest decoration fits, and to none exactly if it fits none. -/
theorem matchName_firstFit (steps : List Step) (rawName : String) :
    (∀ rest, IsRest rawName rest ↔ rest = undecorate rawName) ∧
    (∀ step : Step, ∀ resolved, step.ResolvesTo resolved ↔ resolved = step.name) ∧
    (rawName ∈ pseudoNames → (matchName steps rawName).value = none) ∧
    (rawName ∉ pseudoNames →
      (∀ found, (matchName steps rawName).value = some found ↔
        ∃ position, position? steps rawName = some position ∧
          IsFirstAt (Fits (undecorate rawName)) steps position found) ∧
      ((matchName steps rawName).value = none ↔
        ∀ step ∈ steps, ¬ step.Fits (undecorate rawName))) ∧
    ∀ front back, (matchName (front ++ back) rawName).value =
      (matchName front rawName).value.or (matchName back rawName).value := by
  refine ⟨fun rest => isRest_iff, fun step resolved => resolvesTo_iff, value_matchName_of_pseudo,
    fun notPseudo => ⟨fun found => ?_, ?_⟩, fun front back => ?_⟩
  · exact value_matchName_eq_some_iff_position notPseudo rfl
  · exact value_matchName_eq_none_iff notPseudo rfl
  · exact value_matchName_append front back rawName

/-- A step of which only the name is declared. -/
def ofName (name : String) (startLine : Nat) : Step :=
  ⟨⟨none, some name, none, none, none, []⟩, startLine, ⟨none, "ci.yml"⟩⟩

/-- A step whose name begins with a decoration, and two that have the rest of it for a name. -/
def testSteps : List Step :=
  [ofName "Run tests" 4, ofName "tests" 6, ofName "tests" 8]

theorem matchName_preRunTests :
    (matchName testSteps "Set up job").value = none ∧
    (matchName testSteps "Pre Run tests").value = some (ofName "tests" 6) ∧
    (matchName testSteps "Post build").value = none := by
  obtain ⟨-, -, pseudo, -, -⟩ := matchName_firstFit testSteps "Set up job"
  obtain ⟨-, -, -, searched, -⟩ := matchName_firstFit testSteps "Pre Run tests"
  obtain ⟨-, -, -, missed, -⟩ := matchName_firstFit testSteps "Post build"
  refine ⟨pseudo (by decide), ?_, (missed (by decide)).2.mpr (by decide)⟩
  refine ((searched (by decide)).1 _).mpr ⟨1, by decide, rfl, .inl (by decide), ?_⟩
  intro other earlier element found
  obtain rfl : other = 0 := Nat.lt_one_iff.mp earlier
  obtain rfl := Option.some.inj found
  decide

/-- A decoration under which steps are reported, followed by the resolved name of a step, refers to
the step or to an earlier one that the resolved name fits. -/
theorem matchName_runDecoration {position : Nat} {step : Step} {decoration : String}
    (found : steps[position]? = some step) (isRun : decoration ∈ runDecorations) :
    ∃ earliest answer, earliest ≤ position ∧
      IsFirstAt (Fits step.name) steps earliest answer ∧
      position? steps (decoration ++ step.name) = some earliest ∧
      (matchName steps (decoration ++ step.name)).value = some answer ∧
      ((∀ other < position, ∀ earlier, steps[other]? = some earlier →
          ¬ earlier.Fits step.name) →
        earliest = position ∧ answer = step) := by
  have notPseudo := runDecoration_append_not_mem_pseudoNames isRun step.name
  have undecorated := undecorate_of_isDecorated (isDecorated_runDecoration isRun step.name)
  have fits : step.Fits step.name := .inl rfl
  obtain ⟨earliest, answer, early, first⟩ := exists_isFirstAt_le found fits
  have located := (position?_eq_some_iff notPseudo undecorated).mpr ⟨answer, first⟩
  refine ⟨earliest, answer, early, first, located, ?_, ?_⟩
  · exact (value_matchName_eq_some_iff_position notPseudo undecorated).mpr ⟨_, located, first⟩
  · intro none
    have notEarlier : ¬ earliest < position := fun earlier =>
      none earliest earlier answer first.found_at first.holds
    obtain rfl : earliest = position := by omega
    exact ⟨rfl, Option.some.inj (first.found_at.symm.trans found)⟩

theorem matchName_runRunTests :
    (matchName testSteps ("Run " ++ "Run tests")).value = some (ofName "Run tests" 4) ∧
    ∃ earliest answer, earliest ≤ 2 ∧
      position? testSteps ("Post Run " ++ "tests") = some earliest ∧
      (matchName testSteps ("Post Run " ++ "tests")).value = some answer := by
  constructor
  · obtain ⟨earliest, answer, -, -, -, found, own⟩ :=
      @matchName_runDecoration testSteps 0 (ofName "Run tests" 4) "Run " rfl (by decide)
    have noneEarlier := own fun other earlier => absurd earlier (Nat.not_lt_zero other)
    rw [← noneEarlier.2]
    exact found
  · obtain ⟨earliest, answer, early, -, located, found, -⟩ :=
      @matchName_runDecoration testSteps 2 (ofName "tests" 8) "Post Run " rfl (by decide)
    exact ⟨earliest, answer, early, located, found⟩

end Step

end RunAtlas
