import RunAtlas.Definition.Basic
import RunAtlas.Notice
import RunAtlas.SourceFile
import RunAtlas.Text.Search

/-!
# Steps and the names under which they run

A step is its definition together with the line on which it starts.  A run reports it under a name
of its own, which may be decorated.  The step that a run-time name refers to is the first whose
resolved name it is, or whose action it names before the first at sign, once one decoration has been
removed.  The steps that every run has without defining them are no step's name.
-/

namespace RunAtlas

open Text

/-- A reference to an action, split at its last at sign. -/
structure ActionReference where
  action : String
  /-- What follows the last at sign, if there is one. -/
  gitRef : Option String
deriving Repr, DecidableEq

namespace ActionReference

/-- Split a reference. -/
def parse (reference : String) : ActionReference :=
  match splitLast? '@' reference.toList with
  | some (action, gitRef) => ⟨String.ofList action, some (String.ofList gitRef)⟩
  | none => ⟨reference, none⟩

end ActionReference

/-- The lead of a reference to something in the same repository. -/
def localLead : List Char := ['.', '/']

/-- Whether a reference is to something in the same repository. -/
def isLocal (reference : String) : Bool :=
  startsWith localLead reference.toList

/-- A step with the line on which it starts and the origin of its file. -/
structure Step where
  definition : StepDefinition
  startLine : Nat
  origin : Origin
deriving Repr, Inhabited

namespace Step

/-- The action that the step uses. -/
def reference? (step : Step) : Option ActionReference :=
  step.definition.uses.map ActionReference.parse

/-- The resolved name: the declared name, else the text that the step runs, else its action, else
nothing. -/
def name (step : Step) : String :=
  (step.definition.name.or (step.definition.run.or (step.reference?.map (·.action)))).getD ""

/-- What is shown for a step without a name, a reference and a text to run. -/
def notShowable : String := "Error: Not showable step"

/-- What is shown for the step: the declared name, else its reference, else the text that it
runs. -/
def showable (step : Step) : String :=
  (step.definition.name.or (step.definition.uses.or step.definition.run)).getD notShowable

/-- The web address of the line on which the step starts. -/
def lineUrl (step : Step) : Option String :=
  step.origin.lineUrl step.startLine

/-- The reference to a composite action in the same repository, other than the repository
itself. -/
def compositeReference? (step : Step) : Option String :=
  step.definition.uses.filter fun reference =>
    isLocal reference && reference.toList != localLead

/-- Whether the step uses a composite action in the same repository. -/
def isComposite (step : Step) : Bool :=
  step.compositeReference?.isSome

/-- The directory of the composite action, relative to the repository. -/
def compositeDirectory? (step : Step) : Option String :=
  step.compositeReference?.map fun reference =>
    String.ofList (dropTrailing '/' (dropLeads localLead reference.toList))

/-- The files that may define the composite action. -/
def compositePaths (step : Step) : List String :=
  match step.compositeDirectory? with
  | some directory => [directory ++ "/action.yml", directory ++ "/action.yaml"]
  | none => []

/-- The names of the steps that every run has without defining them. -/
def pseudoNames : List String :=
  ["Set up job", "Complete job"]

/-- The decorations of run-time names, a longer one before any that begins it. -/
def decorations : List String :=
  ["Pre Run ", "Post Run ", "Pre ", "Run ", "Post "]

/-- A run-time name without the first decoration that begins it. -/
def undecorate (rawName : String) : String :=
  match decorations.findSome? fun decoration =>
      afterLead? decoration.toList rawName.toList with
  | some rest => String.ofList rest
  | none => rawName

/-- Whether a step is the one meant by an undecorated name. -/
def answersTo (sought : String) (step : Step) : Bool :=
  step.name == sought ||
    step.reference?.any (·.action == String.ofList (beforeFirst '@' sought.toList))

/-- What a run-time name refers to among steps. -/
inductive Match where
  /-- A step that every run has. -/
  | pseudo
  | found (step : Step)
  | missing

/-- Find what a run-time name refers to. -/
def find (steps : List Step) (rawName : String) : Match :=
  if rawName ∈ pseudoNames then .pseudo
  else
    match steps.find? (answersTo (undecorate rawName)) with
    | some step => .found step
    | none => .missing

namespace Match

/-- The step that was found. -/
def step? : Match → Option Step
  | .found step => some step
  | .pseudo | .missing => none

/-- What is worth telling about a match. -/
def notice (rawName : String) : Match → Notice
  | .pseudo => .pseudoStep rawName
  | .found step => .stepMatched rawName step.startLine
  | .missing => .noStepMatched rawName

end Match

/-- The step that a run-time name refers to. -/
def named? (steps : List Step) (rawName : String) : Option Step :=
  (find steps rawName).step?

/-- The position of the step that a run-time name refers to. -/
def position? (steps : List Step) (rawName : String) : Option Nat :=
  if rawName ∈ pseudoNames then none else steps.findIdx? (answersTo (undecorate rawName))

/-- Find the step that a run-time name refers to, and tell about it. -/
def matchName (steps : List Step) (rawName : String) : Traced (Option Step) :=
  let result := find steps rawName
  ⟨result.step?, [result.notice rawName]⟩

/-- The step found is the first that answers to the undecorated name, unless the name is that of a
step that every run has. -/
theorem named?_eq (steps : List Step) (rawName : String) :
    named? steps rawName =
      if rawName ∈ pseudoNames then none
      else steps.find? (answersTo (undecorate rawName)) := by
  unfold named? find
  split
  · rfl
  · cases steps.find? (answersTo (undecorate rawName)) <;> rfl

@[simp]
theorem value_matchName (steps : List Step) (rawName : String) :
    (matchName steps rawName).value = named? steps rawName :=
  rfl

end Step

end RunAtlas
