import RunAtlas.Model.Workflow

/-!
# Composite actions

The steps of a composite action are paired in the same way as those of a job.
-/

namespace RunAtlas

/-- A composite action with its steps, the line on which they are announced and the origin of its
file. -/
structure CompositeAction where
  definition : CompositeDefinition
  startLine : Nat
  steps : List Step
  origin : Origin
deriving Repr, Inhabited

namespace CompositeAction

/-- The action made of a definition and an outline. -/
def pair (origin : Origin) (definition : CompositeDefinition) (outline : FileOutline) :
    Except Cause CompositeAction := do
  let job ← outline.compositeJob
  let steps ← pairSteps origin outline.index definition.runs.steps job
  pure
    { definition := definition
      startLine := job.startLine outline.index
      steps := steps
      origin := origin }

/-- Build the composite action of a file. -/
def build (file : SourceFile) : Except Cause CompositeAction := do
  let definition ← CompositeDefinition.ofText file.text
  let outline ← FileOutline.ofText file.text
  pair file.origin definition outline

/-- Build the composite action of a file; a failure names the file. -/
def ofFile (file : SourceFile) : Except Failure CompositeAction :=
  namingFile file (build file)

/-- Build the composite action of a file, and tell about it. -/
def load (file : SourceFile) : Traced (Except Failure CompositeAction) :=
  noticed (fun action => .builtCompositeAction file.origin.path action.steps.length) (ofFile file)

/-- The web address of the line on which the steps are announced. -/
def lineUrl (action : CompositeAction) : Option String :=
  action.origin.lineUrl action.startLine

/-- The step that a run-time name refers to. -/
def matchStep (action : CompositeAction) (rawName : String) : Traced (Option Step) :=
  Step.matchName action.steps rawName

end CompositeAction

end RunAtlas
