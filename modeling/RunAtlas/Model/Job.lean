import RunAtlas.Model.Step
import RunAtlas.Text.Blank
import RunAtlas.Text.Placeholder

/-!
# Jobs and the names under which they run

A job is its definition together with its id, its steps and the line on which it starts.  A run
reports a job under its id or its declared name, and the instances of a matrix job under names made
from one of them.  `Job.find?` tries the rules of `JobRule` one after the other over all jobs; the
first rule that some job satisfies decides, and of the jobs that satisfy it the first.
-/

namespace RunAtlas

open Text

/-- A job with its steps, the line on which it starts and the origin of its file. -/
structure Job where
  id : String
  definition : JobDefinition
  startLine : Nat
  steps : List Step
  origin : Origin
deriving Repr, Inhabited

namespace Job

/-- The declared name. -/
def name? (job : Job) : Option String :=
  job.definition.name

/-- Whether the job is declared once for many instances. -/
def isMatrix (job : Job) : Bool :=
  job.definition.isMatrix

/-- The web address of the line on which the job starts. -/
def lineUrl (job : Job) : Option String :=
  job.origin.lineUrl job.startLine

/-- Whether the job calls a workflow in the same repository. -/
def isReusable (job : Job) : Bool :=
  job.definition.uses.any isLocal

/-- The path of the called workflow, relative to the repository. -/
def reusablePath? (job : Job) : Option String :=
  (job.definition.uses.filter fun reference => isLocal reference).map fun reference =>
    String.ofList (dropLeads localLead reference.toList)

/-- The literal text of a declared name, which all instances of a matrix job share: the name without
its placeholders and without the blanks at both ends. -/
def literalName (name : String) : List Char :=
  trimBlank (removePlaceholders name.toList)

/-- Whether a run-time name may be that of an instance of the job.  The instances of a job without a
declared name have its id and what tells them apart; the others have its name, where something
stands for each placeholder. -/
def mayInstantiate (job : Job) (rawName : String) : Bool :=
  job.isMatrix &&
    match job.name? with
    | none => startsWith job.id.toList rawName.toList
    | some name => occursIn (literalName name) rawName.toList

end Job

namespace JobRule

/-- Whether a job answers to a run-time name by a rule. -/
def accepts (rule : JobRule) (rawName : String) (job : Job) : Bool :=
  match rule with
  | .exactId => job.id == rawName
  | .declaredName => job.name? == some rawName
  | .matrixName => job.mayInstantiate rawName

/-- The rules in the order in which they are tried. -/
def all : List JobRule :=
  [.exactId, .declaredName, .matrixName]

end JobRule

namespace Job

/-- Find the job that a run-time name refers to, and the rule by which it does. -/
def find? (jobs : List Job) (rawName : String) : Option (JobRule × Job) :=
  JobRule.all.findSome? fun rule => (jobs.find? (rule.accepts rawName)).map (rule, ·)

/-- The job that a run-time name refers to. -/
def named? (jobs : List Job) (rawName : String) : Option Job :=
  (find? jobs rawName).map (·.2)

/-- What is worth telling about a search. -/
def notice (rawName : String) : Option (JobRule × Job) → Notice
  | some (rule, job) => .jobMatched rule rawName job.id
  | none => .noJobMatched rawName

/-- Find the job that a run-time name refers to, and tell about it. -/
def matchName (jobs : List Job) (rawName : String) : Traced (Option Job) :=
  let result := find? jobs rawName
  ⟨result.map (·.2), [notice rawName result]⟩

/-- The step of a job that a run-time name refers to. -/
def matchStep (job : Job) (rawName : String) : Traced (Option Step) :=
  Step.matchName job.steps rawName

@[simp]
theorem value_matchName (jobs : List Job) (rawName : String) :
    (matchName jobs rawName).value = named? jobs rawName :=
  rfl

/-- The rules are tried in order, each over all jobs. -/
theorem named?_eq (jobs : List Job) (rawName : String) :
    named? jobs rawName =
      (jobs.find? (JobRule.exactId.accepts rawName)).or
        ((jobs.find? (JobRule.declaredName.accepts rawName)).or
          (jobs.find? (JobRule.matrixName.accepts rawName))) := by
  simp only [named?, find?, JobRule.all, List.findSome?_cons, List.findSome?_nil]
  cases jobs.find? (JobRule.exactId.accepts rawName) with
  | some job => simp
  | none =>
    cases jobs.find? (JobRule.declaredName.accepts rawName) with
    | some job => simp
    | none => cases jobs.find? (JobRule.matrixName.accepts rawName) <;> simp

end Job

end RunAtlas
