import RunAtlas.Model.Job
import RunAtlas.Outline.Workflow

/-!
# Pairing definitions with outlines

The two views of a file are paired by position: the first job with the first node, and so on, and
likewise the steps of each job.  Views that do not have equally many parts, or whose jobs have
different ids, cannot be paired.
-/

namespace RunAtlas

open Text

/-- Pair the steps of a job with their nodes. -/
def pairSteps (origin : Origin) (index : LineIndex) (steps : List StepDefinition)
    (job : JobOutline) : Except Cause (List Step) :=
  let nodes := job.stepNodes
  if steps.length = nodes.length then
    .ok (List.zipWith (fun step node => ⟨step, Node.startLine index node, origin⟩) steps nodes)
  else .error (.stepCount job.id steps.length nodes.length)

/-- Pair a job with its node. -/
def pairJob (origin : Origin) (index : LineIndex) (id : String) (job : JobDefinition)
    (outline : JobOutline) : Except Cause Job :=
  if id = outline.id then do
    let steps ← pairSteps origin index (job.steps.getD []) outline
    pure
      { id := id
        definition := job
        startLine := outline.startLine index
        steps := steps
        origin := origin }
  else .error (.jobIdentity id outline.id)

/-- Pair jobs with nodes as long as there are both. -/
def pairJobsInOrder (origin : Origin) (index : LineIndex) :
    List (String × JobDefinition) → List JobOutline → Except Cause (List Job)
  | (id, job) :: jobs, outline :: outlines => do
      let first ← pairJob origin index id job outline
      let others ← pairJobsInOrder origin index jobs outlines
      pure (first :: others)
  | _, _ => .ok []

/-- Pair the jobs of a workflow with those of its outline. -/
def pairJobs (origin : Origin) (outline : FileOutline) (jobs : List (String × JobDefinition)) :
    Except Cause (List Job) := do
  let outlines ← outline.jobs
  if jobs.length = outlines.length then pairJobsInOrder origin outline.index jobs outlines
  else .error (.jobCount jobs.length outlines.length)

end RunAtlas
