import RunAtlas.Outline.Build

/-!
# Outlines of workflows

The outline of a workflow is the node of its file together with the index of its lines.  It finds
the jobs of a workflow and the steps of a job, and tells the lines on which they start.  The steps
of a composite action are found through a job that no key names.
-/

namespace RunAtlas

open Text

/-- A job as it stands in a file. -/
structure JobOutline where
  /-- The key of the job; empty if it has none that is a scalar. -/
  id : String
  /-- The offset at which the job starts. -/
  keyOffset : Nat
  node : Node
deriving Inhabited

namespace JobOutline

/-- The job that an entry of a mapping stands for. -/
def ofEntry (entry : Node × Node) : JobOutline :=
  ⟨entry.1.scalarText?.getD "", entry.1.offset, entry.2⟩

/-- A job that no key names. -/
def unnamed (offset : Nat) (node : Node) : JobOutline :=
  ⟨"", offset, node⟩

/-- The nodes of the steps; none if the job has no entry for them. -/
def stepNodes? (job : JobOutline) : Option (List Node) :=
  (job.node.get? "steps").map (·.items)

/-- The nodes of the steps. -/
def stepNodes (job : JobOutline) : List Node :=
  job.stepNodes?.getD []

/-- The line on which the job starts. -/
def startLine (index : LineIndex) (job : JobOutline) : Nat :=
  index.lineOf job.keyOffset

end JobOutline

namespace Node

/-- The line on which a node starts. -/
def startLine (index : LineIndex) (node : Node) : Nat :=
  index.lineOf node.offset

end Node

/-- A file as a mapping with places. -/
structure FileOutline where
  root : Node
  index : LineIndex
deriving Inhabited

namespace FileOutline

/-- The outline of a node, which has to be a mapping. -/
def ofNode (index : LineIndex) (root : Node) : Except Cause FileOutline :=
  if root.isMapping then .ok ⟨root, index⟩ else .error (.rootNotMapping .ast)

/-- The outline of a text. -/
def ofText (text : String) : Except Cause FileOutline := do
  let index := LineIndex.ofText text
  let root ← Node.ofText text index
  ofNode index root

/-- The line on which the file starts. -/
def startLine (outline : FileOutline) : Nat :=
  outline.root.startLine outline.index

/-- The jobs of a workflow, one for each entry of its jobs. -/
def jobs (outline : FileOutline) : Except Cause (List JobOutline) :=
  match outline.root.get? "jobs" with
  | some jobs => .ok (jobs.entries.map JobOutline.ofEntry)
  | none => .error (.missingKey .ast .jobs)

/-- The job through which the steps of a composite action are found.  It starts at the key before
them. -/
def compositeJob (outline : FileOutline) : Except Cause JobOutline :=
  match outline.root.lookup? "runs" with
  | none => .error (.missingKey .ast .runs)
  | some (key, runs) =>
      match runs.get? "steps" with
      | none => .error (.missingKey .ast .runsSteps)
      | some _ => .ok (.unnamed key.offset runs)

end FileOutline

end RunAtlas
