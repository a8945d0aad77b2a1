import RunAtlas.SourceFile
import RunAtlas.Text.Search

/-!
# Records of runs

What the service that runs workflows reports: a run, and a job with its steps.  Only the members
that are needed to resolve a job against its definition are kept.
-/

namespace RunAtlas

/-- A reported repository. -/
structure RepositoryRecord where
  fullName : String
deriving Repr, DecidableEq

/-- A reported run of a workflow. -/
structure RunRecord where
  repository : RepositoryRecord
  /-- The path of the workflow file, sometimes with a reference after an at sign. -/
  path : String
  headSha : String
  runAttempt : UInt32
deriving Repr, DecidableEq

namespace RunRecord

/-- The attempt of a run that does not tell. -/
def firstAttempt : UInt32 := 1

/-- The path of the workflow file without a reference. -/
def sourcePath (run : RunRecord) : String :=
  String.ofList (Text.beforeFirst '@' run.path.toList)

end RunRecord

/-- A reported step. -/
structure StepRecord where
  name : String
  number : UInt32
  conclusion : Option String
deriving Repr, DecidableEq

/-- A reported job. -/
structure JobRecord where
  name : String
  steps : List StepRecord
deriving Repr, DecidableEq

end RunAtlas
