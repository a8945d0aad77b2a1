import RunAtlas.Json.Value
import RunAtlas.Record.Basic

/-!
# Writing records as JSON

Every field of a record is written, in the order of its declaration.
-/

namespace RunAtlas

/-- An optional text; null if it is missing. -/
def Json.ofOptionalText : Option String → Json
  | some text => .string text
  | none => .null

/-- A 32-bit number. -/
def Json.ofWord (word : UInt32) : Json :=
  .integer word.toNat

namespace RepositoryRecord

/-- Write a repository. -/
def encode (repository : RepositoryRecord) : Json :=
  .object [("full_name", .string repository.fullName)]

end RepositoryRecord

namespace RunRecord

/-- Write a run. -/
def encode (run : RunRecord) : Json :=
  .object
    [("repository", run.repository.encode), ("path", .string run.path),
      ("head_sha", .string run.headSha), ("run_attempt", .ofWord run.runAttempt)]

end RunRecord

namespace StepRecord

/-- Write a step. -/
def encode (step : StepRecord) : Json :=
  .object
    [("name", .string step.name), ("number", .ofWord step.number),
      ("conclusion", .ofOptionalText step.conclusion)]

end StepRecord

namespace JobRecord

/-- Write a job. -/
def encode (job : JobRecord) : Json :=
  .object [("name", .string job.name), ("steps", .array (job.steps.map StepRecord.encode))]

end JobRecord

namespace Origin

/-- Write an origin. -/
def encode (origin : Origin) : Json :=
  .object [("html_url", .ofOptionalText origin.htmlUrl), ("path", .string origin.path)]

end Origin

namespace SourceFile

/-- Write a file. -/
def encode (file : SourceFile) : Json :=
  .object [("content", .string file.content), ("raw", file.origin.encode)]

end SourceFile

end RunAtlas
