import RunAtlas.Mismatch

/-!
# Failures

A file that cannot be turned into a model fails for one `Cause`.  The cause fixes the phase in which
the file failed, a short code and a message; a `Failure` adds the path of the file, and a `Report`
is what is shown of it.
-/

namespace RunAtlas

/-- The phases of building a model: reading the YAML text, decoding its value, finding the
positions of its nodes, and pairing the two views. -/
inductive Phase where
  | yaml
  | value
  | ast
  | pairing
deriving Repr, DecidableEq

namespace Phase

/-- The name under which a phase is reported. -/
def label : Phase → String
  | .yaml => "YAML"
  | .value => "Value"
  | .ast => "AST"
  | .pairing => "Pairing"

end Phase

/-- What is shown of a failure. -/
structure Report where
  phase : Phase
  code : String
  message : String
  path : Option String
deriving Repr, DecidableEq

namespace Report

/-- The one code of the pairing phase. -/
def pairingCode : String := "M001"

/-- A report without a path.  The pairing phase has only one code. -/
def ofPhase (phase : Phase) (code message : String) : Report :=
  ⟨phase, if phase = .pairing then pairingCode else code, message, none⟩

/-- The report with the path of the file that failed. -/
def withPath (report : Report) (path : String) : Report :=
  { report with path := some path }

/-- A report on one line. -/
def display (report : Report) : String :=
  "[" ++ report.phase.label ++ ":" ++ report.code ++ "] " ++ report.message ++
    match report.path with
    | some path => " (file '" ++ path ++ "')"
    | none => ""

end Report

/-- The two views of a file. -/
inductive View where
  | value
  | ast
deriving Repr, DecidableEq

namespace View

/-- The phase in which a view is built. -/
def phase : View → Phase
  | .value => .value
  | .ast => .ast

end View

/-- The keys without which a file is not what it is read as. -/
inductive RequiredKey where
  | jobs
  | runs
  | runsSteps
deriving Repr, DecidableEq

/-- Why a file cannot be turned into a model. -/
inductive Cause where
  /-- The text is not one YAML document that can be read. -/
  | unreadable
  /-- The text cannot be scanned for positions. -/
  | unscannable
  /-- The text holds no document. -/
  | noDocument
  | unmatchedSequenceEnd
  | unmatchedMappingEnd
  | keyWithoutValue
  | rootNotMapping (view : View)
  | missingKey (view : View) (key : RequiredKey)
  | noJobs
  | undecodable (mismatch : Mismatch)
  | notReusable
  | notComposite (engine : String)
  | jobCount (values nodes : Nat)
  | jobIdentity (value node : String)
  | stepCount (job : String) (values nodes : Nat)
deriving Repr, DecidableEq

/-- How mismatches with YAML values are worded.  Every finite number is written positionally. -/
def yamlWording : Wording where
  null := "unit value"
  layout :=
    { leastPositional := -400
      greatestPositional := 400
      positiveSign := []
      exponentDigits := 1
      infinity := ['i', 'n', 'f']
      negativeInfinity := ['-', 'i', 'n', 'f']
      notANumber := ['N', 'a', 'N'] }

namespace Cause

/-- The phase in which a file fails for a cause. -/
def phase : Cause → Phase
  | .unreadable => .yaml
  | .unscannable | .noDocument | .unmatchedSequenceEnd | .unmatchedMappingEnd
  | .keyWithoutValue => .ast
  | .rootNotMapping view | .missingKey view _ => view.phase
  | .noJobs | .undecodable _ | .notReusable | .notComposite _ => .value
  | .jobCount _ _ | .jobIdentity _ _ | .stepCount _ _ _ => .pairing

/-- The code of a cause. -/
def code : Cause → String
  | .unreadable | .undecodable _ => "P001"
  | .rootNotMapping _ => "P002"
  | .missingKey _ _ => "P003"
  | .noJobs => "P004"
  | .notReusable | .notComposite _ => "P005"
  | .unscannable | .noDocument | .unmatchedSequenceEnd | .unmatchedMappingEnd
  | .keyWithoutValue => "A001"
  | .jobCount _ _ | .jobIdentity _ _ | .stepCount _ _ _ => Report.pairingCode

/-- The message of a cause.  For a text that cannot be read or scanned it stops where the words of
the reader of the text would follow, which belong to no rule of this library. -/
def message : Cause → String
  | .unreadable => "Failed to parse YAML"
  | .unscannable => "Failed to scan YAML"
  | .noDocument => "No YAML document found"
  | .unmatchedSequenceEnd => "Sequence end without a matching start"
  | .unmatchedMappingEnd => "Mapping end without a matching start"
  | .keyWithoutValue => "Mapping key without a value"
  | .rootNotMapping _ => "Root of the file is not a mapping"
  | .missingKey _ .jobs => "Missing top-level `jobs` key"
  | .missingKey _ .runs => "Missing top-level `runs` key"
  | .missingKey _ .runsSteps => "Missing `runs.steps` key"
  | .noJobs => "Workflow declares no jobs"
  | .undecodable mismatch => "Failed to decode YAML: " ++ mismatch.message yamlWording
  | .notReusable => "Workflow is not reusable: no `workflow_call` trigger"
  | .notComposite engine => "Action runs with `" ++ engine ++ "`, not `composite`"
  | .jobCount values nodes => values.repr ++ " job values but " ++ nodes.repr ++ " job nodes"
  | .jobIdentity value node =>
      "Job value '" ++ value ++ "' is paired with job node '" ++ node ++ "'"
  | .stepCount job values nodes =>
      "Job '" ++ job ++ "' has " ++ values.repr ++ " step values but " ++ nodes.repr ++
        " step nodes"

/-- The code of the pairing phase is that of no other phase. -/
theorem code_eq_pairingCode_iff (cause : Cause) :
    cause.code = Report.pairingCode ↔ cause.phase = .pairing := by
  cases cause <;> simp [code, phase, Report.pairingCode, View.phase] <;> split <;> simp

end Cause

/-- A cause and the path of the file that failed for it. -/
structure Failure where
  cause : Cause
  path : Option String
deriving Repr, DecidableEq

namespace Failure

/-- What is shown of a failure. -/
def report (failure : Failure) : Report :=
  ⟨failure.cause.phase, failure.cause.code, failure.cause.message, failure.path⟩

end Failure

end RunAtlas
