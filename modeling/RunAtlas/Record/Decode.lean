import RunAtlas.Json.Decode
import RunAtlas.Record.Basic

/-!
# Reading records from JSON

Each record is read member by member into a draft, whose slots are filled once; a slot that has to
be filled and is not is reported last.  A run without an attempt is the first one, a job without
steps has none, and a conclusion or a web address may be missing or null.  The web address of a file
goes by two names.
-/

namespace RunAtlas

open Json

namespace RepositoryRecord

/-- Take in one member. -/
def takeMember (fullName : Option String) : String × Json → Except JsonFault (Option String)
  | (name, value) =>
      if name = "full_name" then fill "full_name" fullName value.toText else skip fullName value

/-- Read a repository from its members. -/
def ofMembers (members : List (String × Json)) : Except JsonFault RepositoryRecord := do
  let fullName ← members.foldlM takeMember none
  pure ⟨← require "full_name" fullName⟩

/-- Read a repository from its fields in order. -/
def ofItems : List Json → Except JsonFault RepositoryRecord
  | [] => .error (tooShort 0 "struct RepositoryRecord with 1 element")
  | fullName :: rest => do finish ⟨← fullName.toText⟩ rest

/-- Read a repository. -/
def decode : Json → Except JsonFault RepositoryRecord :=
  toRecord "RepositoryRecord" ofMembers ofItems

end RepositoryRecord

namespace RunRecord

/-- A run of which some members have been read. -/
structure Draft where
  repository : Option RepositoryRecord
  path : Option String
  headSha : Option String
  runAttempt : Option UInt32

/-- Take in one member. -/
def takeMember (draft : Draft) : String × Json → Except JsonFault Draft
  | (name, value) =>
      if name = "repository" then do
        let slot ← fill name draft.repository (RepositoryRecord.decode value)
        pure { draft with repository := slot }
      else if name = "path" then do
        let slot ← fill name draft.path value.toText
        pure { draft with path := slot }
      else if name = "head_sha" then do
        let slot ← fill name draft.headSha value.toText
        pure { draft with headSha := slot }
      else if name = "run_attempt" then do
        let slot ← fill name draft.runAttempt value.toWord
        pure { draft with runAttempt := slot }
      else skip draft value

/-- The run that a draft has become. -/
def ofDraft (draft : Draft) : Except JsonFault RunRecord := do
  let repository ← require "repository" draft.repository
  let path ← require "path" draft.path
  let headSha ← require "head_sha" draft.headSha
  pure ⟨repository, path, headSha, draft.runAttempt.getD firstAttempt⟩

/-- Read a run from its members. -/
def ofMembers (members : List (String × Json)) : Except JsonFault RunRecord := do
  let draft ← members.foldlM takeMember ⟨none, none, none, none⟩
  ofDraft draft

/-- The fault of a run given by too few fields. -/
def cutShort (length : Nat) : JsonFault :=
  tooShort length "struct WorkflowRunRecord with 4 elements"

/-- Read a run from its fields in order. -/
def ofItems : List Json → Except JsonFault RunRecord
  | [] => .error (cutShort 0)
  | repository :: rest => do
      let repository ← RepositoryRecord.decode repository
      match rest with
      | [] => .error (cutShort 1)
      | path :: rest => do
          let path ← path.toText
          match rest with
          | [] => .error (cutShort 2)
          | headSha :: rest => do
              let headSha ← headSha.toText
              match rest with
              | [] => pure ⟨repository, path, headSha, firstAttempt⟩
              | runAttempt :: rest => do
                  let runAttempt ← runAttempt.toWord
                  finish ⟨repository, path, headSha, runAttempt⟩ rest

/-- Read a run. -/
def decode : Json → Except JsonFault RunRecord :=
  toRecord "WorkflowRunRecord" ofMembers ofItems

end RunRecord

namespace StepRecord

/-- A step of which some members have been read. -/
structure Draft where
  name : Option String
  number : Option UInt32
  conclusion : Option (Option String)

/-- Take in one member. -/
def takeMember (draft : Draft) : String × Json → Except JsonFault Draft
  | (name, value) =>
      if name = "name" then do
        let slot ← fill name draft.name value.toText
        pure { draft with name := slot }
      else if name = "number" then do
        let slot ← fill name draft.number value.toWord
        pure { draft with number := slot }
      else if name = "conclusion" then do
        let slot ← fill name draft.conclusion value.toOptionalText
        pure { draft with conclusion := slot }
      else skip draft value

/-- The step that a draft has become. -/
def ofDraft (draft : Draft) : Except JsonFault StepRecord := do
  let name ← require "name" draft.name
  let number ← require "number" draft.number
  pure ⟨name, number, draft.conclusion.getD none⟩

/-- Read a step from its members. -/
def ofMembers (members : List (String × Json)) : Except JsonFault StepRecord := do
  let draft ← members.foldlM takeMember ⟨none, none, none⟩
  ofDraft draft

/-- The fault of a step given by too few fields. -/
def cutShort (length : Nat) : JsonFault :=
  tooShort length "struct WorkflowJobStepRecord with 3 elements"

/-- Read a step from its fields in order. -/
def ofItems : List Json → Except JsonFault StepRecord
  | [] => .error (cutShort 0)
  | name :: rest => do
      let name ← name.toText
      match rest with
      | [] => .error (cutShort 1)
      | number :: rest => do
          let number ← number.toWord
          match rest with
          | [] => pure ⟨name, number, none⟩
          | conclusion :: rest => do
              let conclusion ← conclusion.toOptionalText
              finish ⟨name, number, conclusion⟩ rest

/-- Read a step. -/
def decode : Json → Except JsonFault StepRecord :=
  toRecord "WorkflowJobStepRecord" ofMembers ofItems

end StepRecord

namespace JobRecord

/-- A job of which some members have been read. -/
structure Draft where
  name : Option String
  steps : Option (List StepRecord)

/-- Take in one member. -/
def takeMember (draft : Draft) : String × Json → Except JsonFault Draft
  | (name, value) =>
      if name = "name" then do
        let slot ← fill name draft.name value.toText
        pure { draft with name := slot }
      else if name = "steps" then do
        let slot ← fill name draft.steps (value.toSequence StepRecord.decode)
        pure { draft with steps := slot }
      else skip draft value

/-- The job that a draft has become. -/
def ofDraft (draft : Draft) : Except JsonFault JobRecord := do
  let name ← require "name" draft.name
  pure ⟨name, draft.steps.getD []⟩

/-- Read a job from its members. -/
def ofMembers (members : List (String × Json)) : Except JsonFault JobRecord := do
  let draft ← members.foldlM takeMember ⟨none, none⟩
  ofDraft draft

/-- Read a job from its fields in order. -/
def ofItems : List Json → Except JsonFault JobRecord
  | [] => .error (tooShort 0 "struct WorkflowJobRecord with 2 elements")
  | name :: rest => do
      let name ← name.toText
      match rest with
      | [] => pure ⟨name, []⟩
      | steps :: rest => do
          let steps ← steps.toSequence StepRecord.decode
          finish ⟨name, steps⟩ rest

/-- Read a job. -/
def decode : Json → Except JsonFault JobRecord :=
  toRecord "WorkflowJobRecord" ofMembers ofItems

end JobRecord

namespace Origin

/-- An origin of which some members have been read. -/
structure Draft where
  htmlUrl : Option (Option String)
  path : Option String

/-- Take in one member. -/
def takeMember (draft : Draft) : String × Json → Except JsonFault Draft
  | (name, value) =>
      if name = "html_url" ∨ name = "htmlUrl" then do
        let slot ← fill "html_url" draft.htmlUrl value.toOptionalText
        pure { draft with htmlUrl := slot }
      else if name = "path" then do
        let slot ← fill name draft.path value.toText
        pure { draft with path := slot }
      else skip draft value

/-- The origin that a draft has become. -/
def ofDraft (draft : Draft) : Except JsonFault Origin := do
  let path ← require "path" draft.path
  pure ⟨draft.htmlUrl.getD none, path⟩

/-- Read an origin from its members. -/
def ofMembers (members : List (String × Json)) : Except JsonFault Origin := do
  let draft ← members.foldlM takeMember ⟨none, none⟩
  ofDraft draft

/-- The fault of an origin given by too few fields. -/
def cutShort (length : Nat) : JsonFault :=
  tooShort length "struct RawFile with 2 elements"

/-- Read an origin from its fields in order. -/
def ofItems : List Json → Except JsonFault Origin
  | [] => .error (cutShort 0)
  | htmlUrl :: rest => do
      let htmlUrl ← htmlUrl.toOptionalText
      match rest with
      | [] => .error (cutShort 1)
      | path :: rest => do
          let path ← path.toText
          finish ⟨htmlUrl, path⟩ rest

/-- Read an origin. -/
def decode : Json → Except JsonFault Origin :=
  toRecord "RawFile" ofMembers ofItems

end Origin

namespace SourceFile

/-- A file of which some members have been read. -/
structure Draft where
  content : Option String
  origin : Option Origin

/-- Take in one member. -/
def takeMember (draft : Draft) : String × Json → Except JsonFault Draft
  | (name, value) =>
      if name = "content" then do
        let slot ← fill name draft.content value.toText
        pure { draft with content := slot }
      else if name = "raw" then do
        let slot ← fill name draft.origin (Origin.decode value)
        pure { draft with origin := slot }
      else skip draft value

/-- The file that a draft has become. -/
def ofDraft (draft : Draft) : Except JsonFault SourceFile := do
  let content ← require "content" draft.content
  let origin ← require "raw" draft.origin
  pure ⟨content, origin⟩

/-- Read a file from its members. -/
def ofMembers (members : List (String × Json)) : Except JsonFault SourceFile := do
  let draft ← members.foldlM takeMember ⟨none, none⟩
  ofDraft draft

/-- The fault of a file given by too few fields. -/
def cutShort (length : Nat) : JsonFault :=
  tooShort length "struct FileContent with 2 elements"

/-- Read a file from its fields in order. -/
def ofItems : List Json → Except JsonFault SourceFile
  | [] => .error (cutShort 0)
  | content :: rest => do
      let content ← content.toText
      match rest with
      | [] => .error (cutShort 1)
      | origin :: rest => do
          let origin ← Origin.decode origin
          finish ⟨content, origin⟩ rest

/-- Read a file. -/
def decode : Json → Except JsonFault SourceFile :=
  toRecord "FileContent" ofMembers ofItems

end SourceFile

end RunAtlas
