import RunAtlas.Definition.Basic
import RunAtlas.Mismatch

/-!
# Reading definitions from values

Every definition is read entry by entry into a draft, so that the first entry that does not fit
decides what is reported; fields that are missing are reported last, in the order of their
declaration.  Tags are ignored where a mapping, a sequence or a text is expected, and null stands
for an empty mapping or sequence and for a missing optional field.  A value that is kept in any
shape keeps its tags, but a mark at the start of their names is taken for a part of the spelling.
An extra entry may not hold a tagged value, and of two extra entries with one key the later value
takes the place of the earlier one.
-/

namespace RunAtlas

open Yaml

namespace Yaml.Value

/-- What a value is reported as, without its tags. -/
def found (value : Value) : Found :=
  match value.untag with
  | .null => .null
  | .boolean value => .boolean value
  | .number (.integer value) => .integer value
  | .number (.float value) => .float value
  | .string value => .text value
  | .sequence _ => .sequence
  | .mapping _ => .mapping
  | .tagged _ _ => .mapping

/-- The mismatch of a value that stands where something else is expected. -/
def mismatch (expected : String) (value : Value) : Mismatch :=
  .wrongType value.found expected

mutual

/-- Whether a tag occurs anywhere in a value. -/
def hasTag : Value → Bool
  | .tagged _ _ => true
  | .sequence items => itemsHaveTag items
  | .mapping entries => entriesHaveTag entries
  | _ => false

/-- Whether a tag occurs anywhere in items. -/
def itemsHaveTag : List Value → Bool
  | [] => false
  | item :: rest => hasTag item || itemsHaveTag rest

/-- Whether a tag occurs anywhere in entries. -/
def entriesHaveTag : List (Value × Value) → Bool
  | [] => false
  | (key, value) :: rest => hasTag key || hasTag value || entriesHaveTag rest

end

/-- The name of a tag in a value that is read.  A mark at its start belongs to the spelling and not
to the name, unless nothing follows it. -/
def readTag (tag : String) : String :=
  match tag.toList with
  | '!' :: c :: name => String.ofList (c :: name)
  | _ => tag

mutual

/-- A value with the names of its tags as they are read. -/
def retag : Value → Value
  | .tagged tag value => .tagged (readTag tag) (retag value)
  | .sequence items => .sequence (retagItems items)
  | .mapping entries => .mapping (retagEntries entries)
  | value => value

/-- Items with the names of their tags as they are read. -/
def retagItems : List Value → List Value
  | [] => []
  | item :: rest => retag item :: retagItems rest

/-- Entries with the names of their tags as they are read. -/
def retagEntries : List (Value × Value) → List (Value × Value)
  | [] => []
  | (key, value) :: rest => (retag key, retag value) :: retagEntries rest

end

mutual

/-- Whether no mapping in a value has two keys that are the same. -/
def hasDistinctKeys : Value → Bool
  | .tagged _ value => hasDistinctKeys value
  | .sequence items => itemsHaveDistinctKeys items
  | .mapping entries => entriesHaveDistinctKeys entries
  | _ => true

/-- Whether no mapping in items has two keys that are the same. -/
def itemsHaveDistinctKeys : List Value → Bool
  | [] => true
  | item :: rest => hasDistinctKeys item && itemsHaveDistinctKeys rest

/-- Whether no two keys of entries are the same, nor those of a mapping in them. -/
def entriesHaveDistinctKeys : List (Value × Value) → Bool
  | [] => true
  | (key, value) :: rest =>
      !(rest.any fun entry => key.same entry.1) && hasDistinctKeys key && hasDistinctKeys value &&
        entriesHaveDistinctKeys rest

end

/-- Read any value.  Keys that differ may become the same when the names of their tags are read. -/
def toValue (value : Value) : Except Mismatch Value :=
  if value.retag.hasDistinctKeys then .ok value.retag else .error .repeatedKey

/-- Read a text. -/
def toText (value : Value) : Except Mismatch String :=
  match value.untag with
  | .string text => .ok text
  | _ => .error (value.mismatch "a string")

/-- Read the text of any scalar.  A tagged collection or null has no text. -/
def toScalarText (value : Value) : Except Mismatch (Option String) := do
  match ← value.toValue with
  | .null => pure none
  | .sequence _ | .mapping _ => .error .collectionForScalar
  | scalar => pure scalar.scalarText?

/-- Read the text of a scalar that has to have one. -/
def toRequiredScalarText (value : Value) : Except Mismatch String := do
  match ← value.toScalarText with
  | some text => pure text
  | none => .error .nullForScalar

/-- Read something that may be null. -/
def toOptional {α : Type} (read : Value → Except Mismatch α) :
    Value → Except Mismatch (Option α)
  | .null => .ok none
  | value => (read value).map some

/-- The items of a sequence; none for null. -/
def toItems (value : Value) : Except Mismatch (List Value) :=
  match value.untag with
  | .sequence items => .ok items
  | .null => .ok []
  | _ => .error (value.mismatch "a sequence")

/-- The entries of a mapping; none for null. -/
def toEntries (expected : String) (value : Value) : Except Mismatch (List (Value × Value)) :=
  match value.untag with
  | .mapping entries => .ok entries
  | .null => .ok []
  | _ => .error (value.mismatch expected)

/-- Read all items of a list in order. -/
def readAll {α : Type} (read : Value → Except Mismatch α) :
    List Value → Except Mismatch (List α)
  | [] => .ok []
  | item :: rest => do
      let first ← read item
      let others ← readAll read rest
      pure (first :: others)

/-- Read a sequence. -/
def toList {α : Type} (read : Value → Except Mismatch α) (value : Value) :
    Except Mismatch (List α) := do
  readAll read (← value.toItems)

/-- The name that the key of a field stands for. -/
def toFieldName (key : Value) : Except Mismatch String :=
  match key.untag with
  | .string name => .ok name
  | _ => .error (key.mismatch "field identifier")

end Yaml.Value

/-- Give a name a value.  A name that has one already keeps its place. -/
def assign {α : Type} (entries : List (String × α)) (name : String) (value : α) :
    List (String × α) :=
  match entries with
  | [] => [(name, value)]
  | (other, old) :: rest =>
      if other = name then (name, value) :: rest else (other, old) :: assign rest name value

namespace Decode

/-- Read named values of one kind in order. -/
def namedValues {α : Type} (read : Value → Except Mismatch α) :
    List (String × α) → List (Value × Value) → Except Mismatch (List (String × α))
  | done, [] => .ok done
  | done, (key, value) :: rest => do
      let name ← key.toText
      let result ← read value
      namedValues read (assign done name result) rest

/-- Read a mapping from names. -/
def toNamedValues {α : Type} (read : Value → Except Mismatch α) (value : Value) :
    Except Mismatch (List (String × α)) := do
  namedValues read [] (← value.toEntries "a map")

/-- Keep an entry that has no field. -/
def keepExtra (extra : Extra) (name : String) (value : Value) : Except Mismatch Extra :=
  if value.hasTag then .error .taggedInExtraField else .ok (assign extra name value)

/-- Fill the slot of a field, once. -/
def fill {α : Type} (name : String) (slot : Option α) (read : Except Mismatch α) :
    Except Mismatch (Option α) :=
  fillOnce (.duplicateField name) slot read

/-- The value of a field that has to be given. -/
def require {α : Type} (name : String) : Option α → Except Mismatch α
  | some value => .ok value
  | none => .error (.missingField name)

/-- Read entries into a draft, in order. -/
def entries {α : Type} (take : α → String → Value → Except Mismatch α) :
    α → List (Value × Value) → Except Mismatch α
  | draft, [] => .ok draft
  | draft, (key, value) :: rest => do
      let name ← key.toFieldName
      let draft ← take draft name value
      entries take draft rest

end Decode

open Decode

namespace StepDefinition

/-- A step of which some entries have been read. -/
structure Draft where
  id : Option (Option String)
  name : Option (Option String)
  uses : Option (Option String)
  run : Option (Option String)
  inputs : Option (Option Extra)
  extra : Extra

/-- Take in one entry. -/
def take (draft : Draft) (name : String) (value : Value) : Except Mismatch Draft :=
  if name = "id" then do
    let slot ← fill name draft.id value.toScalarText
    pure { draft with id := slot }
  else if name = "name" then do
    let slot ← fill name draft.name value.toScalarText
    pure { draft with name := slot }
  else if name = "uses" then do
    let slot ← fill name draft.uses value.toScalarText
    pure { draft with uses := slot }
  else if name = "run" then do
    let slot ← fill name draft.run value.toScalarText
    pure { draft with run := slot }
  else if name = "with" then do
    let slot ← fill name draft.inputs (value.toOptional (toNamedValues Value.toValue))
    pure { draft with inputs := slot }
  else do
    let extra ← keepExtra draft.extra name value
    pure { draft with extra := extra }

/-- Read a step. -/
def decode (value : Value) : Except Mismatch StepDefinition := do
  let draft ← entries take ⟨none, none, none, none, none, []⟩ (← value.toEntries "struct StepValue")
  pure
    { id := draft.id.getD none
      name := draft.name.getD none
      uses := draft.uses.getD none
      run := draft.run.getD none
      inputs := draft.inputs.getD none
      extra := draft.extra }

end StepDefinition

namespace StrategyDefinition

/-- A strategy of which some entries have been read. -/
structure Draft where
  matrix : Option (Option Value)
  extra : Extra

/-- Take in one entry. -/
def take (draft : Draft) (name : String) (value : Value) : Except Mismatch Draft :=
  if name = "matrix" then do
    let slot ← fill name draft.matrix (value.toOptional Value.toValue)
    pure { draft with matrix := slot }
  else do
    let extra ← keepExtra draft.extra name value
    pure { draft with extra := extra }

/-- Read a strategy. -/
def decode (value : Value) : Except Mismatch StrategyDefinition := do
  let draft ← entries take ⟨none, []⟩ (← value.toEntries "struct StrategyValue")
  pure { matrix := draft.matrix.getD none, extra := draft.extra }

end StrategyDefinition

namespace JobDefinition

/-- A job of which some entries have been read. -/
structure Draft where
  name : Option (Option String)
  runsOn : Option (Option Value)
  uses : Option (Option String)
  needs : Option (Option Value)
  steps : Option (Option (List StepDefinition))
  strategy : Option (Option StrategyDefinition)
  extra : Extra

/-- Take in one entry. -/
def take (draft : Draft) (name : String) (value : Value) : Except Mismatch Draft :=
  if name = "name" then do
    let slot ← fill name draft.name value.toScalarText
    pure { draft with name := slot }
  else if name = "runs-on" then do
    let slot ← fill name draft.runsOn (value.toOptional Value.toValue)
    pure { draft with runsOn := slot }
  else if name = "uses" then do
    let slot ← fill name draft.uses value.toScalarText
    pure { draft with uses := slot }
  else if name = "needs" then do
    let slot ← fill name draft.needs (value.toOptional Value.toValue)
    pure { draft with needs := slot }
  else if name = "steps" then do
    let slot ← fill name draft.steps (value.toOptional (Value.toList StepDefinition.decode))
    pure { draft with steps := slot }
  else if name = "strategy" then do
    let slot ← fill name draft.strategy (value.toOptional StrategyDefinition.decode)
    pure { draft with strategy := slot }
  else do
    let extra ← keepExtra draft.extra name value
    pure { draft with extra := extra }

/-- Read a job. -/
def decode (value : Value) : Except Mismatch JobDefinition := do
  let draft ←
    entries take ⟨none, none, none, none, none, none, []⟩ (← value.toEntries "struct JobValue")
  pure
    { name := draft.name.getD none
      runsOn := draft.runsOn.getD none
      uses := draft.uses.getD none
      needs := draft.needs.getD none
      steps := draft.steps.getD none
      strategy := draft.strategy.getD none
      extra := draft.extra }

end JobDefinition

namespace WorkflowDefinition

/-- A workflow of which some entries have been read. -/
structure Draft where
  name : Option (Option String)
  triggers : Option (Option Value)
  jobs : Option (List (String × JobDefinition))
  extra : Extra

/-- Take in one entry. -/
def take (draft : Draft) (name : String) (value : Value) : Except Mismatch Draft :=
  if name = "name" then do
    let slot ← fill name draft.name value.toScalarText
    pure { draft with name := slot }
  else if name = "on" then do
    let slot ← fill name draft.triggers (value.toOptional Value.toValue)
    pure { draft with triggers := slot }
  else if name = "jobs" then do
    let slot ← fill name draft.jobs (toNamedValues JobDefinition.decode value)
    pure { draft with jobs := slot }
  else do
    let extra ← keepExtra draft.extra name value
    pure { draft with extra := extra }

/-- Read a workflow from the entries of its file. -/
def decode (root : List (Value × Value)) : Except Mismatch WorkflowDefinition := do
  let draft ← entries take ⟨none, none, none, []⟩ root
  let jobs ← require "jobs" draft.jobs
  pure
    { name := draft.name.getD none
      triggers := draft.triggers.getD none
      jobs := jobs
      extra := draft.extra }

end WorkflowDefinition

namespace RunsDefinition

/-- A way to run of which some entries have been read. -/
structure Draft where
  engine : Option String
  steps : Option (List StepDefinition)
  extra : Extra

/-- Take in one entry. -/
def take (draft : Draft) (name : String) (value : Value) : Except Mismatch Draft :=
  if name = "using" then do
    let slot ← fill name draft.engine value.toText
    pure { draft with engine := slot }
  else if name = "steps" then do
    let slot ← fill name draft.steps (value.toList StepDefinition.decode)
    pure { draft with steps := slot }
  else do
    let extra ← keepExtra draft.extra name value
    pure { draft with extra := extra }

/-- Read a way to run. -/
def decode (value : Value) : Except Mismatch RunsDefinition := do
  let draft ← entries take ⟨none, none, []⟩ (← value.toEntries "struct CompositeRuns")
  let engine ← require "using" draft.engine
  let steps ← require "steps" draft.steps
  pure { engine := engine, steps := steps, extra := draft.extra }

end RunsDefinition

namespace CompositeDefinition

/-- A composite action of which some entries have been read. -/
structure Draft where
  name : Option String
  description : Option (Option String)
  runs : Option RunsDefinition
  extra : Extra

/-- Take in one entry. -/
def take (draft : Draft) (name : String) (value : Value) : Except Mismatch Draft :=
  if name = "name" then do
    let slot ← fill name draft.name value.toRequiredScalarText
    pure { draft with name := slot }
  else if name = "description" then do
    let slot ← fill name draft.description value.toScalarText
    pure { draft with description := slot }
  else if name = "runs" then do
    let slot ← fill name draft.runs (RunsDefinition.decode value)
    pure { draft with runs := slot }
  else do
    let extra ← keepExtra draft.extra name value
    pure { draft with extra := extra }

/-- Read a composite action from the entries of its file. -/
def decode (root : List (Value × Value)) : Except Mismatch CompositeDefinition := do
  let draft ← entries take ⟨none, none, none, []⟩ root
  let name ← require "name" draft.name
  let runs ← require "runs" draft.runs
  pure
    { name := name
      description := draft.description.getD none
      runs := runs
      extra := draft.extra }

end CompositeDefinition

end RunAtlas
