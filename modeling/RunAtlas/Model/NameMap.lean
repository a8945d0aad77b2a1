import RunAtlas.Model.Workflow

/-!
# Workflows by name

A name map finds workflows by the names under which they are displayed.  Of two workflows with one
name the later one is found.  The names are kept in increasing order, so that equal maps have equal
lists of entries.
-/

namespace RunAtlas

/-- Workflows in the order of their names, no two of which are equal. -/
abbrev NameMap := List (String × Workflow)

namespace NameMap

/-- Put a workflow under a name. -/
def insert (name : String) (workflow : Workflow) : NameMap → NameMap
  | [] => [(name, workflow)]
  | (other, old) :: rest =>
      if name = other then (name, workflow) :: rest
      else if name < other then (name, workflow) :: (other, old) :: rest
      else (other, old) :: insert name workflow rest

/-- The workflow under a name. -/
def find? (map : NameMap) (name : String) : Option Workflow :=
  map.lookup name

/-- Put workflows under their names, in order. -/
def ofWorkflows (workflows : List Workflow) : NameMap :=
  workflows.foldl (fun map workflow => map.insert workflow.name workflow) []

end NameMap

end RunAtlas
