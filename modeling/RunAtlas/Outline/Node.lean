/-!
# Nodes with their places

An outline node is a part of a YAML document with the offset at which it starts.  It knows the shape
of the document and nothing of what it means: aliases are not expanded, tags and anchors are left
out, and a mapping may hold a key twice.
-/

namespace RunAtlas

/-- A node of a document. -/
inductive Node where
  | scalar (offset : Nat) (text : String)
  | alias (offset : Nat)
  | sequence (offset : Nat) (items : List Node)
  | mapping (offset : Nat) (entries : List (Node × Node))
deriving Repr, Inhabited

namespace Node

/-- The offset at which a node starts. -/
def offset : Node → Nat
  | .scalar offset _ | .alias offset | .sequence offset _ | .mapping offset _ => offset

/-- Whether a node is a mapping. -/
def isMapping : Node → Bool
  | .mapping _ _ => true
  | _ => false

/-- Whether a node is a sequence. -/
def isSequence : Node → Bool
  | .sequence _ _ => true
  | _ => false

/-- The text of a scalar. -/
def scalarText? : Node → Option String
  | .scalar _ text => some text
  | _ => none

/-- The entries of a mapping; no other node has any. -/
def entries : Node → List (Node × Node)
  | .mapping _ entries => entries
  | _ => []

/-- The items of a sequence; no other node has any. -/
def items : Node → List Node
  | .sequence _ items => items
  | _ => []

/-- The first entry whose key is the scalar `key`. -/
def lookup? (node : Node) (key : String) : Option (Node × Node) :=
  node.entries.find? fun entry => entry.1.scalarText? == some key

/-- The value of the first entry whose key is the scalar `key`. -/
def get? (node : Node) (key : String) : Option Node :=
  (node.lookup? key).map (·.2)

@[simp]
theorem entries_mapping (offset : Nat) (entries : List (Node × Node)) :
    (Node.mapping offset entries).entries = entries :=
  rfl

@[simp]
theorem items_sequence (offset : Nat) (items : List Node) :
    (Node.sequence offset items).items = items :=
  rfl

end Node

end RunAtlas
