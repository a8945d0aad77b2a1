import RunAtlas.Yaml.Classic.Events
import RunAtlas.Yaml.Resolve

/-!
# Values of YAML 1.1 documents

The events of a document are first put together into a graph, in which aliases refer to labelled
nodes, and the graph is then expanded into a value.  A name that is given again gets a label of its
own, but the next new name then gets that label as well, and the last node with a label is the one
that is meant.

Collections may be nested 128 deep, aliases may be followed a hundred times as often as the document
has events, and no key may occur twice in a mapping.
-/

namespace RunAtlas.Yaml.Classic

/-- What an alias refers to a node by. -/
abbrev Label := Nat

/-- A label, a tag and a place in a graph. -/
structure GraphProperties where
  label : Option Label
  tag : Option (List Char)
deriving Repr, Inhabited

/-- A node of a document, before its aliases are expanded and its scalars are resolved. -/
inductive Graph where
  | alias (label : Label)
  | scalar (properties : GraphProperties) (plain : Bool) (text : List Char)
  | sequence (properties : GraphProperties) (items : List Graph)
  | mapping (properties : GraphProperties) (entries : List (Graph × Graph))
deriving Repr, Inhabited

/-- The names given so far with their labels. -/
abbrev Names := List (List Char × Label)

/-- Give a name to a node.  The label is the number of names before. -/
def giveName (names : Names) (properties : Properties) : GraphProperties × Names :=
  match properties.anchor with
  | none => (⟨none, properties.tag⟩, names)
  | some name =>
      let label := names.length
      (⟨some label, properties.tag⟩, (name, label) :: names.filter (·.1 ≠ name))

/-- A collection that has started: its properties, whether it is a mapping, and its nodes so far in
reverse. -/
structure OpenGraph where
  properties : GraphProperties
  isMapping : Bool
  nodes : List Graph

/-- Put nodes into pairs. -/
def pairUp : List Graph → List (Graph × Graph)
  | key :: value :: rest => (key, value) :: pairUp rest
  | _ => []

/-- The node that a collection has become. -/
def OpenGraph.close (collection : OpenGraph) : Graph :=
  if collection.isMapping then .mapping collection.properties (pairUp collection.nodes.reverse)
  else .sequence collection.properties collection.nodes.reverse

/-- The state between two events. -/
structure Assembly where
  stack : List OpenGraph
  names : Names
  root : Option Graph

namespace Assembly

/-- Put a node where it belongs. -/
def add (assembly : Assembly) (node : Graph) : Assembly :=
  match assembly.stack with
  | [] => { assembly with root := some node }
  | inner :: outer =>
      { assembly with stack := { inner with nodes := node :: inner.nodes } :: outer }

/-- Start a collection. -/
def start (assembly : Assembly) (properties : Properties) (isMapping : Bool) : Assembly :=
  let (labelled, names) := giveName assembly.names properties
  { assembly with stack := ⟨labelled, isMapping, []⟩ :: assembly.stack, names := names }

/-- End the innermost collection. -/
def finish (assembly : Assembly) : Assembly :=
  match assembly.stack with
  | [] => assembly
  | inner :: outer => { assembly with stack := outer }.add inner.close

/-- Take in an event.  An alias has to refer to a name that has been given. -/
def take (assembly : Assembly) (marked : MarkedEvent) : Option Assembly :=
  match marked.event with
  | .alias name =>
      (assembly.names.find? (·.1 = name)).map fun (_, label) => assembly.add (.alias label)
  | .scalar properties plain text =>
      let (labelled, names) := giveName assembly.names properties
      some ({ assembly with names := names }.add (.scalar labelled plain text))
  | .sequenceStart properties => some (assembly.start properties false)
  | .mappingStart properties => some (assembly.start properties true)
  | .sequenceEnd | .mappingEnd => some assembly.finish
  | .streamStart | .streamEnd | .documentStart | .documentEnd => some assembly

end Assembly

namespace Graph

/-- The graph of a list of events; none if it has no node. -/
def ofEvents? (events : List MarkedEvent) : Option (Option Graph) :=
  (events.foldlM Assembly.take ⟨[], [], none⟩).map (·.root)

/-- A node with its label, if it has one. -/
def withLabel (properties : GraphProperties) (node : Graph) : List (Label × Graph) :=
  (properties.label.map (·, node)).toList

mutual

/-- The labelled nodes of a graph, in the order in which they start. -/
def labelled : Graph → List (Label × Graph)
  | .alias _ => []
  | .scalar properties plain text => withLabel properties (.scalar properties plain text)
  | .sequence properties items =>
      withLabel properties (.sequence properties items) ++ labelledItems items
  | .mapping properties entries =>
      withLabel properties (.mapping properties entries) ++ labelledEntries entries

/-- The labelled nodes of items. -/
def labelledItems : List Graph → List (Label × Graph)
  | [] => []
  | item :: rest => labelled item ++ labelledItems rest

/-- The labelled nodes of entries. -/
def labelledEntries : List (Graph × Graph) → List (Label × Graph)
  | [] => []
  | (key, value) :: rest => labelled key ++ labelled value ++ labelledEntries rest

end

/-- The nodes that aliases refer to, and how often aliases may be followed. -/
structure References where
  nodes : List (Label × Graph)
  limit : Nat

/-- The last node with a label. -/
def References.node? (references : References) (label : Label) : Option Graph :=
  (references.nodes.reverse.find? (·.1 = label)).map (·.2)

/-- Follow an alias; `jumps` counts the aliases that have been followed. -/
def follow (references : References) (jumps : Nat) : Graph → Option (Graph × Nat)
  | .alias label =>
      if jumps + 1 > references.limit then none
      else (references.node? label).map (·, jumps + 1)
  | node => some (node, jumps)

/-- Whether a tag is a local one, which starts with an exclamation mark. -/
def isLocal (tag : List Char) : Bool :=
  tag.head? == some '!'

/-- The name of a local tag.  A second mark belongs to the spelling and not to the name, unless
nothing follows it; the tag that is only a mark is named by that mark. -/
def localName? : List Char → Option (List Char)
  | ['!'] => some ['!']
  | ['!', '!'] => some ['!']
  | '!' :: '!' :: name => some name
  | '!' :: name => some name
  | _ => none

/-- A value with its tag, if that is a local one and can be read. -/
def withTag (tag : Option (List Char)) (value : Value) : Value :=
  match tag.bind localName? with
  | none => value
  | some name => if name.elem unreadable then value else .tagged (String.ofList name) value

/-- The value of a scalar without a tag. -/
def untaggedScalar (plain : Bool) (text : List Char) : Option Value :=
  if plain then Resolve.plain? text else some (.string (String.ofList text))

/-- The value of a scalar.  Unknown tags stand for texts. -/
def scalarValue (tag : Option (List Char)) (plain : Bool) (text : List Char) : Option Value :=
  match tag with
  | none => untaggedScalar plain text
  | some name =>
      if isLocal name then (untaggedScalar plain text).map (withTag tag)
      else
        match Resolve.standard? name text with
        | some value => value
        | none => some (.string (String.ofList text))

/-- How a node is expanded: from the number of aliases followed so far to the value and the number
afterwards. -/
abbrev Expansion := Nat → Graph → Option (Value × Nat)

/-- Expand items in order. -/
def expandItems (expand : Expansion) : Nat → List Graph → Option (List Value × Nat)
  | jumps, [] => some ([], jumps)
  | jumps, item :: rest => do
      let (value, jumps) ← expand jumps item
      let (values, jumps) ← expandItems expand jumps rest
      some (value :: values, jumps)

/-- Expand entries in order after those in `done`, which is in reverse. -/
def expandEntries (expand : Expansion) (done : List (Value × Value)) :
    Nat → List (Graph × Graph) → Option (List (Value × Value) × Nat)
  | jumps, [] => some (done.reverse, jumps)
  | jumps, (key, value) :: rest => do
      let (key, jumps) ← expand jumps key
      if done.any fun entry => key.same entry.1 then none
      else
        let (value, jumps) ← expand jumps value
        expandEntries expand ((key, value) :: done) jumps rest

/-- Expand a node that is no alias, if its parts are expanded by `inner`.  Nothing expands them
where the nesting has become too deep. -/
def expandContent (inner : Option Expansion) (jumps : Nat) : Graph → Option (Value × Nat)
  | .alias _ => none
  | .scalar properties plain text =>
      (scalarValue properties.tag plain text).map (·, jumps)
  | .sequence properties items => do
      let (values, jumps) ← expandItems (← inner) jumps items
      some (withTag properties.tag (.sequence values), jumps)
  | .mapping properties entries => do
      let (values, jumps) ← expandEntries (← inner) [] jumps entries
      some (withTag properties.tag (.mapping values), jumps)

/-- Expand a node in which collections may be nested `depth` deep. -/
def expand (references : References) : (depth : Nat) → Expansion
  | 0 => fun jumps node =>
      (follow references jumps node).bind fun (target, jumps) => expandContent none jumps target
  | depth + 1 => fun jumps node =>
      (follow references jumps node).bind fun (target, jumps) =>
        expandContent (some (expand references depth)) jumps target

/-- How deep collections may be nested. -/
def deepest : Nat := 128

end Graph

/-- The value of a list of events.  Without a node it is null. -/
def valueOfEvents? (events : List MarkedEvent) : Option Value :=
  match Graph.ofEvents? events with
  | none => none
  | some none => some .null
  | some (some graph) =>
      (Graph.expand ⟨graph.labelled, events.length * 100⟩ Graph.deepest 0 graph).map (·.1)

/-- The value of a text. -/
def value? (text : List Char) : Option Value :=
  (events? text).bind valueOfEvents?

end RunAtlas.Yaml.Classic
