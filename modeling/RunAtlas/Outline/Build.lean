import RunAtlas.Failure
import RunAtlas.Outline.Node
import RunAtlas.Text.LineIndex
import RunAtlas.Yaml.Current.Events

/-!
# Building outlines from events

`Builder.run` turns any list of events into a node: collections that have started wait on a stack
until they end, and the first node that is completed outside of every collection is kept.  The first
fault is remembered whatever follows it.

The offset of a node is found from the line and the column of its event, which are right even where
the scanner counts characters differently.
-/

namespace RunAtlas

open Yaml Text

/-- A collection that has started and not ended. -/
inductive OpenNode where
  /-- A sequence with its items so far, in reverse. -/
  | sequence (offset : Nat) (items : List Node)
  /-- A mapping with its entries so far, in reverse, and a key that waits for its value. -/
  | mapping (offset : Nat) (entries : List (Node × Node)) (key : Option Node)
deriving Inhabited

/-- The state between two events. -/
structure Builder where
  /-- The collections that are open, the innermost first. -/
  stack : List OpenNode
  root : Option Node
  fault : Option Cause

namespace Builder

/-- The state before the first event. -/
def initial : Builder :=
  ⟨[], none, none⟩

/-- Put a completed node where it belongs. -/
def complete (builder : Builder) (node : Node) : Builder :=
  match builder.stack with
  | [] => { builder with root := builder.root.or (some node) }
  | .sequence offset items :: outer =>
      { builder with stack := .sequence offset (node :: items) :: outer }
  | .mapping offset entries none :: outer =>
      { builder with stack := .mapping offset entries (some node) :: outer }
  | .mapping offset entries (some key) :: outer =>
      { builder with stack := .mapping offset ((key, node) :: entries) none :: outer }

/-- Start a collection. -/
def start (builder : Builder) (node : OpenNode) : Builder :=
  { builder with stack := node :: builder.stack }

/-- Remember a fault if it is the first one, and close the innermost collection. -/
def fail (builder : Builder) (cause : Cause) : Builder :=
  { builder with stack := builder.stack.tail, fault := builder.fault.or (some cause) }

/-- End a sequence. -/
def endSequence (builder : Builder) : Builder :=
  match builder.stack with
  | .sequence offset items :: outer =>
      { builder with stack := outer }.complete (.sequence offset items.reverse)
  | _ => builder.fail .unmatchedSequenceEnd

/-- End a mapping, whose last key has to have its value. -/
def endMapping (builder : Builder) : Builder :=
  match builder.stack with
  | .mapping offset entries none :: outer =>
      { builder with stack := outer }.complete (.mapping offset entries.reverse)
  | .mapping _ _ (some _) :: _ => builder.fail .keyWithoutValue
  | _ => builder.fail .unmatchedMappingEnd

/-- The offset of an event, exactly.  A program that counts in machine words finds it unless a word
has no room for it, which a position in a text that is held in memory does not ask for. -/
def offsetOf (index : LineIndex) (mark : Mark) : Nat :=
  index.offsetOf mark.line mark.column

/-- Take in one event. -/
def take (index : LineIndex) (builder : Builder) (marked : MarkedEvent) : Builder :=
  let offset := offsetOf index marked.mark
  match marked.event with
  | .scalar _ _ text => builder.complete (.scalar offset (String.ofList text))
  | .alias _ => builder.complete (.alias offset)
  | .sequenceStart _ => builder.start (.sequence offset [])
  | .mappingStart _ => builder.start (.mapping offset [] none)
  | .sequenceEnd => builder.endSequence
  | .mappingEnd => builder.endMapping
  | .streamStart | .streamEnd | .documentStart | .documentEnd => builder

/-- Take in events in order. -/
def takeAll (index : LineIndex) (builder : Builder) (events : List MarkedEvent) : Builder :=
  events.foldl (take index) builder

/-- What has been built: the fault if there is one, and otherwise the first node. -/
def finish (builder : Builder) : Except Cause Node :=
  match builder.fault, builder.root with
  | some cause, _ => .error cause
  | none, some node => .ok node
  | none, none => .error .noDocument

/-- Build a node from events. -/
def run (index : LineIndex) (events : List MarkedEvent) : Except Cause Node :=
  (initial.takeAll index events).finish

end Builder

namespace Node

/-- Build the node of the first document of a text. -/
def ofText (text : String) (index : LineIndex) : Except Cause Node :=
  match Current.events? text.toList with
  | none => .error .unscannable
  | some events => Builder.run index events

end Node

end RunAtlas
