import RunAtlas.Proofs.Outcome
import RunAtlas.Proofs.Outline.Building
import RunAtlas.Proofs.Outline.Order
import RunAtlas.Proofs.Text.Positions

/-!
# The lines of nodes

The nodes of an outline that is built come, in document order, from the events that start nodes, and
each has the offset of the mark of its event.  Since places and offsets lead to each other and back,
a node starts on the line of the mark wherever the mark is a place of the text.
-/

namespace RunAtlas

open Yaml Text Node WrittenNode

namespace Node

mutual

/-- A node and all nodes inside it, in document order. -/
def parts : Node → List Node
  | .scalar offset text => [.scalar offset text]
  | .alias offset => [.alias offset]
  | .sequence offset items => .sequence offset items :: itemParts items
  | .mapping offset entries => .mapping offset entries :: entryParts entries

/-- The parts of nodes that follow one another. -/
def itemParts : List Node → List Node
  | [] => []
  | item :: rest => parts item ++ itemParts rest

/-- The parts of keys, each followed by those of its value. -/
def entryParts : List (Node × Node) → List Node
  | [] => []
  | (key, value) :: rest => parts key ++ (parts value ++ entryParts rest)

end

mutual

/-- The offsets of a node are those of its parts. -/
theorem map_offset_parts : (node : Node) → node.parts.map offset = node.offsets
  | .scalar _ _ | .alias _ => rfl
  | .sequence offset items => congrArg (offset :: ·) (map_offset_itemParts items)
  | .mapping offset entries => congrArg (offset :: ·) (map_offset_entryParts entries)

theorem map_offset_itemParts : (items : List Node) →
    (itemParts items).map offset = itemOffsets items
  | [] => rfl
  | item :: rest => by
      rw [itemParts, List.map_append, map_offset_parts item, map_offset_itemParts rest,
        itemOffsets]

theorem map_offset_entryParts : (entries : List (Node × Node)) →
    (entryParts entries).map offset = entryOffsets entries
  | [] => rfl
  | (key, value) :: rest => by
      rw [entryParts, List.map_append, List.map_append, map_offset_parts key,
        map_offset_parts value, map_offset_entryParts rest, entryOffsets]

end

end Node

/-- The events of nodes have all the events that start nodes. -/
theorem Yaml.startEvents_nodeEvents (events : List MarkedEvent) :
    startEvents (nodeEvents events) = startEvents events := by
  rw [startEvents, nodeEvents, List.filter_filter, startEvents]
  apply List.filter_congr
  rintro ⟨event, mark⟩ -
  cases event <;> rfl

/-- The offsets of a node that is built are those of the first events that start nodes. -/
theorem Builder.offsets_of_run {index : LineIndex} {events : List MarkedEvent} {root : Node}
    (built : Builder.run index events = .ok root) :
    ∃ begun rest, startEvents events = begun ++ rest ∧ root.offsets = markOffsets index begun := by
  obtain ⟨-, node, rest, begins, rfl⟩ := Builder.run_eq_ok_iff.mp built
  refine ⟨startEvents node.events, startEvents rest, ?_, offsets_place index node⟩
  rw [← startEvents_nodeEvents, begins, startEvents_append]

end RunAtlas
