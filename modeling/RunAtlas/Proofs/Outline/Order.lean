import Mathlib.Data.List.Flatten
import RunAtlas.Proofs.Model.Pairing
import RunAtlas.Proofs.Outline.Flattening

/-!
# Document order

The offsets of a node in document order are those of the marks of its events, without the marks of
ends.  What is reported of an outline, its own offset and then those of its jobs and their steps,
is found in the same order, whatever else the outline holds.
-/

namespace RunAtlas

open Yaml Text

namespace Yaml

/-- Whether an event starts a node.  The ends of collections and the frames of documents do
not. -/
def Event.startsNode : Event → Bool
  | .scalar _ _ _ | .alias _ | .sequenceStart _ | .mappingStart _ => true
  | _ => false

/-- The events that start nodes. -/
def startEvents (events : List MarkedEvent) : List MarkedEvent :=
  events.filter (·.event.startsNode)

theorem startEvents_append (front back : List MarkedEvent) :
    startEvents (front ++ back) = startEvents front ++ startEvents back :=
  List.filter_append front back

/-- The start of a collection starts a node, and its end does not. -/
theorem startEvents_collection {first last : MarkedEvent} (inner : List MarkedEvent)
    (starts : first.event.startsNode = true) (ends : last.event.startsNode = false) :
    startEvents (first :: (inner ++ [last])) = first :: startEvents inner := by
  simp [startEvents, starts, ends]

end Yaml

namespace Node

mutual

/-- The offsets of a node and of all nodes inside it, in document order. -/
def offsets : Node → List Nat
  | .scalar offset _ | .alias offset => [offset]
  | .sequence offset items => offset :: itemOffsets items
  | .mapping offset entries => offset :: entryOffsets entries

/-- The offsets of nodes that follow one another. -/
def itemOffsets : List Node → List Nat
  | [] => []
  | item :: rest => offsets item ++ itemOffsets rest

/-- The offsets of keys, each followed by those of its value. -/
def entryOffsets : List (Node × Node) → List Nat
  | [] => []
  | (key, value) :: rest => offsets key ++ (offsets value ++ entryOffsets rest)

end

theorem itemOffsets_eq_flatMap (items : List Node) : itemOffsets items = items.flatMap offsets := by
  induction items with
  | nil => rfl
  | cons item rest ih => simp [itemOffsets, ih]

theorem entryOffsets_eq_flatMap (entries : List (Node × Node)) :
    entryOffsets entries = entries.flatMap fun entry => entry.1.offsets ++ entry.2.offsets := by
  induction entries with
  | nil => rfl
  | cons entry rest ih => simp [entryOffsets, ih]

/-- A node starts before everything inside it. -/
theorem offset_sublist_offsets (node : Node) : [node.offset].Sublist node.offsets := by
  cases node <;> simp [offset, offsets]

end Node

open Node

namespace WrittenNode

variable (index : LineIndex)

/-- The offsets of the marks of events. -/
def markOffsets (events : List MarkedEvent) : List Nat :=
  events.map fun marked => Builder.offsetOf index marked.mark

theorem markOffsets_append (front back : List MarkedEvent) :
    markOffsets index (front ++ back) = markOffsets index front ++ markOffsets index back :=
  List.map_append

theorem itemOffsets_placeItems {items : List WrittenNode}
    (placed : ∀ item ∈ items,
      (item.place index).offsets = markOffsets index (startEvents item.events)) :
    itemOffsets (placeItems index items) = markOffsets index (startEvents (itemEvents items)) := by
  induction items with
  | nil => rfl
  | cons item rest ih =>
      obtain ⟨first, others⟩ := List.forall_mem_cons.mp placed
      rw [itemEvents, startEvents_append, markOffsets_append, placeItems, itemOffsets, first,
        ih others]

theorem entryOffsets_placeEntries {entries : List (WrittenNode × WrittenNode)}
    (placed : ∀ entry ∈ entries,
      (entry.1.place index).offsets = markOffsets index (startEvents entry.1.events) ∧
        (entry.2.place index).offsets = markOffsets index (startEvents entry.2.events)) :
    entryOffsets (placeEntries index entries) =
      markOffsets index (startEvents (entryEvents entries)) := by
  induction entries with
  | nil => rfl
  | cons entry rest ih =>
      obtain ⟨⟨key, value⟩, others⟩ := List.forall_mem_cons.mp placed
      rw [entryEvents, startEvents_append, startEvents_append, markOffsets_append,
        markOffsets_append, placeEntries, entryOffsets, key, value, ih others]

/-- The offsets of a placed node are those of the events that start it and the nodes inside it. -/
theorem offsets_place (node : WrittenNode) :
    (node.place index).offsets = markOffsets index (startEvents node.events) := by
  induction node with
  | scalar properties plain text mark => rfl
  | reference name mark => rfl
  | sequence properties start items ending placed =>
      rw [place, offsets, itemOffsets_placeItems index placed, events,
        startEvents_collection _ rfl rfl]
      rfl
  | mapping properties start entries ending placed =>
      rw [place, offsets, entryOffsets_placeEntries index placed, events,
        startEvents_collection _ rfl rfl]
      rfl

end WrittenNode

namespace Node

/-- The value under a key starts after the node that has the key, and lies inside it. -/
theorem offset_cons_offsets_sublist_of_get? {node value : Node} {key : String}
    (found : node.get? key = some value) :
    (node.offset :: value.offsets).Sublist node.offsets := by
  obtain ⟨entry, looked, rfl⟩ := Option.map_eq_some_iff.mp found
  have member : entry ∈ node.entries := List.mem_of_find?_eq_some looked
  cases node with
  | mapping offset entries =>
      refine List.Sublist.cons_cons _ ?_
      have within := (List.singleton_sublist.mpr member).flatMap
        fun entry : Node × Node => entry.1.offsets ++ entry.2.offsets
      rw [List.flatMap_singleton, entries_mapping, ← entryOffsets_eq_flatMap] at within
      exact (List.sublist_append_right _ _).trans within
  | _ => simp [entries] at member

/-- The items of a node start in document order. -/
theorem items_map_offset_sublist (node : Node) : (node.items.map offset).Sublist node.offsets := by
  cases node with
  | sequence start items =>
      refine List.Sublist.cons _ ?_
      rw [itemOffsets_eq_flatMap, items_sequence, List.map_eq_flatMap]
      exact List.Sublist.flatMap_right _ fun item _ => offset_sublist_offsets item
  | _ => exact List.nil_sublist _

/-- The steps of a job start in document order. -/
theorem stepItems_map_offset_sublist (job : Node) :
    (job.stepItems.map offset).Sublist job.offsets := by
  unfold stepItems
  cases found : job.get? "steps" with
  | none => exact List.nil_sublist _
  | some steps =>
      exact (items_map_offset_sublist steps).trans
        ((List.sublist_cons_self _ _).trans (offset_cons_offsets_sublist_of_get? found))

/-- The offset of a job, followed by those of its steps. -/
def jobOffsets (entry : Node × Node) : List Nat :=
  entry.1.offset :: entry.2.stepItems.map offset

/-- The jobs of a node and their steps start in document order. -/
theorem flatMap_jobOffsets_sublist (node : Node) :
    (node.entries.flatMap jobOffsets).Sublist node.offsets := by
  cases node with
  | mapping start entries =>
      refine List.Sublist.cons _ ?_
      rw [entryOffsets_eq_flatMap]
      refine List.Sublist.flatMap_right _ fun entry _ => ?_
      exact (offset_sublist_offsets entry.1).append (stepItems_map_offset_sublist entry.2)
  | _ => exact List.nil_sublist _

end Node

end RunAtlas
