import RunAtlas.Outline.Build

/-!
# Flattening nodes into events

A written node is a node as a document spells it out: with the marks of its events, and with the
properties, styles and names that an outline leaves out.  A reference is what an alias stands for.
Flattening it lists its events in document order; placing it gives the outline node that it stands
for, whose offsets are those of the marks.

The main result is `Builder.takeAll_events`: a builder that takes in the events of a written node
completes the placed node, whatever it has built before.
-/

namespace RunAtlas

open Yaml Text

/-- A node as a document spells it out. -/
inductive WrittenNode where
  | scalar (properties : Properties) (plain : Bool) (text : List Char) (mark : Mark)
  | reference (name : List Char) (mark : Mark)
  | sequence (properties : Properties) (start : Mark) (items : List WrittenNode) (ending : Mark)
  | mapping (properties : Properties) (start : Mark)
      (entries : List (WrittenNode × WrittenNode)) (ending : Mark)

namespace WrittenNode

/-- Induction over the nodes of a document, with the items of a sequence and the keys and values of
a mapping at hand as members. -/
@[elab_as_elim, induction_eliminator]
theorem induction {motive : WrittenNode → Prop}
    (scalar : ∀ properties plain text mark, motive (.scalar properties plain text mark))
    (reference : ∀ name mark, motive (.reference name mark))
    (sequence : ∀ properties start items ending, (∀ item ∈ items, motive item) →
      motive (.sequence properties start items ending))
    (mapping : ∀ properties start entries ending,
      (∀ entry ∈ entries, motive entry.1 ∧ motive entry.2) →
      motive (.mapping properties start entries ending))
    (node : WrittenNode) : motive node := by
  refine @WrittenNode.rec motive (fun items => ∀ item ∈ items, motive item)
    (fun entries => ∀ entry ∈ entries, motive entry.1 ∧ motive entry.2)
    (fun entry => motive entry.1 ∧ motive entry.2)
    scalar reference sequence mapping (by simp) ?_ (by simp) ?_ (fun _ _ => And.intro) node
  · intro item items itemHolds itemsHold
    exact List.forall_mem_cons.mpr ⟨itemHolds, itemsHold⟩
  · intro entry entries entryHolds entriesHold
    exact List.forall_mem_cons.mpr ⟨entryHolds, entriesHold⟩

mutual

/-- The events of a node in document order. -/
def events : WrittenNode → List MarkedEvent
  | .scalar properties plain text mark => [⟨.scalar properties plain text, mark⟩]
  | .reference name mark => [⟨.alias name, mark⟩]
  | .sequence properties start items ending =>
      ⟨.sequenceStart properties, start⟩ :: (itemEvents items ++ [⟨.sequenceEnd, ending⟩])
  | .mapping properties start entries ending =>
      ⟨.mappingStart properties, start⟩ :: (entryEvents entries ++ [⟨.mappingEnd, ending⟩])

/-- The events of nodes that follow one another. -/
def itemEvents : List WrittenNode → List MarkedEvent
  | [] => []
  | item :: rest => events item ++ itemEvents rest

/-- The events of keys, each followed by those of its value. -/
def entryEvents : List (WrittenNode × WrittenNode) → List MarkedEvent
  | [] => []
  | (key, value) :: rest => events key ++ (events value ++ entryEvents rest)

end

mutual

/-- The outline node that a written node stands for. -/
def place (index : LineIndex) : WrittenNode → Node
  | .scalar _ _ text mark => .scalar (Builder.offsetOf index mark) (String.ofList text)
  | .reference _ mark => .alias (Builder.offsetOf index mark)
  | .sequence _ start items _ => .sequence (Builder.offsetOf index start) (placeItems index items)
  | .mapping _ start entries _ =>
      .mapping (Builder.offsetOf index start) (placeEntries index entries)

/-- The outline nodes that written nodes stand for. -/
def placeItems (index : LineIndex) : List WrittenNode → List Node
  | [] => []
  | item :: rest => place index item :: placeItems index rest

/-- The outline entries that written entries stand for. -/
def placeEntries (index : LineIndex) : List (WrittenNode × WrittenNode) → List (Node × Node)
  | [] => []
  | (key, value) :: rest => (place index key, place index value) :: placeEntries index rest

end

theorem itemEvents_append (front back : List WrittenNode) :
    itemEvents (front ++ back) = itemEvents front ++ itemEvents back := by
  induction front with
  | nil => simp [itemEvents]
  | cons item front ih => simp [itemEvents, ih]

theorem entryEvents_append (front back : List (WrittenNode × WrittenNode)) :
    entryEvents (front ++ back) = entryEvents front ++ entryEvents back := by
  induction front with
  | nil => simp [entryEvents]
  | cons entry front ih => simp [entryEvents, ih]

theorem placeItems_append (index : LineIndex) (front back : List WrittenNode) :
    placeItems index (front ++ back) = placeItems index front ++ placeItems index back := by
  induction front with
  | nil => simp [placeItems]
  | cons item front ih => simp [placeItems, ih]

theorem placeEntries_append (index : LineIndex) (front back : List (WrittenNode × WrittenNode)) :
    placeEntries index (front ++ back) = placeEntries index front ++ placeEntries index back := by
  induction front with
  | nil => simp [placeEntries]
  | cons entry front ih => simp [placeEntries, ih]

end WrittenNode

namespace Builder

open WrittenNode

variable (index : LineIndex)

theorem takeAll_append (builder : Builder) (front back : List MarkedEvent) :
    builder.takeAll index (front ++ back) = (builder.takeAll index front).takeAll index back := by
  simp [takeAll, List.foldl_append]

@[simp]
theorem takeAll_nil (builder : Builder) : builder.takeAll index [] = builder :=
  rfl

@[simp]
theorem takeAll_cons (builder : Builder) (event : MarkedEvent) (rest : List MarkedEvent) :
    builder.takeAll index (event :: rest) = (builder.take index event).takeAll index rest :=
  rfl

/-- Items whose events complete them are added to an open sequence in order. -/
theorem takeAll_itemEvents_sequence {items : List WrittenNode}
    (completes : ∀ item ∈ items, ∀ builder : Builder,
      builder.takeAll index item.events = builder.complete (item.place index))
    (offset : Nat) (done : List Node) (outer : List OpenNode) (root : Option Node)
    (fault : Option Cause) :
    takeAll index ⟨.sequence offset done :: outer, root, fault⟩ (itemEvents items) =
      ⟨.sequence offset ((placeItems index items).reverse ++ done) :: outer, root, fault⟩ := by
  induction items generalizing done with
  | nil => simp [itemEvents, placeItems]
  | cons item rest ih =>
      obtain ⟨first, others⟩ := List.forall_mem_cons.mp completes
      rw [itemEvents, takeAll_append, first]
      simp only [complete]
      rw [ih others]
      simp [placeItems]

/-- Entries whose events complete them are added to an open mapping in order. -/
theorem takeAll_entryEvents_mapping {entries : List (WrittenNode × WrittenNode)}
    (completes : ∀ entry ∈ entries,
      (∀ builder : Builder,
        builder.takeAll index entry.1.events = builder.complete (entry.1.place index)) ∧
      ∀ builder : Builder,
        builder.takeAll index entry.2.events = builder.complete (entry.2.place index))
    (offset : Nat) (done : List (Node × Node)) (outer : List OpenNode) (root : Option Node)
    (fault : Option Cause) :
    takeAll index ⟨.mapping offset done none :: outer, root, fault⟩ (entryEvents entries) =
      ⟨.mapping offset ((placeEntries index entries).reverse ++ done) none :: outer, root,
        fault⟩ := by
  induction entries generalizing done with
  | nil => simp [entryEvents, placeEntries]
  | cons entry rest ih =>
      obtain ⟨⟨key, value⟩, others⟩ := List.forall_mem_cons.mp completes
      rw [entryEvents, takeAll_append, takeAll_append, key]
      simp only [complete]
      rw [value]
      simp only [complete]
      rw [ih others]
      simp [placeEntries]

/-- The events of a written node complete the placed node. -/
theorem takeAll_events (node : WrittenNode) (builder : Builder) :
    builder.takeAll index node.events = builder.complete (node.place index) := by
  induction node generalizing builder with
  | scalar properties plain text mark => rfl
  | reference name mark => rfl
  | sequence properties start items ending completes =>
      rw [events, takeAll_cons, takeAll_append]
      simp only [take, Builder.start]
      rw [takeAll_itemEvents_sequence index completes]
      simp [take, endSequence, place]
  | mapping properties start entries ending completes =>
      rw [events, takeAll_cons, takeAll_append]
      simp only [take, Builder.start]
      rw [takeAll_entryEvents_mapping index completes]
      simp [take, endMapping, place]

/-- Of the nodes that follow one another outside of every collection, the first is kept. -/
theorem takeAll_itemEvents_outermost (items : List WrittenNode) (root : Option Node)
    (fault : Option Cause) :
    takeAll index ⟨[], root, fault⟩ (itemEvents items) =
      ⟨[], root.or (placeItems index items).head?, fault⟩ := by
  induction items generalizing root with
  | nil => simp [itemEvents, placeItems]
  | cons item rest ih =>
      rw [itemEvents, takeAll_append, takeAll_events]
      simp only [complete]
      rw [ih]
      cases root <;> simp [placeItems]

end Builder

end RunAtlas
