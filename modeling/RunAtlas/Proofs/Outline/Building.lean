import Mathlib.Data.List.Induction
import RunAtlas.Proofs.Outline.Flattening

/-!
# Which events build a node

Building a node is the inverse of flattening one, also for events that no document has.  What an
end closes is said here without the builder: it is the last start that only complete nodes follow.
An end that closes no collection of its kind, or a mapping whose last key has no value, is faulty.

`Builder.Consistent` is the invariant of a builder that has met no faulty end: its stack spells out
the events so far as the nodes that are complete and the collections that are open.  From it follow
the results of a whole run.
-/

namespace RunAtlas

open Yaml Text WrittenNode

namespace Yaml

/-- Whether an event belongs to a node; the others frame a stream and its documents. -/
def Event.isOfNode : Event → Bool
  | .streamStart | .streamEnd | .documentStart | .documentEnd => false
  | _ => true

/-- The events of nodes. -/
def nodeEvents (events : List MarkedEvent) : List MarkedEvent :=
  events.filter (·.event.isOfNode)

/-- The collection that an end would close is a sequence. -/
def OpensSequence (events : List MarkedEvent) : Prop :=
  ∃ before properties start items,
    events = before ++ ⟨.sequenceStart properties, start⟩ :: itemEvents items

/-- The collection that an end would close is a mapping whose keys all have values. -/
def OpensMapping (events : List MarkedEvent) : Prop :=
  ∃ before properties start entries,
    events = before ++ ⟨.mappingStart properties, start⟩ :: entryEvents entries

/-- The collection that an end would close is a mapping whose last key has no value. -/
def AwaitsValue (events : List MarkedEvent) : Prop :=
  ∃ before properties start entries key,
    events =
      before ++ ⟨.mappingStart properties, start⟩ :: (entryEvents entries ++ WrittenNode.events key)

/-- What is wrong with an end that comes after other events. -/
inductive EndFault (before : List MarkedEvent) : Event → Cause → Prop
  | unmatchedSequence (closed : ¬ OpensSequence before) :
      EndFault before .sequenceEnd .unmatchedSequenceEnd
  | unmatchedMapping (closed : ¬ OpensMapping before) (settled : ¬ AwaitsValue before) :
      EndFault before .mappingEnd .unmatchedMappingEnd
  | pendingKey (pending : AwaitsValue before) :
      EndFault before .mappingEnd .keyWithoutValue

/-- No end among the events is faulty. -/
def Faultless (events : List MarkedEvent) : Prop :=
  ∀ before marked after, events = before ++ marked :: after →
    ∀ cause, ¬ EndFault before marked.event cause

/-- The first faulty end among the events is faulty for `cause`. -/
def FirstFault (events : List MarkedEvent) (cause : Cause) : Prop :=
  ∃ before marked after, events = before ++ marked :: after ∧ Faultless before ∧
    EndFault before marked.event cause

/-- An end is faulty for one cause at most. -/
theorem EndFault.cause_unique {before : List MarkedEvent} {event : Event} {first second : Cause}
    (firstFault : EndFault before event first) (secondFault : EndFault before event second) :
    first = second := by
  cases firstFault <;> cases secondFault <;> first | rfl | contradiction

/-- Every faulty end is reported under the one code of a tree that cannot be built. -/
theorem EndFault.phase_code {before : List MarkedEvent} {event : Event} {cause : Cause}
    (fault : EndFault before event cause) : cause.phase = .ast ∧ cause.code = "A001" := by
  cases fault <;> exact ⟨rfl, rfl⟩

/-- Only ends are faulty. -/
theorem faultless_of_no_end {events : List MarkedEvent}
    (noEnd : ∀ marked ∈ events, marked.event ≠ .sequenceEnd ∧ marked.event ≠ .mappingEnd) :
    Faultless events := by
  rintro before ⟨event, mark⟩ after rfl cause fault
  have other := noEnd ⟨event, mark⟩ (by simp)
  cases fault <;> simp at other

theorem faultless_nil : Faultless [] :=
  faultless_of_no_end (by simp)

/-- Events are faultless when the last one is not faulty and those before it are faultless. -/
theorem faultless_concat_iff {events : List MarkedEvent} {marked : MarkedEvent} :
    Faultless (events ++ [marked]) ↔
      Faultless events ∧ ∀ cause, ¬ EndFault events marked.event cause := by
  constructor
  · intro faultless
    constructor
    · rintro before other after rfl
      exact faultless before other (after ++ [marked]) (by simp)
    · exact faultless events marked [] rfl
  · rintro ⟨faultless, sound⟩ before other after split
    rcases List.eq_nil_or_concat after with rfl | ⟨after, last, rfl⟩
    · obtain ⟨rfl, rfl⟩ : events = before ∧ marked = other := by simpa using split
      exact sound
    · apply faultless before other after
      rw [List.concat_eq_append, ← List.cons_append, ← List.append_assoc] at split
      exact (List.append_inj' split rfl).1

/-- Events without a first faulty end are faultless. -/
theorem faultless_or_firstFault (events : List MarkedEvent) :
    Faultless events ∨ ∃ cause, FirstFault events cause := by
  induction events using List.reverseRecOn with
  | nil => exact Or.inl faultless_nil
  | append_singleton events marked ih =>
      rcases ih with faultless | ⟨cause, before, other, after, rfl, faultless, fault⟩
      · by_cases faulty : ∃ cause, EndFault events marked.event cause
        · obtain ⟨cause, fault⟩ := faulty
          exact Or.inr ⟨cause, events, marked, [], rfl, faultless, fault⟩
        · exact Or.inl (faultless_concat_iff.mpr ⟨faultless, not_exists.mp faulty⟩)
      · exact Or.inr ⟨cause, before, other, after ++ [marked], by simp, faultless, fault⟩

end Yaml

namespace Builder

variable (index : LineIndex)

/-! ## What stays -/

/-- Whatever a builder has found or met wrong is still so in another one. -/
structure Extends (builder later : Builder) : Prop where
  root : ∀ node, builder.root = some node → later.root = some node
  fault : ∀ cause, builder.fault = some cause → later.fault = some cause

theorem Extends.refl (builder : Builder) : builder.Extends builder :=
  ⟨fun _ => id, fun _ => id⟩

theorem Extends.trans {first second third : Builder} (early : first.Extends second)
    (late : second.Extends third) : first.Extends third :=
  ⟨fun node found => late.root node (early.root node found),
    fun cause met => late.fault cause (early.fault cause met)⟩

/-- Completing a node keeps the fault as it is, met or not. -/
@[simp]
theorem fault_complete (builder : Builder) (node : Node) :
    (builder.complete node).fault = builder.fault := by
  unfold complete
  split <;> rfl

/-- Completing a node keeps what has been found, whatever is still open. -/
theorem extends_complete (builder : Builder) (stack : List OpenNode) (node : Node) :
    builder.Extends ({ builder with stack := stack }.complete node) := by
  refine ⟨fun root found => ?_, fun cause met => (fault_complete _ node).trans met⟩
  unfold complete
  split <;> simp [found]

theorem extends_fail (builder : Builder) (cause : Cause) :
    builder.Extends (builder.fail cause) :=
  ⟨fun _ => id, fun first met => by simp [fail, met]⟩

theorem extends_endSequence (builder : Builder) : builder.Extends builder.endSequence := by
  unfold endSequence
  split
  · exact extends_complete builder _ _
  · exact extends_fail builder _

theorem extends_endMapping (builder : Builder) : builder.Extends builder.endMapping := by
  unfold endMapping
  split
  · exact extends_complete builder _ _
  · exact extends_fail builder _
  · exact extends_fail builder _

theorem extends_take (builder : Builder) : ∀ marked, builder.Extends (builder.take index marked)
  | ⟨.scalar _ _ _, _⟩ | ⟨.alias _, _⟩ => extends_complete builder builder.stack _
  | ⟨.sequenceStart _, _⟩ | ⟨.mappingStart _, _⟩ => ⟨fun _ => id, fun _ => id⟩
  | ⟨.sequenceEnd, _⟩ => extends_endSequence builder
  | ⟨.mappingEnd, _⟩ => extends_endMapping builder
  | ⟨.streamStart, _⟩ | ⟨.streamEnd, _⟩ | ⟨.documentStart, _⟩ | ⟨.documentEnd, _⟩ =>
      Extends.refl builder

/-- The first root and the first fault are kept whatever follows. -/
theorem extends_takeAll (builder : Builder) (events : List MarkedEvent) :
    builder.Extends (builder.takeAll index events) := by
  induction events generalizing builder with
  | nil => exact Extends.refl builder
  | cons marked rest ih => exact (extends_take index builder marked).trans (ih _)

/-- Events that belong to no node do not matter. -/
theorem takeAll_nodeEvents (builder : Builder) (events : List MarkedEvent) :
    builder.takeAll index (nodeEvents events) = builder.takeAll index events := by
  induction events generalizing builder with
  | nil => rfl
  | cons marked rest ih =>
      obtain ⟨event, mark⟩ := marked
      cases event <;> simp [nodeEvents, Event.isOfNode, take] <;> exact ih _

/-! ## The invariant -/

/-- A stack of open collections spells out events: after the complete nodes outside of every
collection come the starts of the open ones, each with what it holds so far. -/
inductive SpellsOut (completed : List WrittenNode) : List OpenNode → List MarkedEvent → Prop
  | outermost : SpellsOut completed [] (itemEvents completed)
  | sequence {outer : List OpenNode} {before : List MarkedEvent}
      (spelled : SpellsOut completed outer before) (properties : Properties) (start : Mark)
      (items : List WrittenNode) :
      SpellsOut completed
        (.sequence (offsetOf index start) (placeItems index items).reverse :: outer)
        (before ++ ⟨.sequenceStart properties, start⟩ :: itemEvents items)
  | mapping {outer : List OpenNode} {before : List MarkedEvent}
      (spelled : SpellsOut completed outer before) (properties : Properties) (start : Mark)
      (entries : List (WrittenNode × WrittenNode)) :
      SpellsOut completed
        (.mapping (offsetOf index start) (placeEntries index entries).reverse none :: outer)
        (before ++ ⟨.mappingStart properties, start⟩ :: entryEvents entries)
  | pending {outer : List OpenNode} {before : List MarkedEvent}
      (spelled : SpellsOut completed outer before) (properties : Properties) (start : Mark)
      (entries : List (WrittenNode × WrittenNode)) (key : WrittenNode) :
      SpellsOut completed
        (.mapping (offsetOf index start) (placeEntries index entries).reverse
          (some (key.place index)) :: outer)
        (before ++ ⟨.mappingStart properties, start⟩ :: (entryEvents entries ++ key.events))

/-- A builder has met no fault in events that its stack spells out, and its root is the first node
that they complete outside of every collection. -/
structure Consistent (completed : List WrittenNode) (builder : Builder)
    (events : List MarkedEvent) : Prop where
  fault_eq : builder.fault = none
  root_eq : builder.root = (placeItems index completed).head?
  spelled : SpellsOut index completed builder.stack events

variable {index} {completed : List WrittenNode} {builder : Builder} {events : List MarkedEvent}

theorem consistent_initial : Consistent index [] initial [] :=
  ⟨rfl, rfl, .outermost⟩

/-- The nodes completed outside of every collection come first. -/
theorem SpellsOut.eq_append {stack : List OpenNode}
    (spelled : SpellsOut index completed stack events) :
    ∃ rest, events = itemEvents completed ++ rest := by
  induction spelled with
  | outermost => exact ⟨[], by simp⟩
  | sequence _ properties start items ih =>
      obtain ⟨rest, rfl⟩ := ih
      exact ⟨_, List.append_assoc _ _ _⟩
  | mapping _ properties start entries ih =>
      obtain ⟨rest, rfl⟩ := ih
      exact ⟨_, List.append_assoc _ _ _⟩
  | pending _ properties start entries key ih =>
      obtain ⟨rest, rfl⟩ := ih
      exact ⟨_, List.append_assoc _ _ _⟩

/-- Completing a node keeps a builder consistent.  Outside of every collection the node is one
more that is complete; otherwise it becomes a part of the innermost collection. -/
theorem Consistent.complete (consistent : Consistent index completed builder events)
    (node : WrittenNode) :
    ∃ completed, Consistent index completed (builder.complete (node.place index))
      (events ++ node.events) := by
  obtain ⟨stack, root, fault⟩ := builder
  obtain ⟨rfl, rfl, spelled⟩ := consistent
  cases spelled with
  | outermost =>
      refine ⟨completed ++ [node], rfl, ?_, ?_⟩
      · cases completed <;> simp [Builder.complete, placeItems, placeItems_append]
      · have spelled :
            SpellsOut index (completed ++ [node]) [] (itemEvents (completed ++ [node])) :=
          .outermost
        simpa [Builder.complete, itemEvents_append, itemEvents] using spelled
  | sequence outer properties start items =>
      refine ⟨completed, rfl, rfl, ?_⟩
      simpa [Builder.complete, itemEvents_append, itemEvents, placeItems_append, placeItems] using
        outer.sequence properties start (items ++ [node])
  | mapping outer properties start entries =>
      refine ⟨completed, rfl, rfl, ?_⟩
      simpa [Builder.complete] using outer.pending properties start entries node
  | pending outer properties start entries key =>
      refine ⟨completed, rfl, rfl, ?_⟩
      simpa [Builder.complete, entryEvents_append, entryEvents, placeEntries_append, placeEntries]
        using outer.mapping properties start (entries ++ [(key, node)])

/-! ## What is open

The stack is a function of the events, so that what the events leave open can be read off it,
whatever the builder had taken in before them. -/

variable (index) in
theorem stack_of_opensSequence (builder : Builder) (opens : OpensSequence events) :
    ∃ offset items outer,
      (builder.takeAll index events).stack = .sequence offset items :: outer := by
  obtain ⟨before, properties, start, items, rfl⟩ := opens
  rw [takeAll_append, takeAll_cons]
  simp only [take, Builder.start]
  rw [takeAll_itemEvents_sequence index fun item _ => takeAll_events index item]
  exact ⟨_, _, _, rfl⟩

variable (index) in
theorem stack_of_opensMapping (builder : Builder) (opens : OpensMapping events) :
    ∃ offset entries outer,
      (builder.takeAll index events).stack = .mapping offset entries none :: outer := by
  obtain ⟨before, properties, start, entries, rfl⟩ := opens
  rw [takeAll_append, takeAll_cons]
  simp only [take, Builder.start]
  rw [takeAll_entryEvents_mapping index fun entry _ =>
    ⟨takeAll_events index entry.1, takeAll_events index entry.2⟩]
  exact ⟨_, _, _, rfl⟩

variable (index) in
theorem stack_of_awaitsValue (builder : Builder) (awaits : AwaitsValue events) :
    ∃ offset entries key outer,
      (builder.takeAll index events).stack = .mapping offset entries (some key) :: outer := by
  obtain ⟨before, properties, start, entries, key, rfl⟩ := awaits
  rw [takeAll_append, takeAll_cons, takeAll_append]
  simp only [take, Builder.start]
  rw [takeAll_entryEvents_mapping index fun entry _ =>
    ⟨takeAll_events index entry.1, takeAll_events index entry.2⟩, takeAll_events]
  exact ⟨_, _, _, _, rfl⟩

/-- A builder that has taken in `before` and then `marked` either is consistent, and the event is
not faulty, or has met the fault of the event. -/
def Judges (index : LineIndex) (before : List MarkedEvent) (marked : MarkedEvent) (next : Builder) :
    Prop :=
  ((∃ completed, Consistent index completed next (before ++ [marked])) ∧
    ∀ cause, ¬ EndFault before marked.event cause) ∨
  ∃ cause, next.fault = some cause ∧ EndFault before marked.event cause

theorem Consistent.judges_endSequence (consistent : Consistent index completed builder events)
    (built : initial.takeAll index events = builder) (mark : Mark) :
    Judges index events ⟨.sequenceEnd, mark⟩ builder.endSequence := by
  have opens (isOpen : OpensSequence events) := stack_of_opensSequence index initial isOpen
  rw [built] at opens
  obtain ⟨stack, root, fault⟩ := builder
  obtain ⟨rfl, rfl, spelled⟩ := consistent
  cases spelled with
  | outermost =>
      exact Or.inr ⟨_, rfl, .unmatchedSequence fun isOpen => by simpa using opens isOpen⟩
  | @sequence outer before spelled properties start items =>
      have inner : Consistent index completed ⟨outer, (placeItems index completed).head?, none⟩
          before := ⟨rfl, rfl, spelled⟩
      have ended := inner.complete (.sequence properties start items mark)
      refine Or.inl ⟨?_, ?_⟩
      · simpa [endSequence, events, place] using ended
      · rintro cause ⟨closed⟩
        exact closed ⟨before, properties, start, items, rfl⟩
  | mapping spelled properties start entries =>
      exact Or.inr ⟨_, rfl, .unmatchedSequence fun isOpen => by simpa using opens isOpen⟩
  | pending spelled properties start entries key =>
      exact Or.inr ⟨_, rfl, .unmatchedSequence fun isOpen => by simpa using opens isOpen⟩

theorem Consistent.judges_endMapping (consistent : Consistent index completed builder events)
    (built : initial.takeAll index events = builder) (mark : Mark) :
    Judges index events ⟨.mappingEnd, mark⟩ builder.endMapping := by
  have opens (isOpen : OpensMapping events) := stack_of_opensMapping index initial isOpen
  have awaits (pending : AwaitsValue events) := stack_of_awaitsValue index initial pending
  rw [built] at opens awaits
  obtain ⟨stack, root, fault⟩ := builder
  obtain ⟨rfl, rfl, spelled⟩ := consistent
  cases spelled with
  | outermost =>
      exact Or.inr ⟨_, rfl, .unmatchedMapping (fun isOpen => by simpa using opens isOpen)
        fun pending => by simpa using awaits pending⟩
  | sequence spelled properties start items =>
      exact Or.inr ⟨_, rfl, .unmatchedMapping (fun isOpen => by simpa using opens isOpen)
        fun pending => by simpa using awaits pending⟩
  | @mapping outer before spelled properties start entries =>
      have inner : Consistent index completed ⟨outer, (placeItems index completed).head?, none⟩
          before := ⟨rfl, rfl, spelled⟩
      have ended := inner.complete (.mapping properties start entries mark)
      refine Or.inl ⟨?_, ?_⟩
      · simpa [endMapping, events, place] using ended
      · intro cause fault
        cases fault with
        | unmatchedMapping closed settled =>
            exact closed ⟨before, properties, start, entries, rfl⟩
        | pendingKey pending => simpa using awaits pending
  | @pending outer before spelled properties start entries key =>
      exact Or.inr ⟨_, rfl, .pendingKey ⟨before, properties, start, entries, key, rfl⟩⟩

/-- A consistent builder judges every event of a node. -/
theorem Consistent.judges_take
    (consistent : Consistent index completed (initial.takeAll index events) events)
    {marked : MarkedEvent} (ofNode : marked.event.isOfNode = true) :
    Judges index events marked ((initial.takeAll index events).take index marked) := by
  obtain ⟨event, mark⟩ := marked
  match event, ofNode with
  | .scalar properties plain text, _ =>
      exact Or.inl ⟨consistent.complete (.scalar properties plain text mark), nofun⟩
  | .alias name, _ => exact Or.inl ⟨consistent.complete (.reference name mark), nofun⟩
  | .sequenceStart properties, _ =>
      have opened := consistent.spelled.sequence properties mark []
      exact Or.inl ⟨⟨completed, consistent.fault_eq, consistent.root_eq, opened⟩, nofun⟩
  | .mappingStart properties, _ =>
      have opened := consistent.spelled.mapping properties mark []
      exact Or.inl ⟨⟨completed, consistent.fault_eq, consistent.root_eq, opened⟩, nofun⟩
  | .sequenceEnd, _ => exact consistent.judges_endSequence rfl mark
  | .mappingEnd, _ => exact consistent.judges_endMapping rfl mark

/-! ## Whole runs -/

variable (index) in
/-- Events without a faulty end leave the builder consistent. -/
theorem consistent_of_faultless (ofNodes : ∀ marked ∈ events, marked.event.isOfNode = true)
    (faultless : Faultless events) :
    ∃ completed, Consistent index completed (initial.takeAll index events) events := by
  induction events using List.reverseRecOn with
  | nil => exact ⟨[], consistent_initial⟩
  | append_singleton events marked ih =>
      obtain ⟨before, sound⟩ := faultless_concat_iff.mp faultless
      obtain ⟨completed, consistent⟩ :=
        ih (fun other member => ofNodes other (by simp [member])) before
      rw [takeAll_append]
      rcases consistent.judges_take (ofNodes marked (by simp)) with ⟨next, -⟩ | ⟨cause, -, fault⟩
      · exact next
      · exact absurd fault (sound cause)

variable (index) in
/-- The fault of a run is that of the first faulty end. -/
theorem fault_of_firstFault (ofNodes : ∀ marked ∈ events, marked.event.isOfNode = true)
    {cause : Cause} (first : FirstFault events cause) :
    (initial.takeAll index events).fault = some cause := by
  obtain ⟨before, marked, after, rfl, faultless, fault⟩ := first
  obtain ⟨completed, consistent⟩ := consistent_of_faultless index
    (fun other member => ofNodes other (by simp [member])) faultless
  rw [takeAll_append, takeAll_cons]
  rcases consistent.judges_take (ofNodes marked (by simp)) with ⟨-, sound⟩ | ⟨met, faulty, reason⟩
  · exact absurd fault (sound cause)
  · rw [reason.cause_unique fault] at faulty
    exact (extends_takeAll index _ after).fault cause faulty

theorem isOfNode_of_mem_nodeEvents {marked : MarkedEvent} (member : marked ∈ nodeEvents events) :
    marked.event.isOfNode = true :=
  (List.mem_filter.mp member).2

/-- A run over the events of nodes that follow one another gives the first node. -/
theorem run_of_nodeEvents_eq {node : WrittenNode} {others : List WrittenNode}
    (flat : nodeEvents events = itemEvents (node :: others)) :
    run index events = .ok (node.place index) := by
  rw [run, ← takeAll_nodeEvents, flat, initial, takeAll_itemEvents_outermost]
  simp [placeItems, finish]

/-- A run whose first faulty end is faulty for a cause fails for it. -/
theorem run_of_firstFault {cause : Cause} (first : FirstFault (nodeEvents events) cause) :
    run index events = .error cause := by
  have met := fault_of_firstFault index (fun _ => isOfNode_of_mem_nodeEvents) first
  rw [takeAll_nodeEvents] at met
  simp [run, finish, met]

/-- The node with whose events a run begins is its root. -/
theorem root_of_begins {node : WrittenNode} {rest : List MarkedEvent}
    (begins : nodeEvents events = node.events ++ rest) :
    (initial.takeAll index events).root = some (node.place index) := by
  rw [← takeAll_nodeEvents, begins, takeAll_append, takeAll_events]
  exact (extends_takeAll index _ rest).root _ rfl

/-- A run without a faulty end that begins with the events of a node gives this node. -/
theorem run_of_begins (faultless : Faultless (nodeEvents events)) {node : WrittenNode}
    {rest : List MarkedEvent} (begins : nodeEvents events = node.events ++ rest) :
    run index events = .ok (node.place index) := by
  obtain ⟨completed, consistent⟩ :=
    consistent_of_faultless index (fun _ => isOfNode_of_mem_nodeEvents) faultless
  have fault := consistent.fault_eq
  rw [takeAll_nodeEvents] at fault
  simp [run, finish, fault, root_of_begins begins]

/-- A run without a faulty end that begins with the events of no node finds no document. -/
theorem run_of_not_begins (faultless : Faultless (nodeEvents events))
    (nothing : ¬ ∃ (node : WrittenNode) (rest : List MarkedEvent),
      nodeEvents events = node.events ++ rest) :
    run index events = .error .noDocument := by
  obtain ⟨completed, consistent⟩ :=
    consistent_of_faultless index (fun _ => isOfNode_of_mem_nodeEvents) faultless
  have fault := consistent.fault_eq
  have root := consistent.root_eq
  rw [takeAll_nodeEvents] at fault root
  cases completed with
  | nil => simp [run, finish, fault, root, placeItems]
  | cons node others =>
      obtain ⟨rest, flat⟩ := consistent.spelled.eq_append
      exact absurd ⟨node, itemEvents others ++ rest, by simpa [itemEvents] using flat⟩ nothing

/-- A run gives a node exactly when no end is faulty and it begins with the events of a node that
is placed there. -/
theorem run_eq_ok_iff {outline : Node} :
    run index events = .ok outline ↔
      Faultless (nodeEvents events) ∧
        ∃ (node : WrittenNode) (rest : List MarkedEvent),
          nodeEvents events = node.events ++ rest ∧ node.place index = outline := by
  constructor
  · intro built
    rcases faultless_or_firstFault (nodeEvents events) with faultless | ⟨cause, first⟩
    · refine ⟨faultless, ?_⟩
      by_cases something : ∃ (node : WrittenNode) (rest : List MarkedEvent),
          nodeEvents events = node.events ++ rest
      · obtain ⟨node, rest, begins⟩ := something
        rw [run_of_begins faultless begins] at built
        exact ⟨node, rest, begins, Except.ok.inj built⟩
      · rw [run_of_not_begins faultless something] at built
        contradiction
    · rw [run_of_firstFault first] at built
      contradiction
  · rintro ⟨faultless, node, rest, begins, rfl⟩
    exact run_of_begins faultless begins

/-- Building inverts flattening.  The events of nodes that follow one another give the first node.
In turn a run gives a node only if it begins with the events of that node and no end is faulty; it
fails for the first faulty end whatever follows; and without a faulty end it fails only if no node
is complete outside of every collection. -/
theorem run_inverts_flattening (index : LineIndex) (events : List MarkedEvent) :
    (∀ (node : WrittenNode) (others : List WrittenNode),
      nodeEvents events = itemEvents (node :: others) →
        run index events = .ok (node.place index)) ∧
    (∀ outline, run index events = .ok outline ↔
      Faultless (nodeEvents events) ∧
        ∃ (node : WrittenNode) (rest : List MarkedEvent),
          nodeEvents events = node.events ++ rest ∧ node.place index = outline) ∧
    (∀ cause, FirstFault (nodeEvents events) cause →
      run index events = .error cause ∧ cause.phase = .ast ∧ cause.code = "A001") ∧
    (Faultless (nodeEvents events) →
      (¬ ∃ (node : WrittenNode) (rest : List MarkedEvent),
        nodeEvents events = node.events ++ rest) →
      run index events = .error .noDocument ∧
        Cause.noDocument.phase = .ast ∧ Cause.noDocument.code = "A001") := by
  refine ⟨fun node others flat => run_of_nodeEvents_eq flat, fun outline => run_eq_ok_iff, ?_, ?_⟩
  · intro cause first
    obtain ⟨before, marked, after, -, -, fault⟩ := id first
    exact ⟨run_of_firstFault first, fault.phase_code⟩
  · intro faultless nothing
    exact ⟨run_of_not_begins faultless nothing, rfl, rfl⟩

/-- A mapping from a sequence to an alias, written as `? [a]` over `: *b`. -/
def sequenceToAlias : WrittenNode :=
  .mapping .none ⟨0, 1, 0⟩
    [(.sequence .none ⟨2, 1, 2⟩ [.scalar .none true ['a'] ⟨3, 1, 3⟩] ⟨4, 1, 4⟩,
      .reference ['b'] ⟨8, 2, 2⟩)]
    ⟨11, 3, 0⟩

/-- The key of a mapping whose value never comes, and an end that comes too often. -/
def keyWithoutValueEvents : List MarkedEvent :=
  [⟨.mappingStart .none, ⟨0, 1, 0⟩⟩, ⟨.scalar .none true ['a'], ⟨0, 1, 0⟩⟩,
    ⟨.mappingEnd, ⟨1, 1, 1⟩⟩, ⟨.sequenceEnd, ⟨1, 1, 1⟩⟩]

theorem run_sequenceToAlias :
    let index := LineIndex.ofText "? [a]\n: *b\n"
    let document : List MarkedEvent :=
      ⟨.streamStart, .origin⟩ :: ⟨.documentStart, .origin⟩ :: sequenceToAlias.events ++
        [⟨.documentEnd, ⟨11, 3, 0⟩⟩]
    (nodeEvents document = itemEvents [sequenceToAlias] ∧
      run index document =
        .ok (.mapping 0 [(.sequence 2 [.scalar 3 "a"], .alias 8)]) ∧
      Faultless (nodeEvents document)) ∧
    (FirstFault (nodeEvents keyWithoutValueEvents) .keyWithoutValue ∧
      run index keyWithoutValueEvents = .error .keyWithoutValue) ∧
    run index [⟨.sequenceStart .none, .origin⟩] = .error .noDocument := by
  intro index document
  have flat : nodeEvents document = itemEvents [sequenceToAlias] := rfl
  have built := (run_inverts_flattening index document).1 sequenceToAlias [] flat
  have fault : FirstFault (nodeEvents keyWithoutValueEvents) .keyWithoutValue :=
    ⟨[⟨.mappingStart .none, ⟨0, 1, 0⟩⟩, ⟨.scalar .none true ['a'], ⟨0, 1, 0⟩⟩], _, _, rfl,
      faultless_of_no_end (by simp),
      .pendingKey ⟨[], .none, ⟨0, 1, 0⟩, [], .scalar .none true ['a'] ⟨0, 1, 0⟩, rfl⟩⟩
  refine ⟨⟨flat, ?_, ?_⟩, ⟨fault, ?_⟩, ?_⟩
  · exact built
  · exact (((run_inverts_flattening index document).2.1 _).mp built).1
  · exact ((run_inverts_flattening index keyWithoutValueEvents).2.2.1 _ fault).1
  · refine ((run_inverts_flattening index [⟨.sequenceStart .none, .origin⟩]).2.2.2
      (faultless_of_no_end (by simp [nodeEvents, Event.isOfNode])) ?_).1
    rintro ⟨node, rest, begins⟩
    cases node <;> simp [nodeEvents, Event.isOfNode, events] at begins

end Builder

end RunAtlas
