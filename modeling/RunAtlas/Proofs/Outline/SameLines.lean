import Mathlib.Data.List.Forall2
import RunAtlas.Outline.Workflow
import RunAtlas.Proofs.Outcome

/-!
# Outlines that report the same lines

Two nodes report the same lines when they have the same shape and the parts in the same places stand
on the same lines, each in its own text.  Their offsets may differ.  A builder that takes in the
same events on the same lines of two texts ends with nodes that report the same lines, or with the
same fault: `Builder.SameLines` is what every event preserves.
-/

namespace RunAtlas

open Yaml Text

mutual

/-- Two nodes have the same shape and stand on the same lines of two texts. -/
inductive Node.SameLines (first second : LineIndex) : Node → Node → Prop
  | scalar {offset other : Nat} (line : first.lineOf offset = second.lineOf other)
      (text : String) : Node.SameLines first second (.scalar offset text) (.scalar other text)
  | reference {offset other : Nat} (line : first.lineOf offset = second.lineOf other) :
      Node.SameLines first second (.alias offset) (.alias other)
  | sequence {offset other : Nat} (line : first.lineOf offset = second.lineOf other)
      {items others : List Node} (same : List.Forall₂ (Node.SameLines first second) items others) :
      Node.SameLines first second (.sequence offset items) (.sequence other others)
  | mapping {offset other : Nat} (line : first.lineOf offset = second.lineOf other)
      {entries others : List (Node × Node)}
      (same : List.Forall₂ (Node.SameLinesEntry first second) entries others) :
      Node.SameLines first second (.mapping offset entries) (.mapping other others)

/-- The keys and the values of two entries have the same shapes and stand on the same lines. -/
inductive Node.SameLinesEntry (first second : LineIndex) : Node × Node → Node × Node → Prop
  | entry {key otherKey value otherValue : Node}
      (keys : Node.SameLines first second key otherKey)
      (values : Node.SameLines first second value otherValue) :
      Node.SameLinesEntry first second (key, value) (otherKey, otherValue)

end

variable {first second : LineIndex}

namespace Node.SameLines

variable {node other : Node}

theorem lineOf_offset (same : node.SameLines first second other) :
    first.lineOf node.offset = second.lineOf other.offset := by
  cases same <;> assumption

theorem scalarText?_eq (same : node.SameLines first second other) :
    node.scalarText? = other.scalarText? := by
  cases same <;> rfl

theorem isMapping_eq (same : node.SameLines first second other) :
    node.isMapping = other.isMapping := by
  cases same <;> rfl

theorem entries_forall₂ (same : node.SameLines first second other) :
    List.Forall₂ (SameLinesEntry first second) node.entries other.entries := by
  cases same with
  | mapping line same => exact same
  | _ => exact .nil

theorem items_forall₂ (same : node.SameLines first second other) :
    List.Forall₂ (SameLines first second) node.items other.items := by
  cases same with
  | sequence line same => exact same
  | _ => exact .nil

end Node.SameLines

namespace Node.SameLinesEntry

variable {entry other : Node × Node}

theorem key (same : SameLinesEntry first second entry other) :
    entry.1.SameLines first second other.1 := by
  obtain ⟨keys, -⟩ := same
  exact keys

theorem value (same : SameLinesEntry first second entry other) :
    entry.2.SameLines first second other.2 := by
  obtain ⟨-, values⟩ := same
  exact values

end Node.SameLinesEntry

namespace Node.SameLines

variable {node other : Node}

/-- Looking up a key finds entries on the same lines. -/
theorem lookup?_rel (same : node.SameLines first second other) (key : String) :
    Option.Rel (SameLinesEntry first second) (node.lookup? key) (other.lookup? key) := by
  have related := same.entries_forall₂
  unfold lookup?
  generalize node.entries = entries, other.entries = others at related
  induction related with
  | nil => exact .none
  | @cons _ otherFirst _ _ entry _ ih =>
      simp only [List.find?_cons, entry.key.scalarText?_eq]
      cases otherFirst.1.scalarText? == some key with
      | true => exact .some entry
      | false => exact ih

/-- Looking up a key finds values on the same lines. -/
theorem get?_rel (same : node.SameLines first second other) (key : String) :
    Option.Rel (SameLines first second) (node.get? key) (other.get? key) := by
  have found := same.lookup?_rel key
  unfold get?
  generalize node.lookup? key = entry, other.lookup? key = otherEntry at found
  cases found with
  | none => exact .none
  | some entry => exact .some entry.value

end Node.SameLines

/-! ## Builders -/

/-- Two open collections have the same parts so far, which stand on the same lines. -/
inductive OpenNode.SameLines (first second : LineIndex) : OpenNode → OpenNode → Prop
  | sequence {offset other : Nat} (line : first.lineOf offset = second.lineOf other)
      {items others : List Node} (same : List.Forall₂ (Node.SameLines first second) items others) :
      OpenNode.SameLines first second (.sequence offset items) (.sequence other others)
  | mapping {offset other : Nat} (line : first.lineOf offset = second.lineOf other)
      {entries others : List (Node × Node)} {key otherKey : Option Node}
      (same : List.Forall₂ (Node.SameLinesEntry first second) entries others)
      (keys : Option.Rel (Node.SameLines first second) key otherKey) :
      OpenNode.SameLines first second (.mapping offset entries key) (.mapping other others otherKey)

namespace Yaml.MarkedEvent

/-- Two events happen alike on the same lines of two texts. -/
structure SameLine (first second : LineIndex) (marked other : MarkedEvent) : Prop where
  event_eq : marked.event = other.event
  line_eq : first.lineOf (Builder.offsetOf first marked.mark) =
    second.lineOf (Builder.offsetOf second other.mark)

end Yaml.MarkedEvent

namespace Builder

/-- Two builders have built the same, on the same lines. -/
structure SameLines (first second : LineIndex) (builder other : Builder) : Prop where
  stack : List.Forall₂ (OpenNode.SameLines first second) builder.stack other.stack
  root : Option.Rel (Node.SameLines first second) builder.root other.root
  fault : builder.fault = other.fault

namespace SameLines

variable {builder other : Builder}

theorem complete {node otherNode : Node} (same : builder.SameLines first second other)
    (nodes : node.SameLines first second otherNode) :
    (builder.complete node).SameLines first second (other.complete otherNode) := by
  obtain ⟨stack, root, fault⟩ := builder
  obtain ⟨otherStack, otherRoot, otherFault⟩ := other
  obtain ⟨stackSame, rootSame, faultSame⟩ := same
  cases stackSame with
  | nil =>
      refine ⟨.nil, ?_, faultSame⟩
      cases rootSame with
      | none => exact .some nodes
      | some rootSame => exact .some rootSame
  | cons opened outer =>
      cases opened with
      | sequence line items =>
          exact ⟨.cons (.sequence line (.cons nodes items)) outer, rootSame, faultSame⟩
      | mapping line entries keys =>
          cases keys with
          | none =>
              exact ⟨.cons (.mapping line entries (.some nodes)) outer, rootSame, faultSame⟩
          | some keys =>
              exact ⟨.cons (.mapping line (.cons (.entry keys nodes) entries) .none) outer,
                rootSame, faultSame⟩

theorem start {opened otherOpened : OpenNode} (same : builder.SameLines first second other)
    (collections : opened.SameLines first second otherOpened) :
    (builder.start opened).SameLines first second (other.start otherOpened) :=
  ⟨.cons collections same.stack, same.root, same.fault⟩

theorem fail (same : builder.SameLines first second other) (cause : Cause) :
    (builder.fail cause).SameLines first second (other.fail cause) := by
  refine ⟨?_, same.root, congrArg (·.or (some cause)) same.fault⟩
  have stackSame := same.stack
  unfold Builder.fail
  generalize builder.stack = stack, other.stack = otherStack at stackSame
  cases stackSame with
  | nil => exact .nil
  | cons opened outer => exact outer

theorem endSequence (same : builder.SameLines first second other) :
    builder.endSequence.SameLines first second other.endSequence := by
  have failed := same.fail .unmatchedSequenceEnd
  obtain ⟨stack, root, fault⟩ := builder
  obtain ⟨otherStack, otherRoot, otherFault⟩ := other
  obtain ⟨stackSame, rootSame, faultSame⟩ := same
  cases stackSame with
  | nil => exact failed
  | cons opened outer =>
      cases opened with
      | sequence line items =>
          have rest : SameLines first second ⟨_, root, fault⟩ ⟨_, otherRoot, otherFault⟩ :=
            ⟨outer, rootSame, faultSame⟩
          exact rest.complete (.sequence line (List.rel_reverse items))
      | mapping line entries keys => exact failed

theorem endMapping (same : builder.SameLines first second other) :
    builder.endMapping.SameLines first second other.endMapping := by
  have unmatched := same.fail .unmatchedMappingEnd
  have pending := same.fail .keyWithoutValue
  obtain ⟨stack, root, fault⟩ := builder
  obtain ⟨otherStack, otherRoot, otherFault⟩ := other
  obtain ⟨stackSame, rootSame, faultSame⟩ := same
  cases stackSame with
  | nil => exact unmatched
  | cons opened outer =>
      cases opened with
      | sequence line items => exact unmatched
      | mapping line entries keys =>
          cases keys with
          | none =>
              have rest : SameLines first second ⟨_, root, fault⟩ ⟨_, otherRoot, otherFault⟩ :=
                ⟨outer, rootSame, faultSame⟩
              exact rest.complete (.mapping line (List.rel_reverse entries))
          | some keys => exact pending

/-- Taking in the same event on the same line keeps what two builders have built the same. -/
theorem take (same : builder.SameLines first second other) {marked otherMarked : MarkedEvent}
    (events : marked.SameLine first second otherMarked) :
    (builder.take first marked).SameLines first second (other.take second otherMarked) := by
  obtain ⟨event, mark⟩ := marked
  obtain ⟨otherEvent, otherMark⟩ := otherMarked
  obtain ⟨eventEq, line⟩ := events
  replace eventEq : event = otherEvent := eventEq
  subst eventEq
  cases event with
  | scalar properties plain text => exact same.complete (.scalar line _)
  | «alias» name => exact same.complete (.reference line)
  | sequenceStart properties => exact same.start (.sequence line .nil)
  | mappingStart properties => exact same.start (.mapping line .nil .none)
  | sequenceEnd => exact same.endSequence
  | mappingEnd => exact same.endMapping
  | _ => exact same

/-- Taking in the same events on the same lines keeps what two builders have built the same. -/
theorem takeAll (same : builder.SameLines first second other) {events others : List MarkedEvent}
    (alike : List.Forall₂ (MarkedEvent.SameLine first second) events others) :
    (builder.takeAll first events).SameLines first second (other.takeAll second others) := by
  induction alike generalizing builder other with
  | nil => exact same
  | cons event _ ih => exact ih (same.take event)

end SameLines

theorem sameLines_initial : initial.SameLines first second initial :=
  ⟨.nil, .none, rfl⟩

/-- The same events on the same lines of two texts build nodes that report the same lines, or fail
for the same cause. -/
theorem run_rel {events others : List MarkedEvent}
    (alike : List.Forall₂ (MarkedEvent.SameLine first second) events others) :
    Except.Rel (Node.SameLines first second) (run first events) (run second others) := by
  have taken := sameLines_initial.takeAll alike
  unfold run
  generalize initial.takeAll first events = builder, initial.takeAll second others = other at taken
  obtain ⟨stack, root, fault⟩ := builder
  obtain ⟨otherStack, otherRoot, otherFault⟩ := other
  obtain ⟨-, rootSame, faultSame⟩ := taken
  replace faultSame : fault = otherFault := faultSame
  subst faultSame
  cases fault with
  | some cause => exact .error cause
  | none =>
      cases rootSame with
      | none => exact .error Cause.noDocument
      | some rootSame => exact .ok rootSame

end Builder

end RunAtlas
