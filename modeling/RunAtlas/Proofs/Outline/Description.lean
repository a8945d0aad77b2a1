import Mathlib.Data.List.Forall2
import RunAtlas.Proofs.Definition.Fields
import RunAtlas.Proofs.Model.Pairing

/-!
# Nodes and values of one document

`Describes` says when a node with its places and a value without them are two views of one document.
A scalar may stand for any value that is no collection, since what a scalar is resolved to is not
the concern of an outline; an alias or a tag has no counterpart in the other view.

Looking up a key in both views finds parts that describe one another again, as long as the keys of
the value are plain strings (`rel_get?_valueOf?`).
-/

namespace RunAtlas

open Yaml Decode

mutual

/-- A node and a value are two views of one document. -/
inductive Describes : Node → Value → Prop
  | null (offset : Nat) (text : String) : Describes (.scalar offset text) .null
  | boolean (offset : Nat) (text : String) (value : Bool) :
      Describes (.scalar offset text) (.boolean value)
  | number (offset : Nat) (text : String) (value : Number) :
      Describes (.scalar offset text) (.number value)
  | string (offset : Nat) (text : String) : Describes (.scalar offset text) (.string text)
  | sequence (offset : Nat) {items : List Node} {values : List Value}
      (described : List.Forall₂ Describes items values) :
      Describes (.sequence offset items) (.sequence values)
  | mapping (offset : Nat) {entries : List (Node × Node)} {pairs : List (Value × Value)}
      (distinct : (pairs.map Prod.fst).Nodup)
      (described : List.Forall₂ DescribesEntry entries pairs) :
      Describes (.mapping offset entries) (.mapping pairs)

/-- The keys and the values of two entries are two views of one document each. -/
inductive DescribesEntry : Node × Node → Value × Value → Prop
  | entry {key node : Node} {name value : Value} (describesKey : Describes key name)
      (describesValue : Describes node value) : DescribesEntry (key, node) (name, value)

end

namespace Yaml.Value

/-- The entries of a mapping; no other value has any. -/
def pairs : Value → List (Value × Value)
  | .mapping pairs => pairs
  | _ => []

/-- The items of a sequence; no other value has any. -/
def elements : Value → List Value
  | .sequence elements => elements
  | _ => []

/-- The items of the steps of a job; none if it has no entry for them. -/
def stepElements (job : Value) : List Value :=
  ((job.get? "steps").map elements).getD []

end Yaml.Value

namespace Describes

variable {node : Node} {value : Value}

/-- A value that a node describes has no tag. -/
theorem untag_eq (described : Describes node value) : value.untag = value := by
  cases described <;> rfl

/-- The keys of a value that a node describes are distinct. -/
theorem distinct_pairs (described : Describes node value) :
    (value.pairs.map Prod.fst).Nodup := by
  cases described with
  | mapping offset distinct described => exact distinct
  | _ => exact List.nodup_nil

/-- The entries of both views describe one another. -/
theorem entries_pairs (described : Describes node value) :
    List.Forall₂ DescribesEntry node.entries value.pairs := by
  cases described with
  | mapping offset distinct described => exact described
  | _ => exact .nil

/-- The items of both views describe one another. -/
theorem items_elements (described : Describes node value) :
    List.Forall₂ Describes node.items value.elements := by
  cases described with
  | sequence offset described => exact described
  | _ => exact .nil

/-- A string is described by a scalar of its text. -/
theorem scalarText?_eq {name : String} (described : Describes node (.string name)) :
    node.scalarText? = some name := by
  cases described
  rfl

/-- A node describes no tagged key. -/
theorem untag_key (described : Describes node value) :
    ∀ pair ∈ value.pairs, pair.1.untag = pair.1 := by
  have related := described.entries_pairs
  generalize node.entries = entries, value.pairs = pairs at related
  induction related with
  | nil => simp
  | cons describes _ ih =>
      obtain ⟨describesKey, -⟩ := describes
      exact List.forall_mem_cons.mpr ⟨describesKey.untag_eq, ih⟩

end Describes

/-- Looking up a name in both views finds parts that describe one another. -/
theorem rel_get?_valueOf? (offset : Nat) {entries : List (Node × Node)}
    {pairs : List (Value × Value)} (described : List.Forall₂ DescribesEntry entries pairs)
    (plain : PlainKeys pairs) (name : String) :
    Option.Rel Describes ((Node.mapping offset entries).get? name)
      (Value.valueOf? pairs name) := by
  simp only [Node.get?, Node.lookup?, Node.entries_mapping]
  induction described with
  | nil => exact .none
  | @cons entry pair entries pairs describes _ ih =>
      obtain ⟨⟨key, isKey⟩, plainRest⟩ := List.forall_mem_cons.mp plain
      obtain ⟨describesKey, describesValue⟩ := describes
      obtain rfl := isKey
      rw [valueOf?_cons]
      by_cases same : key = name
      · subst same
        simpa [describesKey.scalarText?_eq] using Option.Rel.some describesValue
      · simpa [describesKey.scalarText?_eq, same] using ih plainRest

end RunAtlas
