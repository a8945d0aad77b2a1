import Mathlib.Data.List.Perm.Basic
import RunAtlas.Proofs.Definition.Plans

/-!
# Keys and their order

Of a mapping with distinct plain names no entry is lost: the entries that have a field are read into
it, and all others are kept as extra ones, unchanged and in order.  Where an entry stands decides
nothing but where it stands among the extra ones.
-/

namespace RunAtlas

open Yaml

namespace Decode

section Order

variable {pairs other : Extra}

/-- Which value stands under a name does not depend on the order of the entries. -/
theorem valueUnder_perm (distinct : (pairs.map Prod.fst).Nodup) (reordered : other.Perm pairs) :
    valueUnder other = valueUnder pairs := by
  have distinctToo : (other.map Prod.fst).Nodup := (reordered.map Prod.fst).nodup_iff.mpr distinct
  funext name
  by_cases known : name ∈ pairs.map Prod.fst
  · rcases List.mem_map.mp known with ⟨⟨_, value⟩, member, rfl⟩
    have memberToo := reordered.mem_iff.mpr member
    rw [valueUnder_of_mem distinct member, valueUnder_of_mem distinctToo memberToo]
  · have unknownToo : name ∉ other.map Prod.fst :=
      fun member => known ((reordered.map Prod.fst).mem_iff.mp member)
    rw [valueUnder_eq_none known, valueUnder_eq_none unknownToo]

theorem others_perm (known : List String) (reordered : other.Perm pairs) :
    (others known other).Perm (others known pairs) :=
  reordered.filter _

/-- Entries in another order can be kept if they could be kept in the first one. -/
theorem KeepsOthers.perm {known : List String} {extra : Extra}
    (kept : KeepsOthers known pairs extra) (reordered : other.Perm pairs) :
    KeepsOthers known other (others known other) where
  extra_eq := rfl
  untagged := by
    intro entry member
    apply kept.untagged entry
    rw [kept.extra_eq]
    exact (others_perm known reordered).mem_iff.mp member

end Order

/-- A kind of definition keeps the entries of every mapping with distinct plain names: its fields
are the readings of the values under their names, its extra entries are the others in order, and
from the same entries in another order the same is read, but for the order of its extra entries. -/
structure KeepsKeys {ρ : Type} (decode : Extra → Except Mismatch ρ) (fieldNames : List String)
    (HasFields : (String → Option Value) → ρ → Prop) (extra : ρ → Extra)
    (withExtra : ρ → Extra → ρ) : Prop where
  fields : ∀ {pairs : Extra} {record : ρ}, (pairs.map Prod.fst).Nodup →
    decode pairs = .ok record → HasFields (valueUnder pairs) record
  extra_eq : ∀ {pairs : Extra} {record : ρ}, (pairs.map Prod.fst).Nodup →
    decode pairs = .ok record → extra record = others fieldNames pairs
  decodes_iff : ∀ {pairs other : Extra}, (pairs.map Prod.fst).Nodup → other.Perm pairs →
    ((∃ record, decode other = .ok record) ↔ ∃ record, decode pairs = .ok record)
  reordered : ∀ {pairs other : Extra} {record : ρ}, (pairs.map Prod.fst).Nodup →
    other.Perm pairs → decode pairs = .ok record →
      (others fieldNames other).Perm (extra record) ∧
        decode other = .ok (withExtra record (others fieldNames other))

/-- A kind of definition is read from entries with distinct names exactly if its fields are the
readings of the values under their names and its extra entries are the others, and the extra entries
can be changed alone. -/
structure ReadsEntries {ρ : Type} (decode : Extra → Except Mismatch ρ) (fieldNames : List String)
    (HasFields : (String → Option Value) → ρ → Prop) (extra : ρ → Extra)
    (withExtra : ρ → Extra → ρ) : Prop where
  decode_eq_ok_iff : ∀ {pairs : Extra} {record : ρ}, (pairs.map Prod.fst).Nodup →
    (decode pairs = .ok record ↔
      HasFields (valueUnder pairs) record ∧ KeepsOthers fieldNames pairs (extra record))
  hasFields_withExtra : ∀ {valueOf : String → Option Value} {record : ρ} (other : Extra),
    HasFields valueOf record → HasFields valueOf (withExtra record other)
  extra_withExtra : ∀ (record : ρ) (other : Extra), extra (withExtra record other) = other

namespace ReadsEntries

variable {ρ : Type} {decode : Extra → Except Mismatch ρ} {fieldNames : List String}
  {HasFields : (String → Option Value) → ρ → Prop} {extra : ρ → Extra}
  {withExtra : ρ → Extra → ρ}
variable (reads : ReadsEntries decode fieldNames HasFields extra withExtra)
include reads

/-- What is read from entries in another order. -/
theorem decode_perm {pairs other : Extra} {record : ρ} (distinct : (pairs.map Prod.fst).Nodup)
    (reordered : other.Perm pairs) (decoded : decode pairs = .ok record) :
    decode other = .ok (withExtra record (others fieldNames other)) := by
  have distinctToo : (other.map Prod.fst).Nodup := (reordered.map Prod.fst).nodup_iff.mpr distinct
  rcases (reads.decode_eq_ok_iff distinct).mp decoded with ⟨fields, kept⟩
  rw [reads.decode_eq_ok_iff distinctToo, valueUnder_perm distinct reordered, reads.extra_withExtra]
  constructor
  · exact reads.hasFields_withExtra _ fields
  · exact kept.perm reordered

theorem keepsKeys : KeepsKeys decode fieldNames HasFields extra withExtra where
  fields distinct decoded := ((reads.decode_eq_ok_iff distinct).mp decoded).1
  extra_eq distinct decoded := ((reads.decode_eq_ok_iff distinct).mp decoded).2.extra_eq
  decodes_iff := by
    intro pairs other distinct reordered
    constructor
    · rintro ⟨record, decoded⟩
      have distinctToo := (reordered.map Prod.fst).nodup_iff.mpr distinct
      exact ⟨_, reads.decode_perm distinctToo reordered.symm decoded⟩
    · rintro ⟨record, decoded⟩
      exact ⟨_, reads.decode_perm distinct reordered decoded⟩
  reordered := by
    intro pairs other record distinct reordered decoded
    constructor
    · rw [((reads.decode_eq_ok_iff distinct).mp decoded).2.extra_eq]
      exact others_perm fieldNames reordered
    · exact reads.decode_perm distinct reordered decoded

end ReadsEntries

end Decode

open Decode

theorem WorkflowDefinition.readsEntries :
    ReadsEntries (fun pairs => WorkflowDefinition.decode (Encode.entries pairs))
      WorkflowDefinition.fieldNames (fun valueOf workflow => workflow.HasFields valueOf)
      (·.extra) (fun workflow extra => { workflow with extra := extra }) where
  decode_eq_ok_iff := WorkflowDefinition.decode_eq_ok_iff
  hasFields_withExtra := by
    rintro _ _ _ ⟨name, triggers, jobs⟩
    exact ⟨name, triggers, jobs⟩
  extra_withExtra _ _ := rfl

theorem JobDefinition.readsEntries :
    ReadsEntries (fun pairs => JobDefinition.decode (.mapping (Encode.entries pairs)))
      JobDefinition.fieldNames (fun valueOf job => job.HasFields valueOf)
      (·.extra) (fun job extra => { job with extra := extra }) where
  decode_eq_ok_iff := JobDefinition.decode_eq_ok_iff
  hasFields_withExtra := by
    rintro _ _ _ ⟨name, runsOn, uses, needs, steps, strategy⟩
    exact ⟨name, runsOn, uses, needs, steps, strategy⟩
  extra_withExtra _ _ := rfl

theorem StrategyDefinition.readsEntries :
    ReadsEntries (fun pairs => StrategyDefinition.decode (.mapping (Encode.entries pairs)))
      StrategyDefinition.fieldNames (fun valueOf strategy => strategy.HasFields valueOf)
      (·.extra) (fun strategy extra => { strategy with extra := extra }) where
  decode_eq_ok_iff := StrategyDefinition.decode_eq_ok_iff
  hasFields_withExtra := by
    rintro _ _ _ ⟨matrix⟩
    exact ⟨matrix⟩
  extra_withExtra _ _ := rfl

theorem StepDefinition.readsEntries :
    ReadsEntries (fun pairs => StepDefinition.decode (.mapping (Encode.entries pairs)))
      StepDefinition.fieldNames (fun valueOf step => step.HasFields valueOf)
      (·.extra) (fun step extra => { step with extra := extra }) where
  decode_eq_ok_iff := StepDefinition.decode_eq_ok_iff
  hasFields_withExtra := by
    rintro _ _ _ ⟨id, name, uses, run, inputs⟩
    exact ⟨id, name, uses, run, inputs⟩
  extra_withExtra _ _ := rfl

theorem CompositeDefinition.readsEntries :
    ReadsEntries (fun pairs => CompositeDefinition.decode (Encode.entries pairs))
      CompositeDefinition.fieldNames (fun valueOf action => action.HasFields valueOf)
      (·.extra) (fun action extra => { action with extra := extra }) where
  decode_eq_ok_iff := CompositeDefinition.decode_eq_ok_iff
  hasFields_withExtra := by
    rintro _ _ _ ⟨name, description, runs⟩
    exact ⟨name, description, runs⟩
  extra_withExtra _ _ := rfl

theorem RunsDefinition.readsEntries :
    ReadsEntries (fun pairs => RunsDefinition.decode (.mapping (Encode.entries pairs)))
      RunsDefinition.fieldNames (fun valueOf runs => runs.HasFields valueOf)
      (·.extra) (fun runs extra => { runs with extra := extra }) where
  decode_eq_ok_iff := RunsDefinition.decode_eq_ok_iff
  hasFields_withExtra := by
    rintro _ _ _ ⟨engine, steps⟩
    exact ⟨engine, steps⟩
  extra_withExtra _ _ := rfl

/-- Workflows, jobs, strategies, steps, composite actions and their ways to run lose no entry of a
mapping with distinct plain names, and the order of its entries decides nothing but the order of
their extra entries. -/
theorem definitions_keepKeys :
    KeepsKeys (fun pairs => WorkflowDefinition.decode (Encode.entries pairs))
        WorkflowDefinition.fieldNames (fun valueOf workflow => workflow.HasFields valueOf)
        (·.extra) (fun workflow extra => { workflow with extra := extra }) ∧
      KeepsKeys (fun pairs => JobDefinition.decode (.mapping (Encode.entries pairs)))
        JobDefinition.fieldNames (fun valueOf job => job.HasFields valueOf)
        (·.extra) (fun job extra => { job with extra := extra }) ∧
      KeepsKeys (fun pairs => StrategyDefinition.decode (.mapping (Encode.entries pairs)))
        StrategyDefinition.fieldNames (fun valueOf strategy => strategy.HasFields valueOf)
        (·.extra) (fun strategy extra => { strategy with extra := extra }) ∧
      KeepsKeys (fun pairs => StepDefinition.decode (.mapping (Encode.entries pairs)))
        StepDefinition.fieldNames (fun valueOf step => step.HasFields valueOf)
        (·.extra) (fun step extra => { step with extra := extra }) ∧
      KeepsKeys (fun pairs => CompositeDefinition.decode (Encode.entries pairs))
        CompositeDefinition.fieldNames (fun valueOf action => action.HasFields valueOf)
        (·.extra) (fun action extra => { action with extra := extra }) ∧
      KeepsKeys (fun pairs => RunsDefinition.decode (.mapping (Encode.entries pairs)))
        RunsDefinition.fieldNames (fun valueOf runs => runs.HasFields valueOf)
        (·.extra) (fun runs extra => { runs with extra := extra }) :=
  ⟨WorkflowDefinition.readsEntries.keepsKeys, JobDefinition.readsEntries.keepsKeys,
    StrategyDefinition.readsEntries.keepsKeys, StepDefinition.readsEntries.keepsKeys,
    CompositeDefinition.readsEntries.keepsKeys, RunsDefinition.readsEntries.keepsKeys⟩

/-- A step among whose entries two have no field. -/
def shellStepEntries : Extra :=
  [("if", .boolean true), ("run", .string "cargo test"), ("shell", .string "bash"),
    ("id", .number (.integer 7)), ("name", .null)]

/-- The step is read alike when its entries are reversed, with its two extra entries reversed. -/
theorem reordered_shellStepEntries :
    (shellStepEntries.map Prod.fst).Nodup ∧
      shellStepEntries.reverse.Perm shellStepEntries ∧
      StepDefinition.decode (.mapping (Encode.entries shellStepEntries)) =
        .ok ⟨some "7", none, none, some "cargo test", none,
          [("if", .boolean true), ("shell", .string "bash")]⟩ ∧
      StepDefinition.decode (.mapping (Encode.entries shellStepEntries.reverse)) =
        .ok ⟨some "7", none, none, some "cargo test", none,
          [("shell", .string "bash"), ("if", .boolean true)]⟩ := by
  have distinct : (shellStepEntries.map Prod.fst).Nodup := by decide
  have reordered : shellStepEntries.reverse.Perm shellStepEntries := List.reverse_perm _
  have decoded : StepDefinition.decode (.mapping (Encode.entries shellStepEntries)) =
      .ok ⟨some "7", none, none, some "cargo test", none,
        [("if", .boolean true), ("shell", .string "bash")]⟩ := by
    rfl
  obtain ⟨-, -, -, steps, -, -⟩ := definitions_keepKeys
  exact ⟨distinct, reordered, decoded, (steps.reordered distinct reordered decoded).2⟩

end RunAtlas
