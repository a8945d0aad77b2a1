/-!
# Notices

Building a model and resolving names leave notices behind.  A `Traced` result carries the notices
that were left while it was computed, in order.
-/

namespace RunAtlas

/-- The rules by which a job answers to a run-time name, the strongest first. -/
inductive JobRule where
  | exactId
  | declaredName
  | matrixName
deriving Repr, DecidableEq

/-- What is worth telling about a computation. -/
inductive Notice where
  | builtWorkflow (path : String) (jobs : Nat)
  | builtReusableWorkflow (path : String) (jobs : Nat)
  | builtCompositeAction (path : String) (steps : Nat)
  | jobMatched (rule : JobRule) (rawName job : String)
  | noJobMatched (rawName : String)
  | pseudoStep (rawName : String)
  | stepMatched (rawName : String) (line : Nat)
  | noStepMatched (rawName : String)
  | jobNotDefined (workflow job : String)
deriving Repr, DecidableEq

/-- How important a notice is. -/
inductive Level where
  | trace
  | debug
  | warn
deriving Repr, DecidableEq

/-- The value of a field of a notice. -/
inductive NoticeField where
  | text (value : String)
  | count (value : Nat)
deriving Repr, DecidableEq

namespace Level

/-- The name of a level. -/
def label : Level → String
  | .trace => "TRACE"
  | .debug => "DEBUG"
  | .warn => "WARN"

end Level

namespace Notice

/-- The level of a notice. -/
def level : Notice → Level
  | .builtWorkflow _ _ | .builtReusableWorkflow _ _ | .builtCompositeAction _ _ => .debug
  | .jobNotDefined _ _ => .warn
  | _ => .trace

/-- The message of a notice. -/
def message : Notice → String
  | .builtWorkflow _ _ => "built workflow model"
  | .builtReusableWorkflow _ _ => "built reusable workflow model"
  | .builtCompositeAction _ _ => "built composite action model"
  | .jobMatched .exactId _ _ => "job matched by id"
  | .jobMatched .declaredName _ _ => "job matched by name"
  | .jobMatched .matrixName _ _ => "job matched by matrix name"
  | .noJobMatched _ => "no job matched"
  | .pseudoStep _ => "pseudo-step has no definition"
  | .stepMatched _ _ => "step matched"
  | .noStepMatched _ => "no step matched"
  | .jobNotDefined _ _ => "job not defined in workflow"

/-- The fields of a notice. -/
def fields : Notice → List (String × NoticeField)
  | .builtWorkflow path jobs | .builtReusableWorkflow path jobs =>
      [("path", .text path), ("jobs", .count jobs)]
  | .builtCompositeAction path steps => [("path", .text path), ("steps", .count steps)]
  | .jobMatched _ rawName job => [("raw_name", .text rawName), ("job", .text job)]
  | .noJobMatched rawName | .pseudoStep rawName | .noStepMatched rawName =>
      [("raw_name", .text rawName)]
  | .stepMatched rawName line => [("raw_name", .text rawName), ("line", .count line)]
  | .jobNotDefined workflow job => [("workflow", .text workflow), ("job", .text job)]

end Notice

/-- A result and the notices left while it was computed. -/
structure Traced (α : Type) where
  value : α
  notices : List Notice

namespace Traced

instance : Monad Traced where
  pure value := ⟨value, []⟩
  bind first next :=
    let second := next first.value
    ⟨second.value, first.notices ++ second.notices⟩

/-- Leave one notice. -/
def leave (notice : Notice) : Traced Unit :=
  ⟨(), [notice]⟩

/-- Compute a result for every element of a list, in order. -/
def forEach {α β : Type} (compute : α → Traced β) : List α → Traced (List β)
  | [] => pure []
  | first :: rest => do
      let result ← compute first
      let results ← forEach compute rest
      pure (result :: results)

@[simp]
theorem value_pure {α : Type} (value : α) : (pure value : Traced α).value = value :=
  rfl

@[simp]
theorem notices_pure {α : Type} (value : α) : (pure value : Traced α).notices = [] :=
  rfl

@[simp]
theorem value_bind {α β : Type} (first : Traced α) (next : α → Traced β) :
    (first >>= next).value = (next first.value).value :=
  rfl

@[simp]
theorem notices_bind {α β : Type} (first : Traced α) (next : α → Traced β) :
    (first >>= next).notices = first.notices ++ (next first.value).notices :=
  rfl

/-- The results for a list are those for its elements. -/
theorem value_forEach {α β : Type} (compute : α → Traced β) (elements : List α) :
    (forEach compute elements).value = elements.map fun element => (compute element).value := by
  induction elements with
  | nil => rfl
  | cons first rest ih => simp [forEach, ih]

/-- Where each element leaves one notice, a list leaves as many. -/
theorem forEach_eq {α β : Type} {compute : α → Traced β} {result : α → β} {notice : α → Notice}
    (each : ∀ element, compute element = ⟨result element, [notice element]⟩)
    (elements : List α) :
    forEach compute elements = ⟨elements.map result, elements.map notice⟩ := by
  induction elements with
  | nil => rfl
  | cons first rest ih => simp [forEach, each, ih, bind, pure]

end Traced

end RunAtlas
