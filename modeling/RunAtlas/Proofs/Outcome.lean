/-!
# Outcomes of chained computations

A computation that is chained to another one succeeds exactly when both do, and fails exactly when
one of them does, the first one before the second.

Two outcomes are related when both fail alike or both succeed with related results.
-/

namespace Except

variable {ε α β γ : Type}

theorem bind_eq_ok_iff {first : Except ε α} {next : α → Except ε β} {result : β} :
    (first >>= next) = .ok result ↔ ∃ value, first = .ok value ∧ next value = .ok result := by
  cases first with
  | ok value => simp [bind, Except.bind]
  | error failure => simp [bind, Except.bind]

theorem bind_eq_error_iff {first : Except ε α} {next : α → Except ε β} {failure : ε} :
    (first >>= next) = .error failure ↔
      first = .error failure ∨ ∃ value, first = .ok value ∧ next value = .error failure := by
  cases first with
  | ok value => simp [bind, Except.bind]
  | error failure => simp [bind, Except.bind]

theorem pure_eq_ok_iff {value result : α} :
    (pure value : Except ε α) = .ok result ↔ value = result := by
  simp [pure, Except.pure]

theorem map_eq_ok_iff {outcome : Except ε α} {change : α → β} {result : β} :
    outcome.map change = .ok result ↔ ∃ value, outcome = .ok value ∧ change value = result := by
  cases outcome <;> simp [Except.map]

/-- A computation of which a report is known has succeeded with a result that reports so. -/
theorem exists_of_map_toOption {outcome : Except ε α} {report : α → β} {reported : β}
    (known : outcome.toOption.map report = some reported) :
    ∃ result, outcome = .ok result ∧ report result = reported := by
  cases outcome with
  | ok result => exact ⟨result, rfl, Option.some.inj known⟩
  | error failure => cases known

/-- A computation without a result has failed. -/
theorem exists_of_isNone_toOption {outcome : Except ε α}
    (fails : outcome.toOption.isNone = true) : ∃ failure, outcome = .error failure := by
  cases outcome with
  | ok result => cases fails
  | error failure => exact ⟨failure, rfl⟩

/-- Both outcomes fail alike or succeed with related results. -/
inductive Rel (related : α → β → Prop) : Except ε α → Except ε β → Prop
  | ok {first : α} {second : β} (results : related first second) :
      Rel related (.ok first) (.ok second)
  | error (failure : ε) : Rel related (.error failure) (.error failure)

/-- An outcome is related to itself if all results are. -/
theorem Rel.refl {related : α → α → Prop} (reflexive : ∀ result, related result result)
    (outcome : Except ε α) : Rel related outcome outcome := by
  cases outcome with
  | ok result => exact .ok (reflexive result)
  | error failure => exact .error failure

/-- Related outcomes stay related once they are chained to computations that keep results
related. -/
theorem Rel.bind {δ : Type} {related : α → β → Prop} {relatedNext : γ → δ → Prop}
    {first : Except ε α} {second : Except ε β} (outcomes : Rel related first second)
    {next : α → Except ε γ} {other : β → Except ε δ}
    (keep : ∀ {result otherResult}, related result otherResult →
      Rel relatedNext (next result) (other otherResult)) :
    Rel relatedNext (first >>= next) (second >>= other) := by
  cases outcomes with
  | ok results => exact keep results
  | error failure => exact .error failure

/-- Related outcomes end alike once they are chained to computations that agree on related
results. -/
theorem Rel.bind_eq {related : α → β → Prop} {first : Except ε α} {second : Except ε β}
    (outcomes : Rel related first second) {next : α → Except ε γ} {other : β → Except ε γ}
    (agree : ∀ {result otherResult}, related result otherResult →
      next result = other otherResult) :
    (first >>= next) = (second >>= other) := by
  cases outcomes with
  | ok results => exact agree results
  | error failure => rfl

end Except
