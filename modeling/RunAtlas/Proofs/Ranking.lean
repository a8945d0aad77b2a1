import Mathlib.Data.List.Perm.Basic

/-!
# Rules tried in order

Rules are tried one after the other, each over a whole list; the first element that satisfies the
first rule that any element satisfies is found.  The rank of an element is the place of the first
rule that it satisfies.  What is found is the element that comes first among those of least rank,
which `IsBest` says by positions.

The law from which the others follow is `firstByRules_append`: the answer on two lists is the better
of the two answers.
-/

namespace RunAtlas

variable {α : Type}

/-- The first element that satisfies the first rule that any element satisfies. -/
def firstByRules (rules : List (α → Bool)) (elements : List α) : Option α :=
  rules.findSome? fun rule => elements.find? rule

/-- The place of the first rule that an element satisfies, where places are counted from `base`. -/
def rankFrom (base : Nat) : List (α → Bool) → α → Option Nat
  | [], _ => none
  | rule :: rules, element => if rule element then some base else rankFrom (base + 1) rules element

/-- Whether the first element has a better rank than the second.  Both have to have one. -/
def outranks (rank : α → Option Nat) (first second : α) : Bool :=
  match rank first, rank second with
  | some firstRank, some secondRank => firstRank < secondRank
  | _, _ => false

/-- Of two answers the second if it outranks the first or is the only one, and else the first. -/
def preferred (rank : α → Option Nat) : Option α → Option α → Option α
  | some first, some second => if outranks rank second first then some second else some first
  | first, second => first.or second

/-- The element at a position has a rank, and every other element that has one has a worse rank, or
the same rank at a later position. -/
structure IsBest (rank : α → Option Nat) (elements : List α) (position : Nat) (best : α) :
    Prop where
  found : elements[position]? = some best
  least : ∃ bestRank, rank best = some bestRank ∧
    ∀ (other : Nat) (element : α) (otherRank : Nat), elements[other]? = some element →
      rank element = some otherRank →
        bestRank < otherRank ∨ bestRank = otherRank ∧ position ≤ other

/-! ## Ranks -/

theorem rankFrom_cons_of_pos (base : Nat) {rule : α → Bool} (rules : List (α → Bool)) {element : α}
    (satisfied : rule element = true) : rankFrom base (rule :: rules) element = some base := by
  rw [rankFrom, if_pos satisfied]

theorem rankFrom_cons_of_neg (base : Nat) {rule : α → Bool} (rules : List (α → Bool)) {element : α}
    (unsatisfied : ¬ rule element = true) :
    rankFrom base (rule :: rules) element = rankFrom (base + 1) rules element := by
  rw [rankFrom, if_neg unsatisfied]

theorem le_of_rankFrom_eq_some {base rank : Nat} {rules : List (α → Bool)} {element : α}
    (ranked : rankFrom base rules element = some rank) : base ≤ rank := by
  induction rules generalizing base with
  | nil => cases ranked
  | cons rule rules ih =>
      by_cases satisfied : rule element = true
      · rw [rankFrom_cons_of_pos _ _ satisfied] at ranked
        exact Nat.le_of_eq (Option.some.inj ranked)
      · rw [rankFrom_cons_of_neg _ _ satisfied] at ranked
        exact Nat.le_of_succ_le (ih ranked)

/-- The best rank belongs to the first rule. -/
theorem rankFrom_cons_eq_base_iff {base : Nat} {rule : α → Bool} {rules : List (α → Bool)}
    {element : α} :
    rankFrom base (rule :: rules) element = some base ↔ rule element = true := by
  constructor
  · intro ranked
    by_contra unsatisfied
    rw [rankFrom_cons_of_neg _ _ unsatisfied] at ranked
    have later := le_of_rankFrom_eq_some ranked
    omega
  · exact rankFrom_cons_of_pos base rules

/-! ## Answers -/

theorem firstByRules_cons_of_some {rule : α → Bool} {rules : List (α → Bool)} {elements : List α}
    {answer : α} (found : elements.find? rule = some answer) :
    firstByRules (rule :: rules) elements = some answer := by
  rw [firstByRules, List.findSome?_cons, found]

theorem firstByRules_cons_of_none {rule : α → Bool} {rules : List (α → Bool)} {elements : List α}
    (missing : elements.find? rule = none) :
    firstByRules (rule :: rules) elements = firstByRules rules elements := by
  rw [firstByRules, List.findSome?_cons, missing]
  rfl

theorem mem_of_firstByRules {rules : List (α → Bool)} {elements : List α} {answer : α}
    (found : firstByRules rules elements = some answer) : answer ∈ elements := by
  obtain ⟨rule, -, found⟩ := List.exists_of_findSome?_eq_some found
  exact List.mem_of_find?_eq_some found

/-- Nothing is found exactly when no element has a rank. -/
theorem firstByRules_eq_none_iff {rules : List (α → Bool)} {elements : List α} (base : Nat) :
    firstByRules rules elements = none ↔
      ∀ element ∈ elements, rankFrom base rules element = none := by
  induction rules generalizing base with
  | nil => simp [firstByRules, rankFrom]
  | cons rule rules ih =>
      cases found : elements.find? rule with
      | some answer =>
          rw [firstByRules_cons_of_some found]
          have ranked := rankFrom_cons_of_pos base rules
            (List.find?_some found)
          simp only [reduceCtorEq, false_iff]
          intro unranked
          rw [unranked answer (List.mem_of_find?_eq_some found)] at ranked
          contradiction
      | none =>
          rw [firstByRules_cons_of_none found, ih (base + 1)]
          have unsatisfied := List.find?_eq_none.mp found
          refine forall₂_congr fun element member => ?_
          rw [rankFrom_cons_of_neg _ _ (unsatisfied element member)]

/-- What is found comes first among the elements of least rank. -/
theorem exists_isBest_of_firstByRules {rules : List (α → Bool)} {elements : List α} {answer : α}
    (base : Nat) (found : firstByRules rules elements = some answer) :
    ∃ position, IsBest (rankFrom base rules) elements position answer := by
  induction rules generalizing base with
  | nil => cases found
  | cons rule rules ih =>
      cases hit : elements.find? rule with
      | some first =>
          rw [firstByRules_cons_of_some hit, Option.some.injEq] at found
          subst found
          obtain ⟨satisfied, position, bound, rfl, before⟩ := List.find?_eq_some_iff_getElem.mp hit
          refine ⟨position, List.getElem?_eq_getElem bound, base,
            rankFrom_cons_of_pos _ _ satisfied, ?_⟩
          intro other element otherRank foundOther ranked
          rcases Nat.lt_or_eq_of_le (le_of_rankFrom_eq_some ranked) with worse | rfl
          · exact .inl worse
          · refine .inr ⟨rfl, Nat.le_of_not_lt fun earlier => ?_⟩
            obtain ⟨boundOther, rfl⟩ := List.getElem?_eq_some_iff.mp foundOther
            have unsatisfied := before other earlier
            rw [rankFrom_cons_eq_base_iff.mp ranked] at unsatisfied
            contradiction
      | none =>
          rw [firstByRules_cons_of_none hit] at found
          have unsatisfied := List.find?_eq_none.mp hit
          obtain ⟨position, foundBest, bestRank, ranked, least⟩ := ih (base + 1) found
          refine ⟨position, foundBest, bestRank, ?_, ?_⟩
          · rw [rankFrom_cons_of_neg _ _ (unsatisfied _ (List.mem_of_getElem? foundBest)), ranked]
          · intro other element otherRank foundOther rankedOther
            rw [rankFrom_cons_of_neg _ _ (unsatisfied _ (List.mem_of_getElem? foundOther))]
              at rankedOther
            exact least other element otherRank foundOther rankedOther

/-- Only one position is the best. -/
theorem IsBest.eq {rank : α → Option Nat} {elements : List α} {position other : Nat}
    {best otherBest : α} (isBest : IsBest rank elements position best)
    (otherIsBest : IsBest rank elements other otherBest) : best = otherBest := by
  obtain ⟨found, bestRank, ranked, least⟩ := isBest
  obtain ⟨foundOther, otherRank, rankedOther, leastOther⟩ := otherIsBest
  have notWorse := least _ _ _ foundOther rankedOther
  have notBetter := leastOther _ _ _ found ranked
  have same : position = other := by omega
  subst same
  exact Option.some.inj (found.symm.trans foundOther)

/-- An element is found exactly when it is the best at some position. -/
theorem firstByRules_eq_some_iff {rules : List (α → Bool)} {elements : List α} {answer : α}
    (base : Nat) :
    firstByRules rules elements = some answer ↔
      ∃ position, IsBest (rankFrom base rules) elements position answer := by
  constructor
  · exact exists_isBest_of_firstByRules base
  · rintro ⟨position, isBest⟩
    cases found : firstByRules rules elements with
    | none =>
        obtain ⟨foundBest, bestRank, ranked, -⟩ := isBest
        have unranked := (firstByRules_eq_none_iff base).mp found answer
          (List.mem_of_getElem? foundBest)
        rw [unranked] at ranked
        contradiction
    | some first =>
        obtain ⟨firstPosition, firstIsBest⟩ := exists_isBest_of_firstByRules base found
        rw [firstIsBest.eq isBest]

/-! ## Lists that are joined, thinned out or reordered -/

@[simp]
theorem preferred_none_left (rank : α → Option Nat) (answer : Option α) :
    preferred rank none answer = answer := by
  simp [preferred]

@[simp]
theorem preferred_none_right (rank : α → Option Nat) (answer : Option α) :
    preferred rank answer none = answer := by
  cases answer <;> simp [preferred]

theorem outranks_iff {rank : α → Option Nat} {first second : α} :
    outranks rank first second = true ↔
      ∃ firstRank secondRank, rank first = some firstRank ∧ rank second = some secondRank ∧
        firstRank < secondRank := by
  unfold outranks
  cases rank first <;> cases rank second <;> simp

/-- What is found has a rank. -/
theorem exists_rankFrom_of_firstByRules {rules : List (α → Bool)} {elements : List α} {answer : α}
    (base : Nat) (found : firstByRules rules elements = some answer) :
    ∃ rank, rankFrom base rules answer = some rank := by
  obtain ⟨-, -, rank, ranked, -⟩ := exists_isBest_of_firstByRules base found
  exact ⟨rank, ranked⟩

/-- An answer that satisfies the first rule is outranked by no other. -/
theorem preferred_of_first {base : Nat} {rule : α → Bool} {rules : List (α → Bool)} {first : α}
    (satisfied : rule first = true) (second : Option α) :
    preferred (rankFrom base (rule :: rules)) (some first) second = some first := by
  cases second with
  | none => exact preferred_none_right _ _
  | some second =>
      refine if_neg fun outranked => ?_
      obtain ⟨secondRank, firstRank, rankedSecond, rankedFirst, better⟩ := outranks_iff.mp outranked
      rw [rankFrom_cons_of_pos _ _ satisfied, Option.some.injEq] at rankedFirst
      have notBetter := le_of_rankFrom_eq_some rankedSecond
      omega

/-- An answer that satisfies the first rule outranks one that does not. -/
theorem preferred_of_second {base : Nat} {rule : α → Bool} {rules : List (α → Bool)}
    {front : List α} {second : α} (unsatisfied : ∀ element ∈ front, ¬ rule element = true)
    (satisfied : rule second = true) :
    preferred (rankFrom base (rule :: rules)) (firstByRules rules front) (some second) =
      some second := by
  cases found : firstByRules rules front with
  | none => exact preferred_none_left _ _
  | some first =>
      obtain ⟨rank, ranked⟩ := exists_rankFrom_of_firstByRules (base + 1) found
      refine if_pos (outranks_iff.mpr ⟨base, rank, rankFrom_cons_of_pos _ _ satisfied, ?_, ?_⟩)
      · rw [rankFrom_cons_of_neg _ _ (unsatisfied first (mem_of_firstByRules found)), ranked]
      · exact le_of_rankFrom_eq_some ranked

/-- Answers that do not satisfy the first rule are compared by the others. -/
theorem preferred_of_others {base : Nat} {rule : α → Bool} {rules : List (α → Bool)}
    {front back : List α} (unsatisfiedFront : ∀ element ∈ front, ¬ rule element = true)
    (unsatisfiedBack : ∀ element ∈ back, ¬ rule element = true) :
    preferred (rankFrom base (rule :: rules)) (firstByRules rules front)
        (firstByRules rules back) =
      preferred (rankFrom (base + 1) rules) (firstByRules rules front)
        (firstByRules rules back) := by
  cases foundFront : firstByRules rules front with
  | none => simp
  | some first =>
      cases foundBack : firstByRules rules back with
      | none => simp
      | some second =>
          have firstRank := rankFrom_cons_of_neg base rules
            (unsatisfiedFront first (mem_of_firstByRules foundFront))
          have secondRank := rankFrom_cons_of_neg base rules
            (unsatisfiedBack second (mem_of_firstByRules foundBack))
          have compared : outranks (rankFrom base (rule :: rules)) second first =
              outranks (rankFrom (base + 1) rules) second first := by
            rw [outranks, outranks, firstRank, secondRank]
          simp only [preferred, compared]

/-- The answer on two lists is the better of the two answers. -/
theorem firstByRules_append (base : Nat) (rules : List (α → Bool)) (front back : List α) :
    firstByRules rules (front ++ back) =
      preferred (rankFrom base rules) (firstByRules rules front) (firstByRules rules back) := by
  induction rules generalizing base with
  | nil => rfl
  | cons rule rules ih =>
      cases hitFront : front.find? rule with
      | some first =>
          rw [firstByRules_cons_of_some hitFront, preferred_of_first (List.find?_some hitFront)]
          exact firstByRules_cons_of_some (by rw [List.find?_append, hitFront]; rfl)
      | none =>
          have unsatisfiedFront := List.find?_eq_none.mp hitFront
          rw [firstByRules_cons_of_none hitFront]
          cases hitBack : back.find? rule with
          | some second =>
              rw [firstByRules_cons_of_some hitBack,
                preferred_of_second unsatisfiedFront (List.find?_some hitBack)]
              exact firstByRules_cons_of_some (by rw [List.find?_append, hitFront, hitBack]; rfl)
          | none =>
              have unsatisfiedBack := List.find?_eq_none.mp hitBack
              rw [firstByRules_cons_of_none hitBack,
                preferred_of_others unsatisfiedFront unsatisfiedBack, ← ih (base + 1)]
              exact firstByRules_cons_of_none (by rw [List.find?_append, hitFront, hitBack]; rfl)

/-- An element without a rank can be deleted. -/
theorem firstByRules_delete (base : Nat) {rules : List (α → Bool)} {element : α}
    (unranked : rankFrom base rules element = none) (front back : List α) :
    firstByRules rules (front ++ element :: back) = firstByRules rules (front ++ back) := by
  have nothing : firstByRules rules [element] = none :=
    (firstByRules_eq_none_iff base).mpr (by simpa using unranked)
  rw [← List.singleton_append, firstByRules_append base rules front,
    firstByRules_append base rules [element], nothing, preferred_none_left,
    ← firstByRules_append base rules front]

/-- Only elements with a rank matter, and their order. -/
theorem firstByRules_filter (base : Nat) (rules : List (α → Bool)) (elements : List α) :
    firstByRules rules (elements.filter fun element => (rankFrom base rules element).isSome) =
      firstByRules rules elements := by
  induction elements with
  | nil => rfl
  | cons element elements ih =>
      cases ranked : rankFrom base rules element with
      | none =>
          rw [List.filter_cons_of_neg (by simp [ranked]), ih]
          exact (firstByRules_delete base ranked [] elements).symm
      | some rank =>
          rw [List.filter_cons_of_pos (by simp [ranked]), ← List.singleton_append,
            firstByRules_append base rules [element], ih,
            ← firstByRules_append base rules [element], List.singleton_append]

/-- No element has a better rank than the one that is found. -/
theorem rank_le_of_firstByRules {base rank : Nat} {rules : List (α → Bool)} {elements : List α}
    {answer element : α} (found : firstByRules rules elements = some answer)
    (member : element ∈ elements) (ranked : rankFrom base rules element = some rank) :
    ∃ bestRank, rankFrom base rules answer = some bestRank ∧ bestRank ≤ rank := by
  obtain ⟨position, -, bestRank, rankedBest, least⟩ := exists_isBest_of_firstByRules base found
  obtain ⟨other, foundOther⟩ := List.mem_iff_getElem?.mp member
  refine ⟨bestRank, rankedBest, ?_⟩
  rcases least other element rank foundOther ranked with better | ⟨rfl, -⟩
  · exact Nat.le_of_lt better
  · exact Nat.le_refl _

/-- In another order, an element of the same rank is found. -/
theorem rank_firstByRules_of_perm (base : Nat) {rules : List (α → Bool)} {elements others : List α}
    (reordered : elements.Perm others) :
    (firstByRules rules others).map (rankFrom base rules) =
      (firstByRules rules elements).map (rankFrom base rules) := by
  cases found : firstByRules rules elements with
  | none =>
      have unranked := (firstByRules_eq_none_iff base).mp found
      have nothing : firstByRules rules others = none :=
        (firstByRules_eq_none_iff base).mpr fun element member =>
          unranked element (reordered.mem_iff.mpr member)
      rw [nothing]
  | some answer =>
      obtain ⟨rank, ranked⟩ := exists_rankFrom_of_firstByRules base found
      have memberOthers := reordered.mem_iff.mp (mem_of_firstByRules found)
      cases foundOther : firstByRules rules others with
      | none =>
          rw [(firstByRules_eq_none_iff base).mp foundOther answer memberOthers] at ranked
          contradiction
      | some other =>
          have memberElements := reordered.mem_iff.mpr (mem_of_firstByRules foundOther)
          obtain ⟨otherRank, rankedOther, notWorse⟩ :=
            rank_le_of_firstByRules foundOther memberOthers ranked
          obtain ⟨sameRank, rankedSame, notBetter⟩ :=
            rank_le_of_firstByRules found memberElements rankedOther
          rw [ranked, Option.some.injEq] at rankedSame
          have equal : otherRank = rank := by omega
          rw [Option.map_some, Option.map_some, rankedOther, ranked, equal]

end RunAtlas
