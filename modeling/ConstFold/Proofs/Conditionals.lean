import ConstFold.Proofs.Unrolling

/-!
# Conditionals nested

A conditional of many branches and the nest of conditionals of one branch each, every one the
alternative of the one before it, mean the same.  The flat one tries its conditions in a row.
The nest has to go one level deeper for every condition that fails: there it takes a step for
the condition of the alternative, which always holds, and one for the conditional that is the
alternative.  So it is dearer by two steps for each condition that was tried in vain.

## Main definitions

* `Node.cascade` — the nest.
* `Selects` — branches of which the conditions are tried up to a number.

## Main results

* `evaluates_const_iff`, `evaluates_ifElse_iff` — the meaning of a constant, and that of the
  everyday conditional in terms of its parts.
* `evaluates_choose_iff`, `Selects.evaluates_cascade`, `exists_selects_of_cascade` — what the flat
  conditional and the nest do is what its branches select.
* `choose_cascade` — **a conditional and its nest agree, up to two steps for each condition tried
  in vain.**
-/

namespace ConstFold

open Run

/-- The conditionals of the branches, each the alternative of the one before it. -/
def Node.cascade : Node × Node → List (Node × Node) → Node
  | (q, r), [] => .ifThen q r
  | (q, r), b :: rest => .ifElse q r (cascade b rest)

section Meanings

variable {program : Program} {operators : OperatorTable} {f f' : Frame} {o : Outcome} {k d : Nat}

/-! ### Everyday forms -/

/-- A constant is its value, after one step. -/
theorem evaluates_const_iff {c : Constant} :
    Evaluates program operators (.node (.const c)) f o f' k d ↔
      o = plain c.value ∧ f' = f ∧ k = 1 ∧ d = 1 := by
  constructor
  · intro h
    obtain ⟨⟨⟩⟩ := evaluates_node_iff.1 h
    exact ⟨rfl, rfl, rfl, rfl⟩
  · rintro ⟨rfl, rfl, rfl, rfl⟩
    exact .node .const

/-- An alternative is what stands under the constant `true`, which is a step by itself. -/
theorem evaluates_alternative_iff {r : Node} :
    Evaluates program operators (.branches [(.bool true, r)]) f o f' k d ↔
      ∃ kr, Evaluates program operators (.node r) f o f' kr d ∧ k = kr + 1 := by
  constructor
  · intro h
    cases h with
    | branches_taken hq _ hr =>
      obtain ⟨-, rfl, rfl, rfl⟩ := evaluates_const_iff.1 hq
      rw [Nat.max_eq_right hr.nesting_pos]
      exact ⟨_, hr, Nat.add_comm _ _⟩
    | branches_passed hq ht _ =>
      obtain ⟨rfl, -, -, -⟩ := evaluates_const_iff.1 hq
      cases ht
    | branches_interrupted hq ht =>
      obtain ⟨rfl, -, -, -⟩ := evaluates_const_iff.1 hq
      cases ht
  · rintro ⟨kr, hr, rfl⟩
    have htrue : Evaluates program operators (.node (.bool true)) f (.ok (.bool true)) f 1 1 :=
      evaluates_const_iff.2 ⟨rfl, rfl, rfl, rfl⟩
    have h : Evaluates program operators (.branches [(.bool true, r)]) f o f' _ _ :=
      .branches_taken htrue rfl hr
    rwa [Nat.max_eq_right hr.nesting_pos, Nat.add_comm] at h

/-- A conditional takes a step and a level more than its branches. -/
theorem evaluates_choose_branches_iff {bs : List (Node × Node)} :
    Evaluates program operators (.node (.choose bs)) f o f' k d ↔
      ∃ kb db, Evaluates program operators (.branches bs) f o f' kb db ∧ k = kb + 1 ∧
        d = db + 1 := by
  constructor
  · intro h
    obtain ⟨hform⟩ := evaluates_node_iff.1 h
    cases hform with
    | choose hbranches => exact ⟨_, _, hbranches, rfl, rfl⟩
  · rintro ⟨kb, db, h, rfl, rfl⟩
    exact .node (.choose h)

/-- A conditional with an alternative is its condition, and then one of the two; the
alternative takes a step more. -/
theorem evaluates_ifElse_iff {q r e : Node} :
    Evaluates program operators (.node (.ifElse q r e)) f o f' k d ↔
      ∃ oq f₁ kq dq, Evaluates program operators (.node q) f oq f₁ kq dq ∧
        ((truth oq = .ok true ∧ ∃ kr dr, Evaluates program operators (.node r) f₁ o f' kr dr ∧
            k = kq + kr + 1 ∧ d = max dq dr + 1) ∨
          (truth oq = .ok false ∧ ∃ ke de, Evaluates program operators (.node e) f₁ o f' ke de ∧
            k = kq + ke + 2 ∧ d = max dq de + 1) ∨
          ∃ i, truth oq = .error i ∧ o = .error i ∧ f' = f₁ ∧ k = kq + 1 ∧ d = dq + 1) := by
  refine evaluates_choose_branches_iff.trans ⟨?_, ?_⟩
  · rintro ⟨kb, db, h, rfl, rfl⟩
    cases h with
    | branches_taken hq ht hr => exact ⟨_, _, _, _, hq, .inl ⟨ht, _, _, hr, rfl, rfl⟩⟩
    | branches_passed hq ht halternative =>
      obtain ⟨ke, he, rfl⟩ := evaluates_alternative_iff.1 halternative
      exact ⟨_, _, _, _, hq, .inr (.inl ⟨ht, _, _, he, by omega, rfl⟩)⟩
    | branches_interrupted hq ht =>
      exact ⟨_, _, _, _, hq, .inr (.inr ⟨_, ht, rfl, rfl, rfl, rfl⟩)⟩
  · rintro ⟨oq, f₁, kq, dq, hq, ⟨ht, kr, dr, hr, rfl, rfl⟩ | ⟨ht, ke, de, he, rfl, rfl⟩ |
      ⟨i, ht, rfl, rfl, rfl, rfl⟩⟩
    · exact ⟨_, _, .branches_taken hq ht hr, rfl, rfl⟩
    · have halternative := evaluates_alternative_iff.2 ⟨ke, he, rfl⟩
      exact ⟨_, _, .branches_passed hq ht halternative, by omega, rfl⟩
    · exact ⟨_, _, .branches_interrupted hq ht, rfl, rfl⟩

end Meanings

/-! ### What branches select -/

/-- Of the branches, the conditions are tried from the first up to the one of number `i`, which
is the last, as it holds, or is interrupted, or no other is left. -/
inductive Selects (program : Program) (operators : OperatorTable) :
    List (Node × Node) → Nat → Meaning Value
  /-- The first condition holds, and its result is evaluated. -/
  | taken {q r bs f f₁ f' o o' k k' d d'} :
      Evaluates program operators (.node q) f o f₁ k d → truth o = .ok true →
      Evaluates program operators (.node r) f₁ o' f' k' d' →
      Selects program operators ((q, r) :: bs) 0 f o' f' (k + k') (max d d')
  /-- The first condition is interrupted, or is no truth value. -/
  | interrupted {q r bs f f' o i k d} :
      Evaluates program operators (.node q) f o f' k d → truth o = .error i →
      Selects program operators ((q, r) :: bs) 0 f (.error i) f' k d
  /-- The only condition fails. -/
  | exhausted {q r f f' o k d} :
      Evaluates program operators (.node q) f o f' k d → truth o = .ok false →
      Selects program operators [(q, r)] 0 f (.ok .unit) f' k d
  /-- The first condition fails, and the others are tried. -/
  | passed {q r bs i f f₁ f' o o' k k' d d'} :
      Evaluates program operators (.node q) f o f₁ k d → truth o = .ok false →
      Selects program operators bs i f₁ o' f' k' d' →
      Selects program operators ((q, r) :: bs) (i + 1) f o' f' (k + k') (max d d')

section Selection

variable {program : Program} {operators : OperatorTable} {f f' : Frame} {o : Outcome}
  {i k d : Nat} {b : Node × Node} {rest : List (Node × Node)}

/-- What branches select is what they do. -/
theorem Selects.evaluates_branches {bs : List (Node × Node)}
    (h : Selects program operators bs i f o f' k d) :
    Evaluates program operators (.branches bs) f o f' k d := by
  induction h with
  | taken hq ht hr => exact .branches_taken hq ht hr
  | interrupted hq ht => exact .branches_interrupted hq ht
  | passed hq ht _ ih => exact .branches_passed hq ht ih
  | @exhausted q r f f' o k d hq ht =>
    have h := Evaluates.branches_passed (r := r) hq ht (.branches_nil (f := f'))
    rwa [Nat.add_zero, Nat.max_zero] at h

/-- Whatever branches do they select. -/
theorem exists_selects_of_branches
    (h : Evaluates program operators (.branches (b :: rest)) f o f' k d) :
    ∃ i, Selects program operators (b :: rest) i f o f' k d := by
  induction rest generalizing b f o f' k d with
  | nil =>
    cases h with
    | branches_taken hq ht hr => exact ⟨0, .taken hq ht hr⟩
    | branches_interrupted hq ht => exact ⟨0, .interrupted hq ht⟩
    | branches_passed hq ht hrest =>
      -- There is no branch left, so that the condition is the last one although it fails.
      cases hrest
      rw [Nat.add_zero, Nat.max_zero]
      exact ⟨0, .exhausted hq ht⟩
  | cons b' rest ih =>
    cases h with
    | branches_taken hq ht hr => exact ⟨0, .taken hq ht hr⟩
    | branches_interrupted hq ht => exact ⟨0, .interrupted hq ht⟩
    | branches_passed hq ht hrest =>
      obtain ⟨i, hselects⟩ := ih hrest
      exact ⟨i + 1, .passed hq ht hselects⟩

/-- The flat conditional takes a step and a level more than what its branches select. -/
theorem evaluates_choose_iff :
    Evaluates program operators (.node (.choose (b :: rest))) f o f' k d ↔
      ∃ i k₀ d₀, Selects program operators (b :: rest) i f o f' k₀ d₀ ∧ k = k₀ + 1 ∧
        d = d₀ + 1 := by
  refine evaluates_choose_branches_iff.trans ⟨?_, ?_⟩
  · rintro ⟨k₀, d₀, h, hk, hd⟩
    obtain ⟨i, hselects⟩ := exists_selects_of_branches h
    exact ⟨i, k₀, d₀, hselects, hk, hd⟩
  · rintro ⟨i, k₀, d₀, h, hk, hd⟩
    exact ⟨k₀, d₀, h.evaluates_branches, hk, hd⟩

/-- Only a condition that there is can be the last. -/
theorem Selects.index_lt {bs : List (Node × Node)}
    (h : Selects program operators bs i f o f' k d) : i < bs.length := by
  induction h with
  | taken | interrupted | exhausted => exact Nat.succ_pos _
  | passed _ _ _ ih => exact Nat.succ_lt_succ ih

/-- What stands after the last condition is not evaluated: it may be anything else. -/
theorem Selects.of_take_eq {bs bs' : List (Node × Node)}
    (h : Selects program operators bs i f o f' k d) (hlength : bs'.length = bs.length)
    (htake : bs'.take (i + 1) = bs.take (i + 1)) :
    Selects program operators bs' i f o f' k d := by
  induction h generalizing bs' with
  | taken hq ht hr =>
    cases bs' with
    | nil => cases hlength
    | cons b bs' =>
      cases htake
      exact .taken hq ht hr
  | interrupted hq ht =>
    cases bs' with
    | nil => cases hlength
    | cons b bs' =>
      cases htake
      exact .interrupted hq ht
  | exhausted hq ht =>
    -- Here the length counts: with more branches there would be a condition to go on to.
    obtain ⟨b, rfl⟩ := List.length_eq_one_iff.1 hlength
    cases htake
    exact .exhausted hq ht
  | passed hq ht _ ih =>
    cases bs' with
    | nil => cases hlength
    | cons b bs' =>
      obtain ⟨rfl, hrest⟩ := List.cons.inj htake
      exact .passed hq ht (ih (Nat.succ.inj hlength) hrest)

/-! ### The nest -/

/-- The nest does what the branches select, with two steps and at most one level more for each
condition that fails before the last. -/
theorem Selects.evaluates_cascade
    (h : Selects program operators (b :: rest) i f o f' k d) :
    ∃ d', Evaluates program operators (.node (.cascade b rest)) f o f' (k + 1 + 2 * i) d' ∧
      d' ≤ d + 1 + i := by
  induction rest generalizing b i f o f' k d with
  | nil =>
    have hzero : i = 0 := Nat.lt_one_iff.1 h.index_lt
    subst hzero
    exact ⟨d + 1, evaluates_choose_iff.2 ⟨0, k, d, h, rfl, rfl⟩, Nat.le_refl _⟩
  | cons b' rest ih =>
    cases h with
    | @taken _ _ _ _ _ _ _ _ k k' d d' hq ht hr =>
      exact ⟨_, evaluates_ifElse_iff.2 ⟨_, _, _, _, hq, .inl ⟨ht, _, _, hr, rfl, rfl⟩⟩,
        Nat.le_refl _⟩
    | interrupted hq ht =>
      exact ⟨_, evaluates_ifElse_iff.2 ⟨_, _, _, _, hq, .inr (.inr ⟨_, ht, rfl, rfl, rfl, rfl⟩)⟩,
        Nat.le_refl _⟩
    | @passed _ _ _ i _ _ _ _ _ k k' d d' hq ht hrest =>
      -- The rest of the nest is the alternative: a step for it, and one for its condition.
      obtain ⟨dn, hnest, hdn⟩ := ih hrest
      refine ⟨max d dn + 1, evaluates_ifElse_iff.2 ⟨_, _, _, _, hq, .inr (.inl ⟨ht, _, _, hnest,
        ?_, rfl⟩)⟩, ?_⟩
      · omega
      · omega

/-- Whatever the nest does is selected by the branches. -/
theorem exists_selects_of_cascade
    (h : Evaluates program operators (.node (.cascade b rest)) f o f' k d) :
    ∃ i k₀ d₀, Selects program operators (b :: rest) i f o f' k₀ d₀ := by
  induction rest generalizing b f o f' k d with
  | nil =>
    obtain ⟨i, k₀, d₀, h, -, -⟩ := evaluates_choose_iff.1 h
    exact ⟨i, k₀, d₀, h⟩
  | cons b' rest ih =>
    obtain ⟨oq, f₁, kq, dq, hq, ⟨ht, kr, dr, hr, -, -⟩ | ⟨ht, ke, de, he, -, -⟩ |
      ⟨i, ht, rfl, rfl, -, -⟩⟩ := evaluates_ifElse_iff.1 h
    · exact ⟨0, _, _, .taken hq ht hr⟩
    · obtain ⟨i, k₀, d₀, hrest⟩ := ih he
      exact ⟨i + 1, _, _, .passed hq ht hrest⟩
    · exact ⟨0, _, _, .interrupted hq ht⟩

/-- The nest means what its branches select, with two steps more for each condition that fails
before the last. -/
theorem exists_evaluates_cascade_iff :
    (∃ d, Evaluates program operators (.node (.cascade b rest)) f o f' k d) ↔
      ∃ i k₀ d₀, Selects program operators (b :: rest) i f o f' k₀ d₀ ∧ k = k₀ + 1 + 2 * i := by
  constructor
  · rintro ⟨d, h⟩
    obtain ⟨i, k₀, d₀, hselects⟩ := exists_selects_of_cascade h
    obtain ⟨d', hnest, -⟩ := hselects.evaluates_cascade
    exact ⟨i, k₀, d₀, hselects, (h.unique hnest).2.2.1⟩
  · rintro ⟨i, k₀, d₀, hselects, rfl⟩
    obtain ⟨d', hnest, -⟩ := hselects.evaluates_cascade
    exact ⟨d', hnest⟩

end Selection

/-! ### Runs -/

/-- A run that is meant has the outcome and the frame that are meant, and has used the steps. -/
theorem Evaluates.run_eq {program : Program} {operators : OperatorTable} {n : Node} {f f' : Frame}
    {o : Outcome} {k d : Nat} (h : Evaluates program operators (.node n) f o f' k d)
    {limits : Limits} {depth : Nat} {b : Budget}
    (hne : ¬ ResourceEnd (outcome (evaluate ⟨limits, program, operators⟩ depth n ⟨b, f⟩))) :
    let r := evaluate ⟨limits, program, operators⟩ depth n ⟨b, f⟩
    outcome r = o ∧ (final r).frame = f' ∧ (final r).budget.used = b.used + k := by
  obtain ⟨o₁, f₁, k₁, d₁, hmeant, hk, hd⟩ := evaluates_of_not_resourceEnd hne
  obtain ⟨rfl, rfl, rfl, rfl⟩ := h.unique hmeant
  intro r
  have hr : r = _ := h.evaluate_eq limits depth b hk hd
  rw [hr, outcome_ending, final_ending]
  exact ⟨rfl, rfl, Budget.used_spend hk⟩

/-- What is meant and fits does not run out of a resource. -/
theorem Evaluates.not_resourceEnd_evaluate {program : Program} {operators : OperatorTable}
    {n : Node} {f f' : Frame} {o : Outcome} {k d : Nat}
    (h : Evaluates program operators (.node n) f o f' k d) (limits : Limits) (depth : Nat)
    (b : Budget) (hk : k ≤ b.remaining) (hd : depth + d ≤ limits.maxDepth) :
    ¬ ResourceEnd (outcome (evaluate ⟨limits, program, operators⟩ depth n ⟨b, f⟩)) := by
  rw [h.evaluate_eq limits depth b hk hd, outcome_ending]
  exact h.not_resourceEnd trivial

/-- A root that is meant to end in an outcome, and fits, is folded to what it amounts to. -/
theorem Evaluates.foldCounted_eq {program : Program} {operators : OperatorTable} {n : Node}
    {f' : Frame} {o : Outcome} {k d : Nat}
    (h : Evaluates program operators (.node n) .empty o f' k d) {limits : Limits}
    (hk : k ≤ limits.maxSteps) (hd : d ≤ limits.maxDepth) :
    foldCounted ⟨limits, program, operators⟩ n = (conclude o, k) := by
  have hrun : (Evaluator.start ⟨limits, program, operators⟩).evalRoot n = _ :=
    h.evaluate_eq limits 0 (.full limits.maxSteps) hk (by omega)
  rw [ConstFold.foldCounted_eq, hrun, outcome_ending, final_ending, Budget.used_spend hk,
    Budget.used_full, Nat.zero_add]

/-- A root that is folded to a literal is meant to have its value, after as many steps. -/
theorem evaluates_of_foldCounted_eq {program : Program} {operators : OperatorTable} {n : Node}
    {limits : Limits} {l : Literal} {k : Nat}
    (h : foldCounted ⟨limits, program, operators⟩ n = (.ok l, k)) :
    ∃ f' d, Evaluates program operators (.node n) .empty (.ok l.toValue) f' k d := by
  rw [ConstFold.foldCounted_eq, Prod.mk.injEq, conclude_eq_ok_iff] at h
  have houtcome : outcome (evaluate ⟨limits, program, operators⟩ 0 n
      ⟨.full limits.maxSteps, .empty⟩) = .ok l.toValue := h.1
  have hne : ¬ ResourceEnd (outcome (evaluate ⟨limits, program, operators⟩ 0 n
      ⟨.full limits.maxSteps, .empty⟩)) := by
    rw [houtcome]
    exact id
  obtain ⟨o, f', k', d, hmeant, -, -⟩ := evaluates_of_not_resourceEnd hne
  obtain ⟨ho, -, hused⟩ := hmeant.run_eq hne
  obtain rfl : o = .ok l.toValue := ho.symm.trans houtcome
  rw [Budget.used_full, Nat.zero_add] at hused
  obtain rfl : k' = k := hused.symm.trans h.2
  exact ⟨f', d, hmeant⟩

/-- **A conditional and its nest agree, up to two steps for each condition tried in vain.**  Both
do what the branches select: the conditions are tried in order up to a last one, and what stands
after it in the list may be anything.  Within limits that suffice for both, and such there are,
the outcomes and the frames are the same, and the nest has used twice as many steps more as
conditions have failed before the last. -/
theorem choose_cascade (program : Program) (operators : OperatorTable) (b : Node × Node)
    (rest : List (Node × Node)) (f : Frame) :
    (∀ o f' k d, Evaluates program operators (.node (.choose (b :: rest))) f o f' k d ↔
      ∃ i k₀ d₀, Selects program operators (b :: rest) i f o f' k₀ d₀ ∧ k = k₀ + 1 ∧
        d = d₀ + 1) ∧
    (∀ o f' k, (∃ d, Evaluates program operators (.node (.cascade b rest)) f o f' k d) ↔
      ∃ i k₀ d₀, Selects program operators (b :: rest) i f o f' k₀ d₀ ∧ k = k₀ + 1 + 2 * i) ∧
    (∀ i o f' k₀ d₀, Selects program operators (b :: rest) i f o f' k₀ d₀ →
      i < (b :: rest).length ∧ ∀ bs, bs.length = (b :: rest).length →
        bs.take (i + 1) = (b :: rest).take (i + 1) →
        Selects program operators bs i f o f' k₀ d₀) ∧
    ∀ (limits : Limits) (depth : Nat) (budget : Budget),
      let flat := evaluate ⟨limits, program, operators⟩ depth (.choose (b :: rest)) ⟨budget, f⟩
      let nest := evaluate ⟨limits, program, operators⟩ depth (.cascade b rest) ⟨budget, f⟩
      (¬ ResourceEnd (outcome flat) → ¬ ResourceEnd (outcome nest) →
        ∃ i k₀ d₀, Selects program operators (b :: rest) i f (outcome flat) (final flat).frame
            k₀ d₀ ∧
          outcome nest = outcome flat ∧ (final nest).frame = (final flat).frame ∧
          (final flat).budget.used = budget.used + (k₀ + 1) ∧
          (final nest).budget.used = (final flat).budget.used + 2 * i) ∧
      ∀ i o f' k₀ d₀, Selects program operators (b :: rest) i f o f' k₀ d₀ →
        k₀ + 1 + 2 * i ≤ budget.remaining → depth + (d₀ + 1 + i) ≤ limits.maxDepth →
        ¬ ResourceEnd (outcome flat) ∧ ¬ ResourceEnd (outcome nest) := by
  refine ⟨fun _ _ _ _ => evaluates_choose_iff, fun _ _ _ => exists_evaluates_cascade_iff,
    fun i o f' k₀ d₀ h => ⟨h.index_lt, fun bs hlength => h.of_take_eq hlength⟩,
    fun limits depth budget => ?_⟩
  intro flat nest
  refine ⟨fun hflat hnest => ?_, fun i o f' k₀ d₀ h hk hd => ?_⟩
  · obtain ⟨o, f', k, d, hmeant, -, -⟩ := evaluates_of_not_resourceEnd hflat
    obtain ⟨i, k₀, d₀, hselects, rfl, rfl⟩ := evaluates_choose_iff.1 hmeant
    obtain ⟨d', hcascade, -⟩ := hselects.evaluates_cascade
    obtain ⟨hflatOutcome, hflatFrame, hflatUsed⟩ := hmeant.run_eq hflat
    obtain ⟨hnestOutcome, hnestFrame, hnestUsed⟩ := hcascade.run_eq hnest
    refine ⟨i, k₀, d₀, ?_, ?_, ?_, hflatUsed, ?_⟩
    · rw [hflatOutcome, hflatFrame]
      exact hselects
    · rw [hflatOutcome, hnestOutcome]
    · rw [hflatFrame, hnestFrame]
    · rw [hflatUsed, hnestUsed]
      omega
  · have hflat := evaluates_choose_iff.2 ⟨i, k₀, d₀, h, rfl, rfl⟩
    obtain ⟨d', hnest, hd'⟩ := h.evaluates_cascade
    exact ⟨hflat.not_resourceEnd_evaluate limits depth budget (by omega) (by omega),
      hnest.not_resourceEnd_evaluate limits depth budget hk (by omega)⟩

/-- Of three conditions the last one holds, so that two have been tried in vain. -/
example :
    let branches : List (Node × Node) := [(.bool false, .int 2), (.bool true, .int 3)]
    foldCounted ⟨⟨20, 10⟩, .empty, .reserved⟩ (.choose ((.bool false, .int 1) :: branches)) =
        (.ok (.int 3), 5) ∧
      foldCounted ⟨⟨20, 10⟩, .empty, .reserved⟩ (.cascade (.bool false, .int 1) branches) =
        (.ok (.int 3), 9) := by
  decide +kernel

end ConstFold
