import ConstFold.Evaluator
import ConstFold.Proofs.Lockstep

/-!
# The step limit

Two evaluators that differ only in the number of steps granted do the same until the
poorer one has spent all it has.  So the number of steps the richer one uses decides:
if the poorer one is granted that many, both give the same; otherwise the poorer one
fails at its limit, whatever stands around the node at which it does.

## Main results

* `foldCounted_stepLimit` — the two cases.
* `foldCounted_threshold` — **the step budget is a threshold.**
-/

namespace ConstFold

open Run

/-- Evaluators with `b₁` and `b₂` steps granted, as long as they have used the same
number.  The first gives up when its steps are used, and the second goes on. -/
def Comparison.stepLimit (b₁ b₂ : Nat) : Comparison where
  frames := Eq
  budgets := fun b b' => b.limit = b₁ ∧ b'.limit = b₂ ∧ b.used = b'.used
  failures := fun f g => f = g ∧ ∀ l, f ≠ .stepsExhausted l
  apart := fun f b b' => f = .stepsExhausted b₁ ∧ b.used = b₁ ∧ b₁ < b'.used
  failures_self := by
    intro f hf
    refine ⟨rfl, fun l hl => ?_⟩
    subst hl
    cases hf
  apart_leads := by
    rintro f b c c' ⟨hf, hb, hlt⟩ hleads
    exact ⟨hf, hb, Nat.lt_of_lt_of_le hlt hleads.used_le⟩

section

variable (program : Program) (operators : OperatorTable) (maxDepth : Nat) {b₁ b₂ : Nat}

/-- Nodes are started together until the poorer evaluator has used its steps. -/
theorem Comparison.ends_enter_stepLimit (h : b₁ < b₂) (depth : Nat) {s t : State}
    (hst : (stepLimit b₁ b₂).States s t) :
    (stepLimit b₁ b₂).Ends (stepLimit b₁ b₂).States
      (enter ⟨⟨b₁, maxDepth⟩, program, operators⟩ depth s)
      (enter ⟨⟨b₂, maxDepth⟩, program, operators⟩ depth t) := by
  obtain ⟨⟨hs, ht, hused⟩, hframes⟩ := hst
  have hsum := s.budget.used_add_remaining
  have htum := t.budget.used_add_remaining
  have htpos : 0 < t.budget.remaining := by
    have hle := s.budget.used_le
    omega
  have htused := Budget.used_spend (k := 1) htpos
  rcases Nat.eq_zero_or_pos s.budget.remaining with hzero | hspos
  · -- The poorer evaluator stops; the other takes the step whatever comes of it.
    rw [enter_of_remaining_eq_zero _ depth hzero]
    have hlater : b₁ < (t.budget.spend 1).used := by omega
    refine .stopped ⟨by rw [hs], by omega, ?_⟩
    rcases Nat.lt_or_ge depth maxDepth with hd | hd
    · rw [enter_of_lt htpos hd]
      exact hlater
    · rw [enter_of_le htpos hd]
      exact hlater
  · have hsused := Budget.used_spend (k := 1) hspos
    have hnext : (stepLimit b₁ b₂).States { s with budget := s.budget.spend 1 }
        { t with budget := t.budget.spend 1 } :=
      ⟨⟨hs, ht, by rw [hsused, htused, hused]⟩, hframes⟩
    rcases Nat.lt_or_ge depth maxDepth with hd | hd
    · rw [enter_of_lt hspos hd, enter_of_lt htpos hd]
      exact .value hnext
    · rw [enter_of_le hspos hd, enter_of_le htpos hd]
      exact .interrupted (.failing ⟨rfl, by simp⟩) hnext

/-- Evaluators with `b₁` and `b₂` steps granted go together up to the end, or part where
`b₁` steps are used. -/
theorem Comparison.agree_evalNode_stepLimit (h : b₁ < b₂) (node : Node) :
    (stepLimit b₁ b₂).Agree b₁ b₂ (evalNode ⟨⟨b₁, maxDepth⟩, program, operators⟩ b₁ 0 node)
      (evalNode ⟨⟨b₂, maxDepth⟩, program, operators⟩ b₂ 0 node) :=
  agree_evalNode_self (c := fun _ => stepLimit b₁ b₂) (fun _ => rfl) (fun _ => .refl _)
    (fun depth _ _ => ends_enter_stepLimit program operators maxDepth h depth) b₁ b₂ 0 node

/-- **The two cases of folds with different numbers of steps granted**: they are the same
in result and steps, or the poorer one fails at its limit and the other uses more. -/
theorem foldCounted_stepLimit (h : b₁ < b₂) (node : Node) :
    let run := fun b => foldCounted ⟨⟨b, maxDepth⟩, program, operators⟩ node
    (run b₁ = run b₂ ∧ (run b₂).2 ≤ b₁ ∧ ∀ l, (run b₁).1 ≠ .error (.stepsExhausted l)) ∨
      (run b₁ = (.error (.stepsExhausted b₁), b₁) ∧ b₁ < (run b₂).2) := by
  intro run
  have hagree := Comparison.agree_evalNode_stepLimit program operators maxDepth h node
  have hused : (Budget.full b₁).used = (Budget.full b₂).used := by
    rw [Budget.used_full, Budget.used_full]
  rcases Comparison.foldCounted_cases ⟨⟨b₁, maxDepth⟩, program, operators⟩
    ⟨⟨b₂, maxDepth⟩, program, operators⟩ hagree (fun _ _ => And.left)
    ⟨⟨rfl, rfl, hused⟩, rfl⟩ with
    ⟨r, b, b', hrun₁, hrun₂, ⟨hlimit, -, hused⟩, hf⟩ | ⟨f, b, b', hrun₁, hrun₂, rfl, hused, hlt⟩
  · have hle := b.used_le
    have hrun₁ : run b₁ = (r, b.used) := hrun₁
    have hrun₂ : run b₂ = (r, b'.used) := hrun₂
    rw [hrun₁, hrun₂, hused]
    exact .inl ⟨rfl, by omega, fun l hl => (hf _ rfl hl).2 l rfl⟩
  · have hrun₁ : run b₁ = _ := hrun₁
    have hrun₂ : (run b₂).2 = _ := hrun₂
    rw [hrun₁, hrun₂, hused]
    exact .inr ⟨rfl, hlt⟩

/-- A fold needs no more steps than it uses. -/
theorem foldCounted_of_maxSteps_eq_used (b : Nat) (node : Node) :
    foldCounted ⟨⟨(foldCounted ⟨⟨b, maxDepth⟩, program, operators⟩ node).2, maxDepth⟩, program,
      operators⟩ node = foldCounted ⟨⟨b, maxDepth⟩, program, operators⟩ node := by
  have hle : (foldCounted ⟨⟨b, maxDepth⟩, program, operators⟩ node).2 ≤ b :=
    foldCounted_le_maxSteps _ node
  rcases Nat.eq_or_lt_of_le hle with heq | hlt
  · rw [heq]
  · rcases foldCounted_stepLimit program operators maxDepth hlt node with ⟨heq, -, -⟩ | ⟨-, hlt⟩
    · exact heq
    · exact absurd hlt (Nat.lt_irrefl _)

/-- **The step budget is a threshold.**  Whether the steps of the richer of two folds fit
into the budget of the poorer decides whether they are the same or the poorer one
fails at its limit.  So a fold that fails at its limit has used it up, and any other
result stands for every larger budget. -/
theorem foldCounted_threshold (h : b₁ < b₂) (node : Node) :
    let run := fun b => foldCounted ⟨⟨b, maxDepth⟩, program, operators⟩ node
    ((run b₂).2 ≤ b₁ → (run b₁).1 = (run b₂).1 ∧ (run b₁).2 = (run b₂).2) ∧
      (b₁ < (run b₂).2 → (run b₁).1 = .error (.stepsExhausted b₁) ∧ (run b₁).2 = b₁) ∧
      (∀ b l, (run b).1 = .error (.stepsExhausted l) → l = b ∧ (run b).2 = b) ∧
      ∀ b b', b ≤ b' → (∀ l, (run b).1 ≠ .error (.stepsExhausted l)) →
        (run b').1 = (run b).1 := by
  intro run
  have hcases : ∀ b b', b < b' →
      (run b = run b' ∧ (run b').2 ≤ b ∧ ∀ l, (run b).1 ≠ .error (.stepsExhausted l)) ∨
        (run b = (.error (.stepsExhausted b), b) ∧ b < (run b').2) :=
    fun b b' hb => foldCounted_stepLimit program operators maxDepth hb node
  refine ⟨fun hle => ?_, fun hlt => ?_, fun b l hl => ?_, fun b b' hb hne => ?_⟩
  · rcases hcases b₁ b₂ h with ⟨heq, -, -⟩ | ⟨-, hlt⟩
    · rw [heq]
      exact ⟨rfl, rfl⟩
    · omega
  · rcases hcases b₁ b₂ h with ⟨-, hle, -⟩ | ⟨heq, -⟩
    · omega
    · rw [heq]
      exact ⟨rfl, rfl⟩
  · -- Any larger budget tells whether the steps have run out.
    rcases hcases b (b + 1) (Nat.lt_succ_self b) with ⟨-, -, hne⟩ | ⟨heq, -⟩
    · exact absurd hl (hne l)
    · rw [heq] at hl ⊢
      cases hl
      exact ⟨rfl, rfl⟩
  · rcases Nat.eq_or_lt_of_le hb with rfl | hlt
    · rfl
    · rcases hcases b b' hlt with ⟨heq, -, -⟩ | ⟨heq, -⟩
      · rw [heq]
      · exact absurd (congrArg Prod.fst heq) (hne b)

end

/-- A loop without end. -/
def endlessLoop : Node := .whileLoop ⟨0⟩ (.bool true) none

/-- It uses up the larger of two budgets, and fails at the smaller one. -/
theorem foldCounted_endlessLoop :
    7 < 20 ∧ (foldCounted ⟨⟨20, 10⟩, .empty, .reserved⟩ endlessLoop).2 = 20 ∧
      (foldCounted ⟨⟨7, 10⟩, .empty, .reserved⟩ endlessLoop).1 = .error (.stepsExhausted 7) ∧
      (foldCounted ⟨⟨7, 10⟩, .empty, .reserved⟩ endlessLoop).2 = 7 := by
  have hused : (foldCounted ⟨⟨20, 10⟩, .empty, .reserved⟩ endlessLoop).2 = 20 := by
    decide +kernel
  have h := foldCounted_threshold .empty .reserved 10 (by decide : 7 < 20) endlessLoop
  exact ⟨by decide, hused, h.2.1 (by rw [hused]; decide)⟩

end ConstFold
