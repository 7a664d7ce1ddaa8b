import ConstFold.Proofs.Lockstep

/-!
# The depth limit

A node inside `depth` others is started after as many steps: each of the others has
taken one and has not ended.  So a run can be nested no deeper than it has used steps,
and two evaluators that differ only in the nesting allowed part where the stricter one
has used more steps than it allows levels.

## Main definitions

* `Comparison.depthLimit` — evaluators that have used at least `depth` steps, and of
  which the stricter one may have given up.

## Main results

* `foldCounted_depthLimit` — the two cases of folds with different nesting allowed.
* `foldCounted_depth_law` — **the depth limit is kept in step with the budget.**
-/

namespace ConstFold

open Run

/-- Evaluators that allow `d₁` and more levels, inside `depth` nodes.  They are in the
same state and have used a step for each of the nodes around them.  The first gives up
at its limit, having used more steps than that, and the second goes on. -/
def Comparison.depthLimit (d₁ depth : Nat) : Comparison where
  frames := Eq
  budgets := fun b b' => b = b' ∧ depth ≤ b.used
  failures := fun f g => f = g ∧ ∀ l, f ≠ .depthExceeded l
  apart := fun f b b' => f = .depthExceeded d₁ ∧ d₁ + 1 ≤ b.used ∧ b.used ≤ b'.used
  failures_self := by
    intro f hf
    refine ⟨rfl, fun l hl => ?_⟩
    subst hl
    cases hf
  apart_leads := by
    rintro f b c c' ⟨hf, hb, hle⟩ hleads
    exact ⟨hf, hb, Nat.le_trans hle hleads.used_le⟩

/-- What has used a step for each of `depth + 1` nodes has done so for `depth`. -/
theorem Comparison.refines_depthLimit (d₁ depth : Nat) :
    (depthLimit d₁ (depth + 1)).Refines (depthLimit d₁ depth) where
  states := fun hst => ⟨⟨hst.budgets.1, Nat.le_of_succ_le hst.budgets.2⟩, hst.frames⟩
  failures := id
  apart := id

section

variable (program : Program) (operators : OperatorTable) (maxSteps : Nat) {d₁ d₂ : Nat}

/-- A node that is started has used a step for itself and for each node around it; one
that is refused has used them too. -/
theorem Comparison.ends_enter_depthLimit (h : d₁ ≤ d₂) (depth : Nat) {s t : State}
    (hst : (depthLimit d₁ depth).States s t) :
    (depthLimit d₁ depth).Ends (depthLimit d₁ (depth + 1)).States
      (enter ⟨⟨maxSteps, d₁⟩, program, operators⟩ depth s)
      (enter ⟨⟨maxSteps, d₂⟩, program, operators⟩ depth t) := by
  obtain ⟨b, f⟩ := s
  obtain ⟨b', f'⟩ := t
  obtain ⟨⟨hb, hused⟩, hf⟩ := hst
  obtain rfl : b = b' := hb
  obtain rfl : f = f' := hf
  have hdepth : depth ≤ b.used := hused
  rcases Nat.eq_zero_or_pos b.remaining with hzero | hpos
  · -- The step is tried before the nesting is checked, so both fail for want of it.
    rw [enter_of_remaining_eq_zero _ depth hzero, enter_of_remaining_eq_zero _ depth hzero]
    exact .interrupted (.failing ⟨rfl, by simp⟩) ⟨⟨rfl, hused⟩, rfl⟩
  · have hspent := Budget.used_spend (k := 1) hpos
    rcases Nat.lt_or_ge depth d₁ with hd | hd
    · rw [enter_of_lt hpos hd, enter_of_lt hpos (Nat.lt_of_lt_of_le hd h)]
      have hnext : depth + 1 ≤ (b.spend 1).used := by omega
      exact .value ⟨⟨rfl, hnext⟩, rfl⟩
    · rw [enter_of_le hpos hd]
      have hlimit : d₁ + 1 ≤ (b.spend 1).used := by omega
      refine .stopped ⟨rfl, hlimit, ?_⟩
      rcases Nat.lt_or_ge depth d₂ with hd' | hd'
      · rw [enter_of_lt hpos hd']
        exact Nat.le_refl _
      · rw [enter_of_le hpos hd']
        exact Nat.le_refl _

/-- Evaluators that allow `d₁` and `d₂` levels go together up to the end, or part where the
first has used more than `d₁` steps. -/
theorem Comparison.agree_evalNode_depthLimit (h : d₁ ≤ d₂) (node : Node) :
    (depthLimit d₁ 0).Agree maxSteps maxSteps
      (evalNode ⟨⟨maxSteps, d₁⟩, program, operators⟩ maxSteps 0 node)
      (evalNode ⟨⟨maxSteps, d₂⟩, program, operators⟩ maxSteps 0 node) :=
  agree_evalNode_self (c := depthLimit d₁) (fun _ => rfl) (refines_depthLimit d₁)
    (fun depth _ _ => ends_enter_depthLimit program operators maxSteps h depth)
    maxSteps maxSteps 0 node

/-- **The two cases of folds with different nesting allowed**: they are the same in result
and steps, or the stricter one fails at its limit after more steps than that, and the
other uses no fewer. -/
theorem foldCounted_depthLimit (h : d₁ ≤ d₂) (node : Node) :
    let run := fun d => foldCounted ⟨⟨maxSteps, d⟩, program, operators⟩ node
    (run d₁ = run d₂ ∧ ∀ l, (run d₁).1 ≠ .error (.depthExceeded l)) ∨
      ((run d₁).1 = .error (.depthExceeded d₁) ∧ d₁ + 1 ≤ (run d₁).2 ∧
        (run d₁).2 ≤ (run d₂).2) := by
  intro run
  have hagree := Comparison.agree_evalNode_depthLimit program operators maxSteps h node
  rcases Comparison.foldCounted_cases ⟨⟨maxSteps, d₁⟩, program, operators⟩
    ⟨⟨maxSteps, d₂⟩, program, operators⟩ hagree (fun _ _ => And.left)
    ⟨⟨rfl, Nat.zero_le _⟩, rfl⟩ with
    ⟨r, b, b', hrun₁, hrun₂, ⟨hbudgets, -⟩, hf⟩ | ⟨f, b, b', hrun₁, hrun₂, rfl, hused, hle⟩
  · have hrun₁ : run d₁ = (r, b.used) := hrun₁
    have hrun₂ : run d₂ = (r, b'.used) := hrun₂
    rw [hrun₁, hrun₂, hbudgets]
    exact .inl ⟨rfl, fun l hl => (hf _ rfl hl).2 l rfl⟩
  · have hrun₁ : run d₁ = _ := hrun₁
    have hrun₂ : (run d₂).2 = _ := hrun₂
    rw [hrun₁, hrun₂]
    exact .inr ⟨rfl, hused, hle⟩

/-- **The depth limit is kept in step with the budget.**  Folds that allow `d₁` levels and
more are the same, or the stricter one fails at its limit, which lies below the steps
it has used and so below those granted.  So any other result stands for every larger
limit, and a limit that is no less than the steps granted never shows. -/
theorem foldCounted_depth_law (h : d₁ ≤ d₂) (node : Node) :
    let run := fun d => foldCounted ⟨⟨maxSteps, d⟩, program, operators⟩ node
    ((run d₁).1 = (run d₂).1 ∧ (run d₁).2 = (run d₂).2 ∨
      (run d₁).1 = .error (.depthExceeded d₁) ∧ d₁ + 1 ≤ (run d₁).2 ∧
        (run d₁).2 ≤ (run d₂).2 ∧ d₁ < maxSteps) ∧
      (∀ d d', d ≤ d' → (∀ l, (run d).1 ≠ .error (.depthExceeded l)) →
        (run d').1 = (run d).1) ∧
      ∀ d l, maxSteps ≤ d → (run d).1 ≠ .error (.depthExceeded l) := by
  intro run
  have hcases : ∀ d d', d ≤ d' →
      (run d = run d' ∧ ∀ l, (run d).1 ≠ .error (.depthExceeded l)) ∨
        ((run d).1 = .error (.depthExceeded d) ∧ d + 1 ≤ (run d).2 ∧
          (run d).2 ≤ (run d').2) :=
    fun d d' hd => foldCounted_depthLimit program operators maxSteps hd node
  have hsteps : ∀ d, (run d).2 ≤ maxSteps :=
    fun d => foldCounted_le_maxSteps ⟨⟨maxSteps, d⟩, program, operators⟩ node
  refine ⟨?_, fun d d' hd hne => ?_, fun d l hd hl => ?_⟩
  · rcases hcases d₁ d₂ h with ⟨heq, -⟩ | ⟨hfail, hlt, hle⟩
    · rw [heq]
      exact .inl ⟨rfl, rfl⟩
    · exact .inr ⟨hfail, hlt, hle, Nat.lt_of_lt_of_le hlt (hsteps d₁)⟩
  · rcases hcases d d' hd with ⟨heq, -⟩ | ⟨hfail, -, -⟩
    · rw [heq]
    · exact absurd hfail (hne d)
  · -- A limit compared with itself tells whether it was hit.
    rcases hcases d d (Nat.le_refl d) with ⟨-, hne⟩ | ⟨-, hlt, -⟩
    · exact hne l hl
    · have hle := hsteps d
      omega

end

/-- A sum nests two levels deep.  With one level allowed it fails at its first operand. -/
theorem foldCounted_depth_law_sum :
    let sum := Node.callBuiltin .intPlus [.int 1, .int 2]
    1 ≤ 5 ∧ (foldCounted ⟨⟨10, 1⟩, .empty, .reserved⟩ sum).1 = .error (.depthExceeded 1) ∧
      1 + 1 ≤ (foldCounted ⟨⟨10, 1⟩, .empty, .reserved⟩ sum).2 ∧
      (foldCounted ⟨⟨10, 1⟩, .empty, .reserved⟩ sum).2 ≤
        (foldCounted ⟨⟨10, 5⟩, .empty, .reserved⟩ sum).2 ∧ 1 < 10 := by
  have h := (foldCounted_depth_law .empty .reserved 10 (by decide : 1 ≤ 5)
    (.callBuiltin .intPlus [.int 1, .int 2])).1
  have hne : (foldCounted ⟨⟨10, 1⟩, .empty, .reserved⟩
      (.callBuiltin .intPlus [.int 1, .int 2])).2 ≠ (foldCounted ⟨⟨10, 5⟩, .empty, .reserved⟩
      (.callBuiltin .intPlus [.int 1, .int 2])).2 := by decide +kernel
  exact ⟨by decide, h.resolve_left fun heq => hne heq.2⟩

end ConstFold
