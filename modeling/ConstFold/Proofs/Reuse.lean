import ConstFold.Proofs.Following
import ConstFold.Proofs.Lockstep

/-!
# One evaluator for many nodes

An evaluator that has folded some nodes folds the next one as a fresh evaluator would that
is granted only the steps that are left.  Nothing else is carried over: not the frame,
which is empty each time, and not the nesting, which is back at zero however the nodes
before have ended.  What tells the two evaluators apart is the limit they report when the
steps run out.

## Main definitions

* `Failure.withLimit b` — a failure as an evaluator that was granted `b` steps reports it.
* `Comparison.equalLeft b₁ b₂` — evaluators that were granted `b₁` and `b₂` steps and have
  the same number left.

## Main results

* `Evaluator.fold_eq_fresh` — a fold is that of a fresh evaluator with the steps left.
* `foldAll_reuse` — **so is every fold of nodes in turn, and the steps add up.**
-/

namespace ConstFold

open Run

/-- The failure as an evaluator that was granted `b` steps reports it. -/
def Failure.withLimit (b : Nat) : Failure → Failure
  | .stepsExhausted _ => .stepsExhausted b
  | f => f

theorem Failure.withLimit_of_isResource_eq_false (b : Nat) {f : Failure}
    (h : f.isResource = false) : f.withLimit b = f := by
  cases f with
  | stepsExhausted l => cases h
  | _ => rfl

/-! ### Evaluators with the same number of steps left -/

/-- Evaluators that were granted `b₁` and `b₂` steps and have the same number left. -/
def Comparison.equalLeft (b₁ b₂ : Nat) : Comparison where
  frames := Eq
  budgets := fun b b' => b.limit = b₁ ∧ b'.limit = b₂ ∧ b.remaining = b'.remaining
  failures := fun f g => f = g.withLimit b₁
  apart := fun _ _ _ => False
  failures_self := fun hf => (Failure.withLimit_of_isResource_eq_false b₁ hf).symm
  apart_leads := fun h _ => h

namespace Comparison

variable {b₁ b₂ : Nat}

/-- A node is started by both or by neither. -/
theorem ends_enter_equalLeft (limits : Limits) (maxSteps : Nat) (program : Program)
    (operators : OperatorTable) (depth : Nat) {s t : State}
    (hst : (equalLeft b₁ b₂).States s t) :
    (equalLeft b₁ b₂).Ends (equalLeft b₁ b₂).States
      (enter ⟨limits, program, operators⟩ depth s)
      (enter ⟨⟨maxSteps, limits.maxDepth⟩, program, operators⟩ depth t) := by
  have ⟨⟨hs, ht, hleft⟩, hframes⟩ := hst
  rcases Nat.eq_zero_or_pos s.budget.remaining with hzero | hpos
  · rw [enter_of_remaining_eq_zero _ depth hzero,
      enter_of_remaining_eq_zero _ depth (hleft ▸ hzero)]
    exact .interrupted (.failing (congrArg Failure.stepsExhausted hs)) hst
  · have hnext : (equalLeft b₁ b₂).States { s with budget := s.budget.spend 1 }
        { t with budget := t.budget.spend 1 } :=
      ⟨⟨hs, ht, congrArg (· - 1) hleft⟩, hframes⟩
    rcases Nat.lt_or_ge depth limits.maxDepth with hd | hd
    · rw [enter_of_lt hpos hd, enter_of_lt (hleft ▸ hpos) hd]
      exact .value hnext
    · rw [enter_of_le hpos hd, enter_of_le (hleft ▸ hpos) hd]
      exact .interrupted (.failing rfl) hnext

/-- Runs with the same number of steps left conclude alike, and have the same number left. -/
theorem Ends.conclude_eq {r r' : EStateM.Result Interrupt State Value}
    (h : (equalLeft b₁ b₂).Ends (equalLeft b₁ b₂).States r r') :
    conclude (outcome r) = (conclude (outcome r')).mapError (.withLimit b₁) ∧
      (equalLeft b₁ b₂).budgets (final r).budget (final r').budget := by
  cases h with
  | @value a s t hst =>
    refine ⟨?_, hst.budgets⟩
    cases a <;> rfl
  | interrupted hi hst =>
    refine ⟨?_, hst.budgets⟩
    cases hi with
    | failing hf => exact congrArg Except.error hf
    | _ => rfl
  | stopped ha => exact ha.elim

end Comparison

/-! ### Folds -/

/-- The steps used of a budget, if as many are left of another one that was granted only
what it has left. -/
theorem Budget.used_eq_add_of_remaining_eq {b c d : Budget} (hc : c.limit = b.limit)
    (hd : d.limit = b.remaining) (hleft : c.remaining = d.remaining) :
    c.used = b.used + d.used := by
  have hb := b.used_add_remaining
  have hc' := c.used_add_remaining
  have hd' := d.used_add_remaining
  omega

namespace Evaluator

/-- **A fold is that of a fresh evaluator that is granted the steps left**, but for the limit
that is reported. -/
theorem fold_eq_fresh (e : Evaluator) (n : Node) :
    let fresh := foldCounted ⟨⟨e.budget.remaining, e.limits.maxDepth⟩, e.program, e.operators⟩ n
    (e.fold n).1 = fresh.1.mapError (.withLimit e.budget.limit) ∧
      (e.fold n).2.stepsUsed = e.stepsUsed + fresh.2 ∧
      (e.fold n).2.budget.limit = e.budget.limit := by
  intro fresh
  have hagree := Comparison.agree_evalNode_self
    (c := fun _ => .equalLeft e.budget.limit e.budget.remaining) (fun _ => rfl) (fun _ => .refl _)
    (fun depth _ _ => Comparison.ends_enter_equalLeft e.limits e.budget.remaining e.program
      e.operators depth)
    e.budget.remaining e.budget.remaining 0 n
  have hends := hagree.ends (s := ⟨e.budget, .empty⟩) (t := ⟨.full e.budget.remaining, .empty⟩)
    (Nat.le_refl _) (Nat.le_refl _) ⟨⟨rfl, rfl, rfl⟩, rfl⟩
  obtain ⟨hresult, hlimit, hlimit', hleft⟩ := hends.conclude_eq
  have hfresh : fresh = _ := foldCounted_eq _ n
  rw [hfresh, fold_eq]
  refine ⟨hresult, ?_, hlimit⟩
  exact Budget.used_eq_add_of_remaining_eq hlimit hlimit' hleft

/-- Folding nodes changes neither the context nor the number of steps granted. -/
theorem context_and_limit_after (e : Evaluator) (nodes : List Node) :
    (e.after nodes).toContext = e.toContext ∧ (e.after nodes).budget.limit = e.budget.limit := by
  induction nodes generalizing e with
  | nil => exact ⟨rfl, rfl⟩
  | cons n nodes ih =>
    obtain ⟨hcontext, hlimit⟩ := ih (e.fold n).2
    rw [after_cons, hcontext, hlimit, (e.fold_eq_fresh n).2.2, fold_eq]
    exact ⟨rfl, rfl⟩

/-- What folding nodes in turn gives for one of them is what the evaluator gives that has
folded those before. -/
theorem foldAll_append_cons (e : Evaluator) (earlier : List Node) (n : Node)
    (later : List Node) :
    (e.foldAll (earlier ++ n :: later))[earlier.length]? =
      some (((e.after earlier).fold n).1, ((e.after earlier).fold n).2.stepsUsed) := by
  induction earlier generalizing e with
  | nil => rfl
  | cons m earlier ih => exact ih (e.fold m).2

end Evaluator

/-- **Folding nodes in turn is to fold each with the steps that are left.**  The nesting is
at zero between nodes.  Each node gives what a fresh evaluator gives for it that is
granted what the nodes before have left, except that the limit reported is that of all
of them, and the steps add up and stay within it. -/
theorem foldAll_reuse (context : Context) (earlier : List Node) (n : Node) (later : List Node) :
    let e := (Evaluator.start context).after earlier
    let monitored := (MonitoredEvaluator.start (.start context)).after earlier
    let fresh := foldCounted ⟨⟨context.limits.maxSteps - e.stepsUsed, context.limits.maxDepth⟩,
      context.program, context.operators⟩ n
    ((Evaluator.start context).foldAll (earlier ++ n :: later))[earlier.length]? =
        some ((e.fold n).1, (e.fold n).2.stepsUsed) ∧
      (Evaluator.start context).stepsUsed = 0 ∧
      (e.fold n).2.stepsUsed = e.stepsUsed + fresh.2 ∧
      (e.fold n).2.stepsUsed ≤ context.limits.maxSteps ∧
      (e.fold n).1 = fresh.1.mapError (.withLimit context.limits.maxSteps) ∧
      (monitored.toEvaluator = e ∧ monitored.monitor.depth = 0) ∧
      (monitored.fold n).1 = (e.fold n).1 ∧ (monitored.fold n).2.toEvaluator = (e.fold n).2 ∧
      (monitored.fold n).2.monitor.depth = 0 := by
  intro e monitored fresh
  obtain ⟨hcontext, hlimit⟩ : e.toContext = context ∧ e.budget.limit = context.limits.maxSteps :=
    (Evaluator.start context).context_and_limit_after earlier
  obtain ⟨hresult, hused, hlimit'⟩ := e.fold_eq_fresh n
  have hleft : e.budget.remaining = context.limits.maxSteps - e.stepsUsed := by
    have hsum := e.budget.used_add_remaining
    unfold Evaluator.stepsUsed
    omega
  rw [hcontext, hleft] at hresult hused
  rw [hlimit] at hresult hlimit'
  obtain ⟨hmonitored, hdepth⟩ : monitored.toEvaluator = e ∧ monitored.monitor.depth = 0 :=
    MonitoredEvaluator.after_eq rfl earlier
  obtain ⟨hfold, hfold'⟩ := MonitoredEvaluator.fold_eq hdepth n
  rw [hmonitored] at hfold hfold'
  refine ⟨Evaluator.foldAll_append_cons _ earlier n later, Budget.used_full _, hused, ?_, hresult,
    ⟨hmonitored, hdepth⟩, hfold, hfold', MonitoredEvaluator.depth_fold hdepth n⟩
  have hle := (e.fold n).2.budget.used_le
  rwa [hlimit'] at hle

/-- A loop that uses up the steps leaves none for the node after it, which reports the limit
of the whole. -/
example :
    (Evaluator.start ⟨⟨5, 10⟩, .empty, .reserved⟩).foldAll
        [.int 1, .whileLoop ⟨0⟩ (.bool true) none, .int 1] =
      [(.ok (.int 1), 1), (.error (.stepsExhausted 5), 5), (.error (.stepsExhausted 5), 5)] := by
  decide +kernel

end ConstFold
