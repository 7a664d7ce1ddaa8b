import ConstFold.Evaluator
import ConstFold.Proofs.Compositional
import ConstFold.Proofs.Spending

/-!
# Every node takes a step

An evaluation takes a step before anything else: on a spent budget it stops there, and
a value is given only after a step.  This is why the fuel of an evaluation, which is
never less than the steps left, does not show: it is not used up before they are.

## Main results

* `compositional_spends` — what nodes are made of only spends.
* `metered_evalNode` — **the evaluator takes a step before anything else.**
* `evalNode_eq_enter_bind`, `evalRounds_eq_evalRound` — what a node and a round do,
  without a case for the lack of fuel.
* `foldCounted_le_maxSteps` — no fold takes more steps than it is granted.
-/

namespace ConstFold

open Run

/-- Evaluations of parts that take a step before anything else. -/
structure Metered (eval : Node → Run Value) : Prop where
  spends : ∀ n, Spends (eval n)
  advances : ∀ n, Advances (eval n)
  stalls : ∀ n s, s.budget.remaining = 0 → eval n s = outOfSteps s

section Metering

variable {eval : Node → Run Value}

/-- What nodes are made of only spends, whatever stands beside it. -/
theorem compositional_spends : Compositional fun α (x : Run α) (_ : Run α) => Spends x where
  pure := spends_pure
  bind := Spends.bind
  interrupt := spends_interrupt
  ofExcept := spends_ofExcept
  read := spends_read
  bindVariable := spends_bindVariable
  interceptJump id h := h.interceptJump id

theorem spends_evalOptional (h : ∀ n, Spends (eval n)) (part : Option Node) :
    Spends (evalOptional eval part) :=
  compositional_spends.evalOptional (e := eval) h part

theorem spends_evalRounds (h : ∀ n, Spends (eval n)) (id : LoopId) (q : Node) (b : Option Node)
    (k : Nat) : Spends (evalRounds eval id q b k) :=
  compositional_spends.evalRounds (e := eval) h spends_outOfSteps id q b k

theorem spends_evalForm (h : ∀ n, Spends (eval n)) (context : Context) (k : Nat) (n : Node) :
    Spends (evalForm context eval k n) := by
  refine compositional_spends.evalForm (e := eval) (j := k) h context ?_ ?_ n
  · intro callee frame body
    have hbody : Spends (evalBody eval body) := compositional_spends.evalBody (e := eval) h body
    exact (hbody.inFrame frame).settle callee
  · exact fun id q b => spends_evalRounds h id q b k

/-- A condition that is found takes a step. -/
theorem Metered.advances_evalCondition (h : Metered eval) (q : Node) :
    Advances (evalCondition eval q) :=
  (h.advances q).bind fun a => spends_ofExcept a.asBool

/-- With enough fuel for the steps left, a loop runs a round. -/
theorem evalRounds_eq_evalRound (h : Metered eval) (id : LoopId) (q : Node) (b : Option Node)
    {k : Nat} {s : State} (hs : s.budget.remaining ≤ k) :
    evalRounds eval id q b k s = evalRound eval id q b (evalRounds eval id q b (k - 1)) s := by
  cases k with
  | succ k => rfl
  | zero =>
    -- Out of fuel means out of steps, and then the first node of the round stops there.
    have hspent : s.budget.remaining = 0 := Nat.le_zero.1 hs
    rw [evalRounds_zero, evalRound_eq, bind_apply]
    cases b with
    | some n =>
      rw [evalOptional_some, interceptJump, h.stalls n s hspent]
      rfl
    | none =>
      show outOfSteps s = evalTest eval q outOfSteps s
      rw [evalTest, bind_apply, evalCondition_eq, bind_apply, h.stalls q s hspent]
      rfl

end Metering

theorem spends_evalNode (context : Context) (fuel depth : Nat) (n : Node) :
    Spends (evalNode context fuel depth n) := by
  induction fuel generalizing depth n with
  | zero => exact spends_outOfSteps
  | succ fuel ih =>
    exact (spends_enter context depth).bind fun _ => spends_evalForm (ih (depth + 1)) context fuel n

/-- The evaluator takes a step before anything else. -/
theorem metered_evalNode (context : Context) (fuel depth : Nat) :
    Metered (evalNode context fuel depth) where
  spends := spends_evalNode context fuel depth
  advances := by
    intro n s a t h
    cases fuel with
    | zero => cases h
    | succ fuel =>
      have hform := spends_evalForm (spends_evalNode context fuel (depth + 1)) context fuel n
      exact (advances_enter context depth).bind (fun _ => hform) s a t h
  stalls := fun n _ hs => evalNode_of_remaining_eq_zero context fuel depth n hs

/-- With enough fuel for the steps left, a node is started and then does what its form says. -/
theorem evalNode_eq_enter_bind (context : Context) {fuel : Nat} (depth : Nat) (n : Node)
    {s : State} (hs : s.budget.remaining ≤ fuel) :
    evalNode context fuel depth n s =
      (enter context depth >>= fun _ =>
        evalForm context (evalNode context (fuel - 1) (depth + 1)) (fuel - 1) n) s := by
  cases fuel with
  | succ fuel => rfl
  | zero =>
    rw [bind_apply, enter_of_remaining_eq_zero context depth (Nat.le_zero.1 hs)]
    rfl

/-- No fold takes more steps than it is granted. -/
theorem foldCounted_le_maxSteps (context : Context) (n : Node) :
    (foldCounted context n).2 ≤ context.limits.maxSteps := by
  rw [foldCounted_eq]
  have hleads := spends_evalNode context context.limits.maxSteps 0 n
    ⟨.full context.limits.maxSteps, .empty⟩
  have hle := (final ((Evaluator.start context).evalRoot n)).budget.used_le
  rw [show (final ((Evaluator.start context).evalRoot n)).budget.limit = _ from
    hleads.limit_eq] at hle
  exact hle

end ConstFold
