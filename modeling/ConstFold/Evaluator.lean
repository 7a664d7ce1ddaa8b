import ConstFold.Evaluation.Node

/-!
# Evaluators

An evaluator folds nodes to literals.  Its budget is granted once: folding one
node after the other draws on the same steps.  Each node is evaluated in an empty
frame of its own.

## Main definitions

* `Evaluator`, `Evaluator.start`, `Evaluator.fold` — evaluators and what they do.
* `fold`, `foldCounted` — the fold of a single node, without and with its steps.

## References

`SPEC_FULL.md`, sections 4.3, 5 and 6; section 10: `Evaluator`.
-/

namespace ConstFold

/-- A context, with the steps left for evaluations in it. -/
structure Evaluator extends Context where
  /-- The steps left. -/
  budget : Budget

/-- What a run at the root amounts to: a value has to be a literal, and no loop or
function is there to intercept a jump or a return. -/
def conclude : Except Interrupt Value → Except Failure Literal
  | .ok value => value.toLiteral
  | .error (.failing cause) => .error cause
  | .error _ => .error (.unsupported "control transfer outside of a function")

/-- Only the value of a literal is concluded to the literal. -/
theorem conclude_eq_ok_iff {o : Except Interrupt Value} {l : Literal} :
    conclude o = .ok l ↔ o = .ok l.toValue := by
  cases o with
  | ok value =>
    rw [Except.ok.injEq]
    exact Value.toLiteral_eq_ok_iff
  | error i => cases i <;> simp [conclude]

/-- Only the interrupt of that failure is concluded to a failure that stems from a limit. -/
theorem conclude_eq_error_iff {o : Except Interrupt Value} {f : Failure}
    (hf : f.isResource = true) : conclude o = .error f ↔ o = .error (.failing f) := by
  constructor
  · intro h
    unfold conclude at h
    split at h
    · next value =>
      cases value <;> cases h
      cases hf
    · cases h
      rfl
    · cases h
      cases hf
  · intro h
    rw [h]
    rfl

namespace Evaluator

/-- An evaluator that has the whole budget of its limits. -/
def start (context : Context) : Evaluator := ⟨context, .full context.limits.maxSteps⟩

/-- The number of steps used so far. -/
def stepsUsed (e : Evaluator) : Nat := e.budget.used

/-- Evaluates a node at the root, in an empty frame. -/
def evalRoot (e : Evaluator) (node : Node) : EStateM.Result Interrupt State Value :=
  evaluate e.toContext 0 node ⟨e.budget, .empty⟩

/-- Folds a node, and gives the evaluator with the steps that are left. -/
def fold (e : Evaluator) (node : Node) : Except Failure Literal × Evaluator :=
  match e.evalRoot node with
  | .ok value s => (conclude (.ok value), { e with budget := s.budget })
  | .error interrupt s => (conclude (.error interrupt), { e with budget := s.budget })

/-- A fold concludes from the outcome at the root, and keeps the budget left there. -/
theorem fold_eq (e : Evaluator) (node : Node) :
    e.fold node =
      (conclude (Run.outcome (e.evalRoot node)),
        { e with budget := (Run.final (e.evalRoot node)).budget }) := by
  unfold fold
  cases e.evalRoot node <;> rfl

/-- Folds nodes in turn.  With each result stand the steps used up to then. -/
def foldAll (e : Evaluator) : List Node → List (Except Failure Literal × Nat)
  | [] => []
  | node :: rest =>
      let (result, e) := e.fold node
      (result, e.stepsUsed) :: e.foldAll rest

end Evaluator

/-- Folds a single node within limits. -/
def fold (context : Context) (node : Node) : Except Failure Literal :=
  ((Evaluator.start context).fold node).1

/-- Folds a single node within limits.  With the result stand the steps used. -/
def foldCounted (context : Context) (node : Node) : Except Failure Literal × Nat :=
  let (result, e) := (Evaluator.start context).fold node
  (result, e.stepsUsed)

/-- A counted fold concludes from the run at the root of an evaluator of its own. -/
theorem foldCounted_eq (context : Context) (node : Node) :
    foldCounted context node =
      (conclude (Run.outcome ((Evaluator.start context).evalRoot node)),
        (Run.final ((Evaluator.start context).evalRoot node)).budget.used) := by
  unfold foldCounted
  rw [Evaluator.fold_eq]
  rfl

theorem fold_eq_foldCounted (context : Context) (node : Node) :
    fold context node = (foldCounted context node).1 := rfl

end ConstFold
