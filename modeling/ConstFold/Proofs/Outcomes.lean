import ConstFold.Evaluator

/-!
# Outcomes

Loops and calls do not look into a run: they take its outcome and make another one of it,
and leave the state in which it ended.  What they make of it is stated here apart from
runs.

## Main definitions

* `Outcome`, `plain` — outcomes, and plain results as outcomes.
* `Transfer`, `transferOf` — returns and jumps, and the one an outcome is.
* `truth`, `roundEnd`, `settled` — what a condition, a round of a loop and a call make
  of the outcome of a node.

## Main results

* `evalCondition_apply`, `interceptJump_apply`, `settle_apply` — the runs that make them.
* `conclude_eq_error` — what a failed result comes from.
-/

namespace ConstFold

open Run

/-- How an evaluation ends: with a value or with an interrupt. -/
abbrev Outcome := Except Interrupt Value

/-- A plain result as the end of an evaluation. -/
def plain {α : Type} : Except Failure α → Except Interrupt α
  | .ok a => .ok a
  | .error cause => .error (.failing cause)

/-- A return, or a jump to a loop. -/
inductive Transfer where
  /-- A return from the function. -/
  | ret
  /-- A jump past the end of the named loop. -/
  | breakTo (target : LoopId)
  /-- A jump to the next round of the named loop. -/
  | continueTo (target : LoopId)
  deriving DecidableEq

/-- The return or jump that is in flight, if it is not a failure. -/
def Interrupt.transfer? : Interrupt → Option Transfer
  | .returning _ => some .ret
  | .breaking target => some (.breakTo target)
  | .continuing target => some (.continueTo target)
  | .failing _ => none

/-- The return or jump an evaluation ends with, if it does. -/
def transferOf {α : Type} : Except Interrupt α → Option Transfer
  | .ok _ => none
  | .error i => i.transfer?

/-- The truth value that a condition is found to be. -/
def truth : Outcome → Except Interrupt Bool
  | .ok a => plain a.asBool
  | .error i => .error i

/-- Whether a loop goes on after its body.  Only the jumps that name the loop are meant
for it. -/
def roundEnd (id : LoopId) : Outcome → Except Interrupt Bool
  | .ok _ => .ok true
  | .error (.breaking target) =>
      if target = id then .ok false else .error (.breaking target)
  | .error (.continuing target) =>
      if target = id then .ok true else .error (.continuing target)
  | .error i => .error i

/-- What a call makes of the outcome of the body. -/
def settled (callee : SymbolId) : Outcome → Outcome
  | .ok a => .ok a
  | .error (.returning a) => .ok a
  | .error (.breaking _) => .error (.failing (.abnormalExit callee))
  | .error (.continuing _) => .error (.failing (.abnormalExit callee))
  | .error (.failing cause) => .error (.failing cause)

/-! ### Results -/

/-- A failed result comes from a failed root, from the unit value, or from a return or jump
that nothing intercepts. -/
theorem conclude_eq_error {o : Outcome} {f : Failure} (h : conclude o = .error f) :
    o = .error (.failing f) ∨ (o = .ok .unit ∧ f = .notALiteral) ∨
      ((∃ t, transferOf o = some t) ∧
        f = .unsupported "control transfer outside of a function") := by
  cases o with
  | ok a =>
    cases a <;> cases h
    exact .inr (.inl ⟨rfl, rfl⟩)
  | error i =>
    cases i with
    | failing cause =>
      cases h
      exact .inl rfl
    | _ =>
      cases h
      exact .inr (.inr ⟨⟨_, rfl⟩, rfl⟩)

/-! ### Runs -/

theorem ofExcept_apply {α : Type} (e : Except Failure α) (s : State) :
    ofExcept e s = ending (plain e) s := by
  cases e <;> rfl

theorem evalCondition_apply (eval : Node → Run Value) (q : Node) (s : State) :
    evalCondition eval q s = ending (truth (outcome (eval q s))) (final (eval q s)) := by
  rw [evalCondition, bind_apply]
  cases eval q s with
  | ok a t => exact ofExcept_apply a.asBool t
  | error i t => rfl

theorem interceptJump_apply (id : LoopId) (x : Run Value) (s : State) :
    interceptJump id x s = ending (roundEnd id (outcome (x s))) (final (x s)) := by
  unfold interceptJump
  cases x s with
  | ok a t => rfl
  | error i t =>
    cases i with
    | returning a => rfl
    | failing cause => rfl
    | breaking target =>
      by_cases htarget : target = id
      · simp [roundEnd, ending, htarget]
      · simp [roundEnd, ending, htarget]
    | continuing target =>
      by_cases htarget : target = id
      · simp [roundEnd, ending, htarget]
      · simp [roundEnd, ending, htarget]

theorem settle_apply (callee : SymbolId) (x : Run Value) (s : State) :
    settle callee x s = ending (settled callee (outcome (x s))) (final (x s)) := by
  unfold settle
  cases x s with
  | ok a t => rfl
  | error i t => cases i <;> rfl

/-- An activation gives what its run gives in the frame. -/
theorem outcome_inFrame {α : Type} (f : Frame) (x : Run α) (s : State) :
    outcome (inFrame f x s) = outcome (x { s with frame := f }) := by
  unfold inFrame
  cases x { s with frame := f } <;> rfl

/-- An activation ends in the frame it started from, with the budget its run leaves. -/
theorem final_inFrame {α : Type} (f : Frame) (x : Run α) (s : State) :
    final (inFrame f x s) = { final (x { s with frame := f }) with frame := s.frame } := by
  unfold inFrame
  cases x { s with frame := f } <;> rfl

end ConstFold
