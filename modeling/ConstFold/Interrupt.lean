import ConstFold.Value

/-!
# Interrupts

Evaluating a node gives a value or an interrupt, which unwinds the constructs
around it until one intercepts it.  A loop intercepts the jumps that name it, a
call intercepts returns, and nothing intercepts a failure.

## References

`SPEC_FULL.md`, sections 3 and 14.1: `Interrupt`, `EvaluationOutcome`.
-/

namespace ConstFold

/-- Anything but a plain value that leaves a node. -/
inductive Interrupt where
  /-- A return is in flight, with the value returned. -/
  | returning (value : Value)
  /-- A jump past the end of the named loop is in flight. -/
  | breaking (target : LoopId)
  /-- A jump to the next round of the named loop is in flight. -/
  | continuing (target : LoopId)
  /-- Evaluation cannot go on. -/
  | failing (cause : Failure)
  deriving DecidableEq, Repr, Inhabited

/-- The display of an interrupt; a failure is shown by its message. -/
def Interrupt.render : Interrupt → String
  | .returning v => "return " ++ v.render
  | .breaking l => "break@" ++ l.label
  | .continuing l => "continue@" ++ l.label
  | .failing f => f.message

end ConstFold
