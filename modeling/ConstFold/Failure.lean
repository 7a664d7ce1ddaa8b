import ConstFold.Identity

/-!
# Why a fragment does not fold

Every failure means the same to a host: leave the call site alone.  The causes
are kept apart for diagnostics, and the two that stem from a limit rather than
from the program are told apart by `Failure.isResource`.

## Main definitions

* `Kind` — the kinds of value, as diagnostics name them.
* `Failure` — the causes.
* `Failure.message` — the one place that words them.

## References

`SPEC_FULL.md`, sections 7 and 14.1: `Inapplicable`; section 12: `ValueKind`.
-/

namespace ConstFold

/-- The kind of a value. -/
inductive Kind where
  /-- Integers of 32 bits. -/
  | int
  /-- Truth values. -/
  | bool
  /-- Texts. -/
  | text
  /-- The value of statements. -/
  | unit
  deriving DecidableEq, Repr, Inhabited

/-- The name of a kind in the host's language. -/
def Kind.name : Kind → String
  | .int => "Int"
  | .bool => "Boolean"
  | .text => "String"
  | .unit => "Unit"

/-- Why a fragment could not be evaluated to a constant. -/
inductive Failure where
  /-- The node, constant or type operator lies outside the evaluable subset. -/
  | unsupported (construct : String)
  /-- The step budget is spent. -/
  | stepsExhausted (limit : Nat)
  /-- Evaluations are nested deeper than allowed. -/
  | depthExceeded (limit : Nat)
  /-- A value has another kind than its use requires. -/
  | kindMismatch (expected found : Kind)
  /-- A variable is read that holds no value in the current frame. -/
  | unboundVariable (v : VariableId)
  /-- An integer is divided by zero. -/
  | divisionByZero
  /-- A call target has no body and is no registered operator. -/
  | unknownCallee (callee : SymbolId)
  /-- A parameter has neither an argument nor a default. -/
  | missingArgument (callee : SymbolId) (index : Nat)
  /-- A call has the wrong number of arguments. -/
  | arityMismatch (expected found : Nat)
  /-- A function body was left by a jump to a loop outside it. -/
  | abnormalExit (callee : SymbolId)
  /-- The result is the unit value, which has no literal form. -/
  | notALiteral
  deriving DecidableEq, Repr, Inhabited

namespace Failure

/-- Whether a failure stems from an evaluation limit rather than from the program. -/
def isResource : Failure → Bool
  | .stepsExhausted _ | .depthExceeded _ => true
  | _ => false

/-- The wording of a failure. -/
def message : Failure → String
  | .unsupported construct => "unsupported construct: " ++ construct
  | .stepsExhausted limit => "evaluation exceeded the budget of " ++ toString limit ++ " steps"
  | .depthExceeded limit => "evaluation nested deeper than " ++ toString limit ++ " levels"
  | .kindMismatch expected found =>
      "expected a value of kind " ++ expected.name ++ ", found " ++ found.name
  | .unboundVariable v => "variable " ++ v.label ++ " has no constant value"
  | .divisionByZero => "division by zero"
  | .unknownCallee callee =>
      "call target " ++ callee.label ++ " is neither an evaluable function nor a built-in"
  | .missingArgument callee index =>
      "no argument or default for parameter " ++ toString index ++ " of " ++ callee.label
  | .arityMismatch expected found =>
      "built-in expects " ++ toString expected ++ " argument(s), got " ++ toString found
  | .abnormalExit callee => "function " ++ callee.label ++ " exited abnormally"
  | .notALiteral => "result is not a literal"

@[simp] theorem isResource_stepsExhausted (n : Nat) : (stepsExhausted n).isResource = true := rfl

@[simp] theorem isResource_depthExceeded (n : Nat) : (depthExceeded n).isResource = true := rfl

/-- The resource failures are the two that carry a limit. -/
theorem isResource_iff {f : Failure} :
    f.isResource = true ↔ ∃ n, f = .stepsExhausted n ∨ f = .depthExceeded n := by
  cases f <;> simp [isResource]

end Failure

end ConstFold
