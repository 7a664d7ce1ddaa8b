/-!
# Evaluation limits

## References

`SPEC_FULL.md`, section 14.3: `EvaluatorOptions`.
-/

namespace ConstFold

/-- The limits of one evaluation request. -/
structure Limits where
  /-- How many node evaluations the request may take, calls included. -/
  maxSteps : Nat
  /-- How deep node evaluations may nest, across calls. -/
  maxDepth : Nat
  deriving DecidableEq, Repr, Inhabited

namespace Limits

/-- The number of steps granted when the host sets no limit. -/
def defaultMaxSteps : Nat := 10000

/-- The nesting allowed when the host sets no limit: the largest 64-bit word, so that
the budget alone binds. -/
def defaultMaxDepth : Nat := 0xffffffffffffffff

/-- The limits in force when the host sets none. -/
def standard : Limits := ⟨defaultMaxSteps, defaultMaxDepth⟩

end Limits

end ConstFold
