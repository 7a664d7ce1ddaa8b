import ConstFold.Evaluator

/-!
# Sessions

A session holds what many requests of one host share: its operators, and the
limits of a request that brings none of its own.  Each request has a budget of its
own.

## References

`SPEC_FULL.md`, sections 10 and 14.3: `Session`.
-/

namespace ConstFold

/-- The operators and limits shared by many requests. -/
structure Session where
  /-- The host's operators. -/
  operators : OperatorTable
  /-- The limits of a request that brings none. -/
  limits : Limits

namespace Session

/-- Folds a node within limits of its own. -/
def foldWithin (session : Session) (limits : Limits) (program : Program) (node : Node) :
    Except Failure Literal :=
  ConstFold.fold ⟨limits, program, session.operators⟩ node

/-- Folds a node within the limits of the session. -/
def fold (session : Session) (program : Program) (node : Node) : Except Failure Literal :=
  session.foldWithin session.limits program node

end Session

end ConstFold
