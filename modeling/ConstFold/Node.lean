import ConstFold.Constant
import ConstFold.Operator.Builtin

/-!
# Program trees

A node is an expression or a statement of the fragment to be folded.  Names are
resolved to identities beforehand.  Some forms are represented only so that they
can be refused by name: most type operators, and the constants outside the
evaluable subset.

## Main definitions

* `TypeOperator`, `LoopKind`, `Node` — the trees.
* `Node.ifThen`, `Node.ifElse`, `Node.whileLoop`, `Node.doWhile`, … — the
  everyday forms in terms of them.

## References

`SPEC_FULL.md`, sections 3 and 11: `Node`, `TypeOperator`.
-/

namespace ConstFold

/-- An operator on the type of its argument. -/
inductive TypeOperator where
  /-- The value of the argument is discarded. -/
  | coercionToUnit
  /-- A cast that fails on another type. -/
  | cast
  /-- A cast that gives null on another type. -/
  | safeCast
  /-- A type test. -/
  | instanceOf
  /-- A negated type test. -/
  | notInstanceOf
  /-- A cast the host inserted. -/
  | implicitCast
  /-- A null check the host inserted. -/
  | implicitNotNull
  /-- A conversion of an integer to a wider type. -/
  | integerWidening
  deriving DecidableEq, Repr, Inhabited

namespace TypeOperator

/-- All type operators, in the order in which they are listed. -/
def all : List TypeOperator :=
  [.coercionToUnit, .cast, .safeCast, .instanceOf, .notInstanceOf, .implicitCast,
   .implicitNotNull, .integerWidening]

/-- The name of a type operator in diagnostics. -/
def name : TypeOperator → String
  | .coercionToUnit => "implicit coercion to unit"
  | .cast => "cast"
  | .safeCast => "safe cast"
  | .instanceOf => "instance-of"
  | .notInstanceOf => "not-instance-of"
  | .implicitCast => "implicit cast"
  | .implicitNotNull => "implicit not-null"
  | .integerWidening => "integer widening"

end TypeOperator

/-- Where a loop checks its condition for the first time. -/
inductive LoopKind where
  /-- Before the first round. -/
  | preTest
  /-- After the first round. -/
  | postTest
  deriving DecidableEq, Repr, Inhabited

/-- An expression or statement. -/
inductive Node where
  /-- A constant. -/
  | const (constant : Constant)
  /-- A read of a local variable or parameter. -/
  | get (v : VariableId)
  /-- An assignment. -/
  | set (v : VariableId) (value : Node)
  /-- The declaration of a local variable, which binds it only if initialized. -/
  | declare (v : VariableId) (initializer : Option Node)
  /-- Statements in order; the value is that of the last one. -/
  | block (statements : List Node)
  /-- A call.  An omitted argument is `none`. -/
  | call (callee : SymbolId) (arguments : List (Option Node))
  /-- A return from the function; without a value it returns the unit value. -/
  | ret (value : Option Node)
  /-- Pairs of a condition and a result; the first condition that holds selects. -/
  | choose (branches : List (Node × Node))
  /-- A loop. -/
  | loop (id : LoopId) (kind : LoopKind) (condition : Node) (body : Option Node)
  /-- A jump past the end of a loop. -/
  | breakTo (target : LoopId)
  /-- A jump to the next round of a loop. -/
  | continueTo (target : LoopId)
  /-- A type operator on an argument. -/
  | typeOperation (operator : TypeOperator) (argument : Node)
  deriving Inhabited

namespace Node

/-- An integer constant. -/
def int (i : Int32) : Node := .const (.int i)

/-- A truth value. -/
def bool (b : Bool) : Node := .const (.bool b)

/-- A text. -/
def text (s : String) : Node := .const (.text s)

/-- A conditional without an alternative. -/
def ifThen (condition result : Node) : Node := .choose [(condition, result)]

/-- A conditional with an alternative, which stands under a condition that always holds. -/
def ifElse (condition result alternative : Node) : Node :=
  .choose [(condition, result), (.bool true, alternative)]

/-- A loop that checks its condition before each round. -/
def whileLoop (id : LoopId) (condition : Node) (body : Option Node) : Node :=
  .loop id .preTest condition body

/-- A loop that checks its condition after each round. -/
def doWhile (id : LoopId) (body : Option Node) (condition : Node) : Node :=
  .loop id .postTest condition body

/-- An expression as a statement, its value discarded. -/
def coerceToUnit (argument : Node) : Node := .typeOperation .coercionToUnit argument

/-- A call that supplies every argument. -/
def callAll (callee : SymbolId) (arguments : List Node) : Node :=
  .call callee (arguments.map some)

/-- A call of the symbol reserved for an operator. -/
def callBuiltin (b : Builtin) (arguments : List Node) : Node := callAll b.symbol arguments

end Node

end ConstFold
