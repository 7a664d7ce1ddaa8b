import ConstFold.Value

/-!
# Combinators

The computation behind an operator.  The form of a combinator fixes how many
arguments it takes and of which kinds; what it computes is a function on plain
integers, truth values and texts.

## Main definitions

* `Combinator`, `Combinator.parameterKinds`, `Combinator.arity`.
* `Combinator.apply` — the combinator on evaluated arguments.

## References

`SPEC_FULL.md`, sections 3 and 13: `Combinator`, the combinator of an operator entry.
-/

namespace ConstFold

/-- The computation behind an operator. -/
inductive Combinator where
  /-- An integer from an integer. -/
  | intUnary (f : Int32 → Int32)
  /-- An integer, or a failure, from two integers. -/
  | intBinary (f : Int32 → Int32 → Except Failure Int32)
  /-- A truth value from two integers. -/
  | intCompare (f : Int32 → Int32 → Bool)
  /-- A truth value from a truth value. -/
  | boolUnary (f : Bool → Bool)
  /-- A truth value from two, where the left one settles the result alone if
  `decides` holds of it. -/
  | shortCircuit (decides : Bool → Bool) (combine : Bool → Bool → Bool)
  /-- A text from two texts. -/
  | textBinary (f : String → String → String)

namespace Combinator

/-- The kinds of the arguments, in order. -/
def parameterKinds : Combinator → List Kind
  | .intUnary _ => [.int]
  | .intBinary _ => [.int, .int]
  | .intCompare _ => [.int, .int]
  | .boolUnary _ => [.bool]
  | .shortCircuit _ _ => [.bool, .bool]
  | .textBinary _ => [.text, .text]

/-- The kind of the result. -/
def resultKind : Combinator → Kind
  | .intUnary _ => .int
  | .intBinary _ => .int
  | .intCompare _ => .bool
  | .boolUnary _ => .bool
  | .shortCircuit _ _ => .bool
  | .textBinary _ => .text

/-- The number of arguments. -/
def arity (c : Combinator) : Nat := c.parameterKinds.length

/-- The test on the left argument that makes the right one irrelevant, if there is one. -/
def decides? : Combinator → Option (Bool → Bool)
  | .shortCircuit decides _ => some decides
  | _ => none

/-- The combinator on evaluated arguments.  Their number is checked first, then
their kinds from left to right. -/
def apply (c : Combinator) (args : List Value) : Except Failure Value :=
  match c, args with
  | .intUnary f, [a] => do
      let i ← a.asInt
      return .int (f i)
  | .intBinary f, [a, b] => do
      let i ← a.asInt
      let j ← b.asInt
      return .int (← f i j)
  | .intCompare f, [a, b] => do
      let i ← a.asInt
      let j ← b.asInt
      return .bool (f i j)
  | .boolUnary f, [a] => do
      let p ← a.asBool
      return .bool (f p)
  | .shortCircuit _ combine, [a, b] => do
      let p ← a.asBool
      let q ← b.asBool
      return .bool (combine p q)
  | .textBinary f, [a, b] => do
      let s ← a.asText
      let t ← b.asText
      return .text (f s t)
  | c, args => .error (.arityMismatch c.arity args.length)

/-- A wrong number of arguments is a failure whatever they are. -/
theorem apply_of_length_ne {c : Combinator} {args : List Value} (h : args.length ≠ c.arity) :
    c.apply args = .error (.arityMismatch c.arity args.length) := by
  unfold apply
  split <;> first | rfl | exact absurd rfl h

end Combinator

end ConstFold
