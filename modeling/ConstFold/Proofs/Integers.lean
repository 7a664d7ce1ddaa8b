import ConstFold.Proofs.Expressions
import Mathlib.Data.Int.ModEq

/-!
# Integer arithmetic

Sums, differences, products, successors, predecessors and complements of integers are those of the
unbounded integers, brought back into the range of 32 bits.  Bringing back commutes with all of
them, so that a whole tree of them can be computed exactly and brought back once, at the end: what
overflows on the way does not matter.  Division does not commute with it, but a quotient and a
remainder of the same operands still fit together.

## Main definitions

* `Arithmetic` — trees of integer constants and the operators that commute with wrapping.
* `Arithmetic.value` — the value of a tree in the unbounded integers.
* `Arithmetic.toExpression` — a tree as an expression, if its operators are not declared.

## Main results

* `eq_toInt_ofInt_iff` — an integer of 32 bits is known by its residue.
* `Arithmetic.denote_toExpression` — **a tree denotes its exact value, wrapped once.**
* `fold_arithmetic` — the same of the evaluator, as a congruence.
* `apply_division` — quotients and remainders.
-/

namespace ConstFold

/-! ### Residues -/

/-- An integer of 32 bits is congruent to what it was brought back from. -/
theorem toInt_ofInt_modEq (i : Int) : (Int32.ofInt i).toInt ≡ i [ZMOD 2 ^ 32] := by
  rw [Int32.toInt_ofInt]
  exact Int.bmod_emod

/-- **An integer of 32 bits is known by its residue.** -/
theorem eq_toInt_ofInt_iff {i j : Int} (hlow : -2 ^ 31 ≤ j) (hhigh : j < 2 ^ 31) :
    j = (Int32.ofInt i).toInt ↔ j ≡ i [ZMOD 2 ^ 32] := by
  constructor
  · rintro rfl
    exact toInt_ofInt_modEq i
  · intro h
    have hle := (Int32.ofInt i).le_toInt
    have hlt := (Int32.ofInt i).toInt_lt
    have hmod := h.trans (toInt_ofInt_modEq i).symm
    unfold Int.ModEq at hmod
    omega

/-! ### Trees -/

/-- Integer constants under operators that commute with wrapping. -/
inductive Arithmetic where
  /-- A constant. -/
  | int (i : Int32)
  /-- A sum. -/
  | plus (l r : Arithmetic)
  /-- A difference. -/
  | minus (l r : Arithmetic)
  /-- A product. -/
  | times (l r : Arithmetic)
  /-- A successor. -/
  | inc (t : Arithmetic)
  /-- A predecessor. -/
  | dec (t : Arithmetic)
  /-- A complement. -/
  | inv (t : Arithmetic)

namespace Arithmetic

/-- The operators of the trees. -/
def operators : List Builtin := [.intPlus, .intMinus, .intTimes, .intInc, .intDec, .intInv]

/-- The tree as a node. -/
def toNode : Arithmetic → Node
  | int i => .int i
  | plus l r => .callBuiltin .intPlus [l.toNode, r.toNode]
  | minus l r => .callBuiltin .intMinus [l.toNode, r.toNode]
  | times l r => .callBuiltin .intTimes [l.toNode, r.toNode]
  | inc t => .callBuiltin .intInc [t.toNode]
  | dec t => .callBuiltin .intDec [t.toNode]
  | inv t => .callBuiltin .intInv [t.toNode]

/-- The number of nodes. -/
def size : Arithmetic → Nat
  | int _ => 1
  | plus l r | minus l r | times l r => l.size + r.size + 1
  | inc t | dec t | inv t => t.size + 1

/-- The number of levels. -/
def height : Arithmetic → Nat
  | int _ => 1
  | plus l r | minus l r | times l r => max l.height r.height + 1
  | inc t | dec t | inv t => t.height + 1

/-- The value in the unbounded integers. -/
def value : Arithmetic → Int
  | int i => i.toInt
  | plus l r => l.value + r.value
  | minus l r => l.value - r.value
  | times l r => l.value * r.value
  | inc t => t.value + 1
  | dec t => t.value - 1
  | inv t => -t.value - 1

variable {program : Program}

/-- The tree as an expression, if its operators are not declared. -/
def toExpression (h : ∀ b ∈ operators, program.get? b.symbol = none) :
    Arithmetic → Expression program .reserved .int
  | int i => .int i
  | plus l r => .call _ .intPlus (OperatorTable.get?_reserved _) (h _ (by decide))
      (.cons (l.toExpression h) (.cons (r.toExpression h) .nil))
  | minus l r => .call _ .intMinus (OperatorTable.get?_reserved _) (h _ (by decide))
      (.cons (l.toExpression h) (.cons (r.toExpression h) .nil))
  | times l r => .call _ .intTimes (OperatorTable.get?_reserved _) (h _ (by decide))
      (.cons (l.toExpression h) (.cons (r.toExpression h) .nil))
  | inc t => .call _ .intInc (OperatorTable.get?_reserved _) (h _ (by decide))
      (.cons (t.toExpression h) .nil)
  | dec t => .call _ .intDec (OperatorTable.get?_reserved _) (h _ (by decide))
      (.cons (t.toExpression h) .nil)
  | inv t => .call _ .intInv (OperatorTable.get?_reserved _) (h _ (by decide))
      (.cons (t.toExpression h) .nil)

variable (h : ∀ b ∈ operators, program.get? b.symbol = none)

theorem toNode_toExpression (t : Arithmetic) : (t.toExpression h).toNode = t.toNode := by
  induction t with
  | int i => rfl
  | plus l r hl hr | minus l r hl hr | times l r hl hr =>
    simp [toExpression, toNode, Expression.toNode, Arguments.toNodes, Node.callBuiltin, hl, hr]
  | inc t ht | dec t ht | inv t ht =>
    simp [toExpression, toNode, Expression.toNode, Arguments.toNodes, Node.callBuiltin, ht]

theorem size_toExpression (t : Arithmetic) : (t.toExpression h).size = t.size := by
  induction t with
  | int i => rfl
  | plus l r hl hr | minus l r hl hr | times l r hl hr =>
    simp [toExpression, size, Expression.size, Arguments.size, hl, hr]
  | inc t ht | dec t ht | inv t ht =>
    simp [toExpression, size, Expression.size, Arguments.size, ht]

theorem height_toExpression (t : Arithmetic) : (t.toExpression h).height = t.height := by
  induction t with
  | int i => rfl
  | plus l r hl hr | minus l r hl hr | times l r hl hr =>
    simp [toExpression, height, Expression.height, Arguments.height, hl, hr]
  | inc t ht | dec t ht | inv t ht =>
    simp [toExpression, height, Expression.height, Arguments.height, ht]

/-- **A tree denotes its exact value, wrapped once.** -/
theorem denote_toExpression (t : Arithmetic) :
    (t.toExpression h).denote = some (Int32.ofInt t.value) := by
  induction t with
  | int i => exact congrArg some i.ofInt_toInt.symm
  | plus l r hl hr =>
    show Builtin.strictly (Builtin.wrapping (· + ·)) (l.toExpression h).denote _ = _
    rw [hl, hr, value, Int32.ofInt_add]
    exact Builtin.wrapping_add _ _
  | minus l r hl hr =>
    show Builtin.strictly (Builtin.wrapping (· - ·)) (l.toExpression h).denote _ = _
    rw [hl, hr, value, Int32.ofInt_sub]
    exact Builtin.wrapping_sub _ _
  | times l r hl hr =>
    show Builtin.strictly (Builtin.wrapping (· * ·)) (l.toExpression h).denote _ = _
    rw [hl, hr, value, Int32.ofInt_mul]
    exact Builtin.wrapping_mul _ _
  | inc t ht =>
    show (t.toExpression h).denote.map (fun i : Int32 => Int32.ofInt (i.toInt + 1)) = _
    rw [ht, value, Int32.ofInt_add]
    exact Builtin.wrapping_add _ 1
  | dec t ht =>
    show (t.toExpression h).denote.map (fun i : Int32 => Int32.ofInt (i.toInt - 1)) = _
    rw [ht, value, Int32.ofInt_sub]
    exact Builtin.wrapping_sub _ 1
  | inv t ht =>
    show (t.toExpression h).denote.map (fun i : Int32 => Int32.ofInt (-i.toInt - 1)) = _
    rw [ht, value, Option.map_some, Int32.ofInt_sub, Int32.ofInt_sub, Int32.ofInt_neg,
      Int32.ofInt_neg, Int32.ofInt_toInt]

end Arithmetic

/-! ### The evaluator -/

/-- **Integers are folded exactly, modulo `2 ^ 32`.**  A tree whose operators are not declared, with
a step for each node and a level for each level, is folded to the one integer of 32 bits that is
congruent to its value in the unbounded integers, whatever overflows on the way. -/
theorem fold_arithmetic (t : Arithmetic) (limits : Limits) (program : Program)
    (h : ∀ b ∈ Arithmetic.operators, program.get? b.symbol = none)
    (hsteps : t.size ≤ limits.maxSteps) (hlevels : t.height ≤ limits.maxDepth) :
    ∃ x : Int32, fold ⟨limits, program, .reserved⟩ t.toNode = .ok (.int x) ∧
      -2 ^ 31 ≤ x.toInt ∧ x.toInt < 2 ^ 31 ∧ x.toInt ≡ t.value [ZMOD 2 ^ 32] ∧
        ∀ y : Int, -2 ^ 31 ≤ y → y < 2 ^ 31 → y ≡ t.value [ZMOD 2 ^ 32] → y = x.toInt := by
  refine ⟨.ofInt t.value, ?_, Int32.le_toInt _, Int32.toInt_lt _, toInt_ofInt_modEq _,
    fun y hlow hhigh => (eq_toInt_ofInt_iff hlow hhigh).2⟩
  rw [← t.toNode_toExpression h]
  rw [← t.size_toExpression h] at hsteps
  rw [← t.height_toExpression h] at hlevels
  exact (t.toExpression h).fold_eq_ok (t.denote_toExpression h) rfl hsteps hlevels

/-- The square of the greatest integer overflows, and the exact value of its successor is
`2 ^ 62 - 2 ^ 32 + 2`. -/
theorem fold_arithmetic_overflowing :
    let t := Arithmetic.inc (.times (.int Int32.maxValue) (.int Int32.maxValue))
    t.value = 2 ^ 62 - 2 ^ 32 + 2 ∧
    ∃ x : Int32, fold ⟨⟨4, 3⟩, .empty, .reserved⟩ t.toNode = .ok (.int x) ∧
      -2 ^ 31 ≤ x.toInt ∧ x.toInt < 2 ^ 31 ∧ x.toInt ≡ t.value [ZMOD 2 ^ 32] ∧
        ∀ y : Int, -2 ^ 31 ≤ y → y < 2 ^ 31 → y ≡ t.value [ZMOD 2 ^ 32] → y = x.toInt :=
  ⟨by decide, fold_arithmetic _ ⟨4, 3⟩ .empty (fun _ _ => rfl) (by decide) (by decide)⟩

/-! ### Division -/

/-- A quotient and a remainder of the same operands add up to the dividend. -/
theorem div_mul_add_mod (l r : Int32) : l / r * r + l % r = l := by
  rw [← Builtin.ofInt_tdiv_toInt, ← Builtin.ofInt_tmod_toInt]
  calc Int32.ofInt (l.toInt.tdiv r.toInt) * r + Int32.ofInt (l.toInt.tmod r.toInt)
      = Int32.ofInt (l.toInt.tdiv r.toInt * r.toInt + l.toInt.tmod r.toInt) := by
        rw [Int32.ofInt_add, Int32.ofInt_mul, r.ofInt_toInt]
    _ = l := by rw [Int.tdiv_mul_add_tmod, l.ofInt_toInt]

/-- The quotient is the exact one toward zero, unless that is out of range. -/
theorem toInt_div_of_ne {l r : Int32} (h : ¬ (l = .minValue ∧ r = -1)) :
    (l / r).toInt = l.toInt.tdiv r.toInt := by
  by_cases hl : l = .minValue
  · exact Int32.toInt_div_of_ne_right _ _ fun hr => h ⟨hl, hr⟩
  · exact Int32.toInt_div_of_ne_left _ _ hl

/-- A remainder is zero or has the sign of the dividend. -/
theorem mod_eq_zero_or_sign_eq (l r : Int32) :
    l % r = 0 ∨ (l % r).toInt.sign = l.toInt.sign := by
  rw [← Int32.toInt_inj, Int32.toInt_mod, Int.sign_tmod]
  by_cases h : r.toInt ∣ l.toInt
  · exact .inl (Int.tmod_eq_zero_of_dvd h)
  · exact .inr (if_neg h)

/-- A remainder is smaller than the divisor. -/
theorem natAbs_toInt_mod_lt (l : Int32) {r : Int32} (hr : r ≠ 0) :
    (l % r).toInt.natAbs < r.toInt.natAbs := by
  rw [Int32.toInt_mod, Int.natAbs_tmod]
  exact Nat.mod_lt _ (Int.natAbs_pos.2 fun h => hr (Int32.toInt_inj.1 h))

open Builtin in
/-- **Quotients and remainders fit together.**  To divide by zero fails for both.  By any other
divisor there is a quotient and a remainder, such that the product of the quotient and the divisor
plus the remainder is the dividend, with operators that wrap.  The remainder is smaller than the
divisor, and zero or of the sign of the dividend.  The quotient is the exact one toward zero,
except for the one that is out of range and wraps. -/
theorem apply_division (l r : Int32) :
    (r = 0 → intDiv.combinator.apply [.int l, .int r] = .error .divisionByZero ∧
      intRem.combinator.apply [.int l, .int r] = .error .divisionByZero) ∧
    (r ≠ 0 → ∃ q m : Int32,
      intDiv.combinator.apply [.int l, .int r] = .ok (.int q) ∧
      intRem.combinator.apply [.int l, .int r] = .ok (.int m) ∧
      (intTimes.combinator.apply [.int q, .int r] >>= fun p =>
        intPlus.combinator.apply [p, .int m]) = .ok (.int l) ∧
      |m.toInt| < |r.toInt| ∧ (m = 0 ∨ m.toInt.sign = l.toInt.sign) ∧
      (¬ (l = Int32.minValue ∧ r = -1) → q.toInt = l.toInt.tdiv r.toInt) ∧
      (l = Int32.minValue ∧ r = -1 → q = Int32.minValue ∧ m = 0)) := by
  have hdiv := apply_intBinary l r quotient
  have hrem := apply_intBinary l r remainder
  refine ⟨fun hr => ?_, fun hr => ⟨l / r, l % r, ?_, ?_, ?_, ?_, mod_eq_zero_or_sign_eq l r,
    toInt_div_of_ne, ?_⟩⟩
  · rw [quotient, if_pos hr] at hdiv
    rw [remainder, if_pos hr] at hrem
    exact ⟨hdiv, hrem⟩
  · rwa [quotient, if_neg hr] at hdiv
  · rwa [remainder, if_neg hr] at hrem
  · show Except.ok (Value.int (l / r * r + l % r)) = _
    rw [div_mul_add_mod]
  · rw [Int.abs_eq_natAbs, Int.abs_eq_natAbs, Int.ofNat_lt]
    exact natAbs_toInt_mod_lt l hr
  · rintro ⟨rfl, rfl⟩
    exact ⟨rfl, rfl⟩

end ConstFold
