import ConstFold.Proofs.LazyOperators

/-!
# What operators denote

An operator denotes a function on what its operands denote.  An operand is an integer, a truth
value or a text, or else nothing, which stands for a zero divisor that was reached in it.  The
functions are given apart from the combinators: integers are added and compared as unbounded
integers, and the result is brought back into the range of 32 bits.  Most operators denote nothing
if one of their operands does; the lazy ones need their right operand only where the left one
leaves the result open.

## Main definitions

* `Kind.Carrier`, `Kind.value` — the values of a kind, without and with their tag.
* `Operands` — what operands of given kinds denote.
* `Builtin.denote` — what an operator denotes.

## Main results

* `Builtin.elim_apply_eq_result` — **a strict operator computes what it denotes.**
* `Builtin.denote_eq_none_iff` — on values a strict operator denotes nothing only if it divides by
  zero.
-/

namespace ConstFold

/-! ### Values of a kind -/

/-- The values of a kind, without their tag. -/
abbrev Kind.Carrier : Kind → Type
  | .int => Int32
  | .bool => Bool
  | .text => String
  | .unit => Unit

/-- A value of a kind, with its tag. -/
def Kind.value : (κ : Kind) → κ.Carrier → Value
  | .int, i => .int i
  | .bool, p => .bool p
  | .text, s => .text s
  | .unit, _ => .unit

@[simp] theorem Kind.kind_value (κ : Kind) (a : κ.Carrier) : (κ.value a).kind = κ := by
  cases κ <;> rfl

/-- What is denoted as a plain result: nothing is the failure to divide by zero. -/
def Kind.result (κ : Kind) : Option κ.Carrier → Except Failure Value
  | some a => .ok (κ.value a)
  | none => .error .divisionByZero

@[simp] theorem Kind.result_some (κ : Kind) (a : κ.Carrier) :
    κ.result (some a) = .ok (κ.value a) := rfl

@[simp] theorem Kind.result_none (κ : Kind) : κ.result none = .error .divisionByZero := rfl

/-- What operands of the kinds denote, in order. -/
def Operands : List Kind → Type
  | [] => Unit
  | κ :: κs => Option κ.Carrier × Operands κs

/-- The values of operands that all denote one. -/
def Operands.values? : {κs : List Kind} → Operands κs → Option (List Value)
  | [], _ => some []
  | κ :: _, (x, xs) => x.bind fun a => (values? xs).map (κ.value a :: ·)

theorem Operands.eq_of_values?_one {κ : Kind} {xs : Operands [κ]} {vs : List Value}
    (h : xs.values? = some vs) : ∃ a, xs = (some a, ()) ∧ vs = [κ.value a] := by
  obtain ⟨_ | a, _⟩ := xs
  · cases h
  · cases h
    exact ⟨a, rfl, rfl⟩

theorem Operands.eq_of_values?_two {κ κ' : Kind} {xs : Operands [κ, κ']} {vs : List Value}
    (h : xs.values? = some vs) :
    ∃ a a', xs = (some a, some a', ()) ∧ vs = [κ.value a, κ'.value a'] := by
  obtain ⟨_ | a, _ | a', _⟩ := xs
  · cases h
  · cases h
  · cases h
  · cases h
    exact ⟨a, a', rfl, rfl⟩

namespace Builtin

/-! ### Functions of operators -/

/-- A function of integers, brought back into the range of 32 bits. -/
def wrapping (g : Int → Int → Int) (i j : Int32) : Option Int32 :=
  some (.ofInt (g i.toInt j.toInt))

/-- The same, except that there is nothing to divide by zero. -/
def dividing (g : Int → Int → Int) (i j : Int32) : Option Int32 :=
  if j = 0 then none else wrapping g i j

/-- A function of words. -/
def bitwise (g : BitVec 32 → BitVec 32 → BitVec 32) (i j : Int32) : Option Int32 :=
  some (.ofBitVec (g i.toBitVec j.toBitVec))

/-- A comparison of integers. -/
def comparing (g : Int → Int → Bool) (i j : Int32) : Option Bool :=
  some (g i.toInt j.toInt)

/-- A function of two operands that needs both, the left one first. -/
def strictly {α β γ : Type} (g : α → β → Option γ) (x : Option α) (y : Option β) : Option γ :=
  x.bind fun a => y.bind (g a)

/-- The left operand if it is the decisive truth value, and else the right one. -/
def lazily (decisive : Bool) (x y : Option Bool) : Option Bool :=
  x.bind fun p => if p = decisive then some decisive else y

/-- What an operator denotes.  The complement of an integer is the one that stands as far below
zero as it stands above minus one. -/
def denote : (b : Builtin) → Operands b.combinator.parameterKinds →
    Option b.combinator.resultKind.Carrier
  | .intPlus, (x, y, _) => strictly (wrapping (· + ·)) x y
  | .intMinus, (x, y, _) => strictly (wrapping (· - ·)) x y
  | .intTimes, (x, y, _) => strictly (wrapping (· * ·)) x y
  | .intDiv, (x, y, _) => strictly (dividing Int.tdiv) x y
  | .intRem, (x, y, _) => strictly (dividing Int.tmod) x y
  | .intInc, (x, _) => x.map fun i : Int32 => .ofInt (i.toInt + 1)
  | .intDec, (x, _) => x.map fun i : Int32 => .ofInt (i.toInt - 1)
  | .intAnd, (x, y, _) => strictly (bitwise (· &&& ·)) x y
  | .intOr, (x, y, _) => strictly (bitwise (· ||| ·)) x y
  | .intInv, (x, _) => x.map fun i : Int32 => .ofInt (-i.toInt - 1)
  | .intXor, (x, y, _) => strictly (bitwise (· ^^^ ·)) x y
  | .intGreater, (x, y, _) => strictly (comparing (· > ·)) x y
  | .intGreaterOrEqual, (x, y, _) => strictly (comparing (· ≥ ·)) x y
  | .intLess, (x, y, _) => strictly (comparing (· < ·)) x y
  | .intLessOrEqual, (x, y, _) => strictly (comparing (· ≤ ·)) x y
  | .intEqual, (x, y, _) => strictly (comparing (· = ·)) x y
  | .andAlso, (x, y, _) => lazily false x y
  | .orElse, (x, y, _) => lazily true x y
  | .boolNot, (x, _) => x.map fun p : Bool => !p
  | .textPlus, (x, y, _) => strictly (fun s t : String => some (s ++ t)) x y
  | .nullableTextPlus, (x, y, _) => strictly (fun s t : String => some (s ++ t)) x y

/-- The operators that divide. -/
def Divides (b : Builtin) : Prop := b = .intDiv ∨ b = .intRem

/-! ### Words and integers -/

section Words

variable (i j : Int32)

theorem ofInt_tdiv_toInt : Int32.ofInt (i.toInt.tdiv j.toInt) = i / j := by
  rw [Int32.ofInt_tdiv i.minValue_le_toInt i.toInt_le j.minValue_le_toInt j.toInt_le,
    Int32.ofInt_toInt, Int32.ofInt_toInt]

theorem ofInt_tmod_toInt : Int32.ofInt (i.toInt.tmod j.toInt) = i % j := by
  rw [Int32.ofInt_tmod i.minValue_le_toInt i.toInt_le j.minValue_le_toInt j.toInt_le,
    Int32.ofInt_toInt, Int32.ofInt_toInt]

theorem ofInt_neg_toInt_sub_one : Int32.ofInt (-i.toInt - 1) = ~~~i := by
  rw [Int32.ofInt_sub, Int32.ofInt_neg, Int32.ofInt_toInt, Int32.not_eq_neg_add]
  rfl

theorem dividing_eq_none_iff (g : Int → Int → Int) : dividing g i j = none ↔ j = 0 := by
  simp [dividing, wrapping]

/-- The quotient is the exact one toward zero, brought back into range. -/
theorem result_dividing_tdiv :
    Kind.result .int (dividing Int.tdiv i j) = (quotient i j).map Value.int := by
  unfold dividing quotient
  split
  · rfl
  · rw [wrapping, ofInt_tdiv_toInt]
    rfl

/-- The remainder is the exact one. -/
theorem result_dividing_tmod :
    Kind.result .int (dividing Int.tmod i j) = (remainder i j).map Value.int := by
  unfold dividing remainder
  split
  · rfl
  · rw [wrapping, ofInt_tmod_toInt]
    rfl

theorem wrapping_add : wrapping (· + ·) i j = some (i + j) := by simp [wrapping]

theorem wrapping_sub : wrapping (· - ·) i j = some (i - j) := by simp [wrapping]

theorem wrapping_mul : wrapping (· * ·) i j = some (i * j) := by simp [wrapping]

theorem comparing_lt : comparing (· < ·) i j = some (decide (i < j)) := by
  simp [comparing, Int32.lt_iff_toInt_lt]

theorem comparing_le : comparing (· ≤ ·) i j = some (decide (i ≤ j)) := by
  simp [comparing, Int32.le_iff_toInt_le]

theorem comparing_eq : comparing (· = ·) i j = some (decide (i = j)) := by
  simp [comparing, Int32.toInt_inj]

/-- The combinator of a function that can fail does so where the function does. -/
theorem apply_intBinary (f : Int32 → Int32 → Except Failure Int32) :
    (Combinator.intBinary f).apply [.int i, .int j] = (f i j).map Value.int := by
  show (f i j >>= fun k => Except.ok (Value.int k)) = _
  cases f i j <;> rfl

end Words

/-! ### Strict operators -/

variable {b : Builtin} {xs : Operands b.combinator.parameterKinds}

/-- On values the combinator of a strict operator computes what it denotes. -/
theorem apply_eq_result (hb : b.decisive? = none) {vs : List Value} (h : xs.values? = some vs) :
    b.combinator.apply vs = b.combinator.resultKind.result (b.denote xs) := by
  cases b
  case andAlso | orElse => cases hb
  -- With values for the operands, both sides are the function of the operator on them.
  case intInc =>
    obtain ⟨i, rfl, rfl⟩ := Operands.eq_of_values?_one h
    exact congrArg (Kind.result .int) (wrapping_add i 1).symm
  case intDec =>
    obtain ⟨i, rfl, rfl⟩ := Operands.eq_of_values?_one h
    exact congrArg (Kind.result .int) (wrapping_sub i 1).symm
  case intInv =>
    obtain ⟨i, rfl, rfl⟩ := Operands.eq_of_values?_one h
    exact congrArg (Kind.result .int ∘ some) (ofInt_neg_toInt_sub_one i).symm
  case boolNot =>
    obtain ⟨p, rfl, rfl⟩ := Operands.eq_of_values?_one h
    rfl
  all_goals obtain ⟨i, j, rfl, rfl⟩ := Operands.eq_of_values?_two h
  case intPlus => exact congrArg (Kind.result .int) (wrapping_add i j).symm
  case intMinus => exact congrArg (Kind.result .int) (wrapping_sub i j).symm
  case intTimes => exact congrArg (Kind.result .int) (wrapping_mul i j).symm
  case intDiv => exact (apply_intBinary i j quotient).trans (result_dividing_tdiv i j).symm
  case intRem => exact (apply_intBinary i j remainder).trans (result_dividing_tmod i j).symm
  case intGreater => exact congrArg (Kind.result .bool) (comparing_lt j i).symm
  case intGreaterOrEqual => exact congrArg (Kind.result .bool) (comparing_le j i).symm
  case intLess => exact congrArg (Kind.result .bool) (comparing_lt i j).symm
  case intLessOrEqual => exact congrArg (Kind.result .bool) (comparing_le i j).symm
  case intEqual => exact congrArg (Kind.result .bool) (comparing_eq i j).symm
  all_goals rfl

/-- A strict operator denotes nothing if one of its operands does. -/
theorem denote_of_values?_eq_none (hb : b.decisive? = none) (h : xs.values? = none) :
    b.denote xs = none := by
  cases b
  case andAlso | orElse => cases hb
  case intInc | intDec | intInv | boolNot =>
    obtain ⟨_ | i, _⟩ := xs
    · rfl
    · cases h
  all_goals
    obtain ⟨_ | i, _ | j, _⟩ := xs
    · rfl
    · rfl
    · rfl
    · cases h

/-- **A strict operator computes what it denotes**, unless an operand is a zero divisor. -/
theorem elim_apply_eq_result (hb : b.decisive? = none) (xs : Operands b.combinator.parameterKinds) :
    xs.values?.elim (.error .divisionByZero) b.combinator.apply =
      b.combinator.resultKind.result (b.denote xs) := by
  cases h : xs.values? with
  | none =>
    rw [denote_of_values?_eq_none hb h]
    rfl
  | some vs => exact apply_eq_result hb h

/-- With values for all of them it denotes nothing only if it divides by zero. -/
theorem denote_eq_none_iff (hb : b.decisive? = none) {vs : List Value} (h : xs.values? = some vs) :
    b.denote xs = none ↔ b.Divides ∧ ∃ a, vs = [a, .int 0] := by
  cases b
  case andAlso | orElse => cases hb
  case intDiv | intRem =>
    obtain ⟨i, j, rfl, rfl⟩ := Operands.eq_of_values?_two h
    refine (dividing_eq_none_iff i j _).trans ⟨fun hzero => ⟨?_, Value.int i, ?_⟩, ?_⟩
    · simp [Divides]
    · rw [hzero]
      rfl
    · rintro ⟨-, a, hvs⟩
      cases hvs
      rfl
  all_goals
    refine iff_of_false (fun hnone => ?_) fun hdivides => hdivides.1.elim nofun nofun
  case intInc | intDec | intInv | boolNot =>
    obtain ⟨i, rfl, rfl⟩ := Operands.eq_of_values?_one h
    cases hnone
  all_goals
    obtain ⟨i, j, rfl, rfl⟩ := Operands.eq_of_values?_two h
    cases hnone

end Builtin

end ConstFold
