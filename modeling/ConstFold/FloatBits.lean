/-!
# Equality of binary floating-point words

A floating-point constant is kept as the word of its bits, so that no payload of
a not-a-number is lost.  Equality of two such words is the numeric one: a
not-a-number equals nothing, and the two zeros are equal.

## Main definitions

* `FloatFormat` — a binary interchange format, by its sign bit and its infinity.
* `FloatFormat.equal` — numeric equality of two words.

## Main results

* `FloatFormat.equal_self_iff` — a word equals itself unless it is a not-a-number.
* `FloatFormat.equal_comm` — the order of the words is irrelevant.
-/

namespace ConstFold

/-- A binary interchange format whose words have the sign on top and order their
magnitudes as the numbers below it. -/
structure FloatFormat where
  /-- The weight of the sign bit. -/
  signBit : Nat
  /-- The word of positive infinity; a magnitude above it is a not-a-number. -/
  infinity : Nat
  deriving DecidableEq, Repr, Inhabited

namespace FloatFormat

/-- Words of 32 bits with an exponent of 8. -/
def single : FloatFormat := ⟨0x80000000, 0x7f800000⟩

/-- Words of 64 bits with an exponent of 11. -/
def double : FloatFormat := ⟨0x8000000000000000, 0x7ff0000000000000⟩

/-- A word without its sign. -/
def magnitude (f : FloatFormat) (bits : Nat) : Nat := bits % f.signBit

/-- Whether a word is a not-a-number. -/
def isNaN (f : FloatFormat) (bits : Nat) : Bool := f.infinity < f.magnitude bits

/-- Whether a word is one of the two zeros. -/
def isZero (f : FloatFormat) (bits : Nat) : Bool := f.magnitude bits == 0

/-- Whether two words denote the same number. -/
def equal (f : FloatFormat) (a b : Nat) : Bool :=
  !f.isNaN a && !f.isNaN b && (a == b || f.isZero a && f.isZero b)

theorem equal_comm (f : FloatFormat) (a b : Nat) : f.equal a b = f.equal b a := by
  simp only [equal, Bool.and_comm (f.isZero a), Bool.and_comm (!f.isNaN a), Bool.beq_comm]

theorem equal_self_iff (f : FloatFormat) (a : Nat) : f.equal a a = true ↔ f.isNaN a = false := by
  simp [equal]

end FloatFormat

end ConstFold
