import ConstFold.FloatBits

/-!
# Constants

The constants a program tree can hold.  Only integers, truth values and texts
are evaluable; the others are represented so that they can be refused by name.

## Main definitions

* `Constant`, `Constant.kindName` — constants and the names of their kinds.
* `Constant.equal` — equality in the host's sense, numeric on floating point.

## References

`SPEC_FULL.md`, section 11: `Constant`.
-/

namespace ConstFold

/-- A constant as the host represents it. -/
inductive Constant where
  /-- An integer of 32 bits. -/
  | int (i : Int32)
  /-- A truth value. -/
  | bool (b : Bool)
  /-- A text. -/
  | text (s : String)
  /-- An integer of 64 bits. -/
  | long (i : Int64)
  /-- A single-precision number, by its bits. -/
  | float (bits : UInt32)
  /-- A double-precision number, by its bits. -/
  | double (bits : UInt64)
  /-- A character. -/
  | char (c : Char)
  /-- The null reference. -/
  | null
  deriving DecidableEq, Repr, Inhabited

namespace Constant

/-- The name of a constant's kind in the host's language. -/
def kindName : Constant → String
  | .int _ => "Int"
  | .bool _ => "Boolean"
  | .text _ => "String"
  | .long _ => "Long"
  | .float _ => "Float"
  | .double _ => "Double"
  | .char _ => "Char"
  | .null => "Null"

/-- Equality of constants: those of different kinds differ, and floating-point
constants compare as numbers. -/
def equal : Constant → Constant → Bool
  | .int a, .int b => a == b
  | .bool a, .bool b => a == b
  | .text a, .text b => a == b
  | .long a, .long b => a == b
  | .float a, .float b => FloatFormat.single.equal a.toNat b.toNat
  | .double a, .double b => FloatFormat.double.equal a.toNat b.toNat
  | .char a, .char b => a == b
  | .null, .null => true
  | _, _ => false

end Constant

end ConstFold
