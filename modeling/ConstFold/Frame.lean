import ConstFold.Bindings
import ConstFold.Value

/-!
# Frames

A frame holds the current values of the local variables of one activation.  Each
call gets a fresh one, and there is no link from a callee's frame to its caller's.

## References

`SPEC_FULL.md`, sections 3 and 9: `Frame`.
-/

namespace ConstFold

/-- The values of the local variables of one activation. -/
abbrev Frame := Bindings VariableId Value

namespace Frame

/-- The value of a variable; reading an unbound one is a failure. -/
def read (f : Frame) (v : VariableId) : Except Failure Value :=
  match f.get? v with
  | some value => .ok value
  | none => .error (.unboundVariable v)

theorem read_eq_ok_iff {f : Frame} {v : VariableId} {a : Value} :
    f.read v = .ok a ↔ f.get? v = some a := by
  unfold read
  cases f.get? v <;> simp

/-- A frame reads at most the value last bound. -/
@[simp] theorem read_insert_self (f : Frame) (v : VariableId) (a : Value) :
    Frame.read (f.insert v a) v = .ok a := by
  simp [read]

end Frame

end ConstFold
