/-!
# Identities of variables, loops and functions

A host resolves its names before it asks for a fold, so a program tree carries
numbers in place of names.  The three kinds of number never mix: each has a type
of its own and a label of its own in diagnostics.

## Main definitions

* `VariableId`, `LoopId`, `SymbolId` — the identities.
* `VariableId.label`, `LoopId.label`, `SymbolId.label` — how diagnostics name them.

## References

`SPEC_FULL.md`, section 11: `VariableId`, `LoopId`, `SymbolId`.
-/

namespace ConstFold

/-- The identity of a local variable or parameter. -/
structure VariableId where
  /-- The number the host gave the variable. -/
  index : UInt32
  deriving DecidableEq, Repr, Inhabited

/-- The identity of a loop, which jumps name as their target. -/
structure LoopId where
  /-- The number the host gave the loop. -/
  index : UInt32
  deriving DecidableEq, Repr, Inhabited

/-- The identity of a function or operator, which calls name as their target. -/
structure SymbolId where
  /-- The number the host gave the symbol. -/
  index : UInt32
  deriving DecidableEq, Repr, Inhabited

/-- A variable is written `v0`, `v1`, … -/
def VariableId.label (v : VariableId) : String := "v" ++ toString v.index.toNat

/-- A loop is written `loop0`, `loop1`, … -/
def LoopId.label (l : LoopId) : String := "loop" ++ toString l.index.toNat

/-- A symbol is written `sym0`, `sym1`, … -/
def SymbolId.label (s : SymbolId) : String := "sym" ++ toString s.index.toNat

end ConstFold
