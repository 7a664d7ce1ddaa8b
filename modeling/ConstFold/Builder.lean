import ConstFold.Operator.Table
import ConstFold.Program

/-!
# Builders

A builder hands out fresh identities and collects declarations into a program.
Variables and loops count from zero; symbols count from the first that is not
reserved for an operator.

## References

`SPEC_FULL.md`, section 11: `ProgramBuilder`.
-/

namespace ConstFold

/-- The identities handed out so far, and the program so far. -/
structure Builder where
  /-- The next variable to hand out. -/
  nextVariable : UInt32
  /-- The next loop to hand out. -/
  nextLoop : UInt32
  /-- The next symbol to hand out. -/
  nextSymbol : UInt32
  /-- The declarations collected. -/
  program : Program

namespace Builder

/-- A builder that has handed out and collected nothing. -/
def start : Builder := ⟨0, 0, Builtin.all.length.toUInt32, .empty⟩

/-- Hands out a variable. -/
def freshVariable (b : Builder) : VariableId × Builder :=
  (⟨b.nextVariable⟩, { b with nextVariable := b.nextVariable + 1 })

/-- Hands out a loop. -/
def freshLoop (b : Builder) : LoopId × Builder :=
  (⟨b.nextLoop⟩, { b with nextLoop := b.nextLoop + 1 })

/-- Hands out a symbol. -/
def freshSymbol (b : Builder) : SymbolId × Builder :=
  (⟨b.nextSymbol⟩, { b with nextSymbol := b.nextSymbol + 1 })

/-- Declares a function under a symbol, replacing an earlier declaration. -/
def declare (b : Builder) (symbol : SymbolId) (declaration : Declaration) : Builder :=
  { b with program := b.program.insert symbol declaration }

end Builder

end ConstFold
