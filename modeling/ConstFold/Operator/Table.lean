import ConstFold.Bindings
import ConstFold.Operator.Builtin

/-!
# Operator tables

A table says which of the host's symbols stand for which operators.  Registering
a symbol again replaces its operator.

## References

`SPEC_FULL.md`, section 13: `OperatorTable`.
-/

namespace ConstFold

/-- Which symbols stand for which operators. -/
abbrev OperatorTable := Bindings SymbolId Builtin

namespace OperatorTable

/-- The table that registers every operator under the symbol reserved for it. -/
def reserved : OperatorTable := Bindings.ofList (Builtin.all.map fun b => (b.symbol, b))

/-- Each reserved symbol stands for its operator. -/
theorem get?_reserved (b : Builtin) : reserved.get? b.symbol = some b := by
  cases b <;> decide

@[simp] theorem size_reserved : reserved.size = 21 := by decide

end OperatorTable

end ConstFold
