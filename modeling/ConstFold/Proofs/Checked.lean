import ConstFold.Evaluator
import ConstFold.Proofs.Outcomes

/-!
# The evaluator with its partial operations checked

The evaluator counts with numbers that have no bound, takes lists apart by their shape, and
divides by zero as well as by any other number.  Here it is run once more on a machine, where
none of this can be taken for granted: the counters are words, an element of a list is
picked by its index, and each operation that is not defined everywhere is checked where it
is used.  An operation outside its domain is a fault, which nothing intercepts.

Guards and operations stand where they belong, which is not always side by side.  The
nesting is compared with its limit before it is counted up, and counted down when the node
is done; the arity of an operator is checked when its slots are filled, and its operands are
picked later.

## Main definitions

* `Fault`, `Machine`, `Checked` — faults, the state of a machine, and runs on it.
* `Word.add`, `Word.sub`, `Checked.index`, `Checked.divide` — the partial operations.
* `Checked.evalCall`, `Checked.evalNode` — calls with their slots picked by number, and nodes.
* `Checked.foldAll` — the fold of nodes in turn.
-/

namespace ConstFold

/-! ### Faults and words -/

/-- What can go wrong with a partial operation. -/
inductive Fault where
  /-- An element is picked beyond the end of its list. -/
  | indexOutOfBounds
  /-- A sum of words is no word. -/
  | overflow
  /-- A difference of words is negative. -/
  | underflow
  /-- A number is divided by zero. -/
  | zeroDivisor
  /-- The bound on the recursion was too small for the run. -/
  | unfinished
  deriving DecidableEq, Repr, Inhabited

namespace Word

/-- The sum of words, if it is one. -/
def add (a b : UInt64) : Except Fault UInt64 :=
  if a.toNat + b.toNat < UInt64.size then .ok (a + b) else .error .overflow

/-- The difference of words, if it is not negative. -/
def sub (a b : UInt64) : Except Fault UInt64 :=
  if b ≤ a then .ok (a - b) else .error .underflow

end Word

/-! ### Machines -/

/-- The limits of a request, as words. -/
structure WordLimits where
  /-- How many steps the request may take. -/
  maxSteps : UInt64
  /-- How deep node evaluations may nest. -/
  maxDepth : UInt64

/-- What stays the same during a request. -/
structure WordContext where
  /-- The limits of the request. -/
  limits : WordLimits
  /-- The functions that can be called. -/
  program : Program
  /-- The operators that can be called. -/
  operators : OperatorTable

/-- The context, with numbers for words. -/
def WordContext.toContext (c : WordContext) : Context :=
  ⟨⟨c.limits.maxSteps.toNat, c.limits.maxDepth.toNat⟩, c.program, c.operators⟩

/-- What a run on a machine can change. -/
structure Machine where
  /-- The number of steps granted. -/
  limit : UInt64
  /-- The number of steps left. -/
  remaining : UInt64
  /-- How many nodes are being evaluated. -/
  depth : UInt64
  /-- The frame of the current activation. -/
  frame : Frame

namespace Machine

/-- A machine that has done nothing yet. -/
def start (limits : WordLimits) : Machine := ⟨limits.maxSteps, limits.maxSteps, 0, .empty⟩

/-- The machine one level deeper. -/
def down (w : Machine) : Except Fault Machine := do
  let depth ← Word.add w.depth 1
  return { w with depth }

/-- The machine one level higher. -/
def up (w : Machine) : Except Fault Machine := do
  let depth ← Word.sub w.depth 1
  return { w with depth }

/-- The machine after one more step. -/
def step (w : Machine) : Except Fault Machine := do
  let remaining ← Word.sub w.remaining 1
  return { w with remaining }

/-- The number of steps used. -/
def used (w : Machine) : Except Fault UInt64 := Word.sub w.limit w.remaining

end Machine

/-- A piece of evaluation on a machine.  Unless there is a fault, it ends in a value or an
interrupt, with the machine in some state in either case. -/
abbrev Checked (α : Type) := ExceptT Interrupt (StateT Machine (Except Fault)) α

namespace Checked

variable {α : Type}

/-! ### Runs on a machine -/

/-- A run with a fault. -/
def fault (f : Fault) : Checked α := fun _ => .error f

/-- A run that ends at once. -/
def ofOutcome (o : Except Interrupt α) : Checked α := fun w => .ok (o, w)

/-- A plain result, or its failure, as a run. -/
def ofExcept (e : Except Failure α) : Checked α := ofOutcome (plain e)

/-- A run of which another outcome is made. -/
def mapped {β : Type} (φ : Except Interrupt α → Except Interrupt β) (x : Checked α) :
    Checked β := fun w => do
  let (o, w) ← x w
  return (φ o, w)

/-- A run in a frame of its own, after which the current frame is back. -/
def inFrame (frame : Frame) (x : Checked α) : Checked α := fun w => do
  let (o, w') ← x { w with frame }
  return (o, { w' with frame := w.frame })

/-- The value of a variable of the current frame. -/
def read (v : VariableId) : Checked Value := fun w => ofExcept (w.frame.read v) w

/-- Binds a variable of the current frame. -/
def bindVariable (v : VariableId) (value : Value) : Checked Unit := fun w =>
  .ok (.ok (), { w with frame := w.frame.insert v value })

/-- To run out of fuel is a fault, as no run on a machine is taken to be cut off. -/
instance : RunLike Checked where
  interrupt i := ofOutcome (.error i)
  ofExcept := ofExcept
  outOfFuel := fault .unfinished
  read := read
  bindVariable := bindVariable
  interceptJump id round := round.mapped (roundEnd id)
  activate callee frame body := (body.inFrame frame).mapped (settled callee)

/-! ### Partial operations -/

/-- The element of a list at an index, which has to be within the list. -/
def index (l : List α) (i : Nat) : Checked α :=
  match l[i]? with
  | some a => pure a
  | none => fault .indexOutOfBounds

/-- A division, which may be the quotient or the remainder, by a divisor that has to be
another number than zero.  The least integer divided by `-1` wraps to itself. -/
def divide (operation : Int32 → Int32 → Int32) (i j : Int32) : Checked Int32 :=
  if j = 0 then fault .zeroDivisor else pure (operation i j)

/-! ### Operators -/

/-- A division after a look at the divisor. -/
def divideGuarded (operation : Int32 → Int32 → Int32) (i j : Int32) : Checked Int32 := do
  if j = 0 then ofExcept (.error .divisionByZero)
  divide operation i j

/-- The function behind an operator on two integers.  That of two operators is partial. -/
def intFunction (f : Int32 → Int32 → Except Failure Int32) : Builtin → Int32 → Int32 → Checked Int32
  | .intDiv => divideGuarded fun i j => i / j
  | .intRem => divideGuarded fun i j => i % j
  | _ => fun i j => ofExcept (f i j)

/-- Compares the number of arguments with the arity. -/
def checkArity (expected found : Nat) : Checked Unit :=
  if expected = found then pure () else ofExcept (.error (.arityMismatch expected found))

/-- An operator on evaluated arguments. -/
def apply (b : Builtin) (args : List Value) : Checked Value := do
  checkArity b.combinator.arity args.length
  match b.combinator with
  | .intUnary f =>
      let i ← ofExcept (← index args 0).asInt
      return .int (f i)
  | .intBinary f =>
      let i ← ofExcept (← index args 0).asInt
      let j ← ofExcept (← index args 1).asInt
      return .int (← intFunction f b i j)
  | .intCompare f =>
      let i ← ofExcept (← index args 0).asInt
      let j ← ofExcept (← index args 1).asInt
      return .bool (f i j)
  | .boolUnary f =>
      let p ← ofExcept (← index args 0).asBool
      return .bool (f p)
  | .shortCircuit _ combine =>
      let p ← ofExcept (← index args 0).asBool
      let q ← ofExcept (← index args 1).asBool
      return .bool (combine p q)
  | .textBinary f =>
      let s ← ofExcept (← index args 0).asText
      let t ← ofExcept (← index args 1).asText
      return .text (f s t)

/-! ### Slots -/

section Slots

variable (callee : SymbolId) (parameters? : Option (List Parameter))
  (arguments : List (Option Node))

/-- The default of a slot.  The parameter is picked by the number of the slot. -/
def default? (i : Nat) : Checked (Option Node) :=
  match parameters? with
  | some parameters => return (← index parameters i).default?
  | none => return none

/-- What fills a slot: the argument if one is supplied, else the default. -/
def slot (i : Nat) : Checked Node := do
  match arguments[i]?.join with
  | some node => return node
  | none =>
      match ← default? parameters? i with
      | some node => return node
      | none => ofExcept (.error (.missingArgument callee i))

/-- The slots from number `i` on, `count` of them. -/
def slotsFrom (i : Nat) : (count : Nat) → Checked (List Node)
  | 0 => return []
  | count + 1 => do
      let node ← slot callee parameters? arguments i
      let rest ← slotsFrom (i + 1) count
      return node :: rest

/-- The slots of a call. -/
def callSlots : Checked (List Node) :=
  match parameters? with
  | some parameters => do
      if parameters.length < arguments.length then
        ofExcept (.error (.arityMismatch parameters.length arguments.length))
      slotsFrom callee parameters? arguments 0 parameters.length
  | none => slotsFrom callee parameters? arguments 0 arguments.length

end Slots

/-! ### Calls -/

section Calls

variable (eval : Node → Checked Value)

/-- Binds the parameters to their slots in a fresh frame, and runs the body there. -/
def inline (callee : SymbolId) (parameters : List Parameter) (body : Body)
    (arguments : List (Option Node)) : Checked Value := do
  let slots ← callSlots callee (some parameters) arguments
  let frame ← evalSlots eval .empty ((parameters.map (·.variableId)).zip slots)
  RunLike.activate callee frame (evalBody eval body)

/-- Evaluates the operands of an operator whose slots are filled, and applies it. -/
def applyTo (b : Builtin) (slots : List Node) : Checked Value := do
  checkArity b.combinator.arity slots.length
  match b.combinator.decides? with
  | some decides =>
      let left ← eval (← index slots 0)
      if decides (← ofExcept left.asBool) then return left
      let right ← eval (← index slots 1)
      apply b [left, right]
  | none =>
      let args ← evalAll eval slots
      apply b args

/-- A call of a symbol without a body, given its declared parameters if any. -/
def evalOperator (operators : OperatorTable) (callee : SymbolId)
    (parameters? : Option (List Parameter)) (arguments : List (Option Node)) : Checked Value :=
  match operators.get? callee with
  | none => ofExcept (.error (.unknownCallee callee))
  | some b => do
      let slots ← callSlots callee parameters? arguments
      applyTo eval b slots

/-- A call, which fills its slots and checks its arity by itself. -/
def evalCall (c : WordContext) (callee : SymbolId) (arguments : List (Option Node)) :
    Checked Value :=
  match c.program.get? callee with
  | some ⟨_, parameters, some body⟩ => inline eval callee parameters body arguments
  | some ⟨_, parameters, none⟩ => evalOperator eval c.operators callee (some parameters) arguments
  | none => evalOperator eval c.operators callee none arguments

end Calls

/-! ### Nodes -/

/-- Takes one step, unless none is left. -/
def charge : Checked Unit := fun w => do
  if w.remaining = 0 then
    ofExcept (.error (.stepsExhausted w.limit.toNat)) w
  else return (.ok (), ← w.step)

/-- Compares the nesting with its limit. -/
def checkDepth (maxDepth : UInt64) : Checked Unit := fun w =>
  if maxDepth ≤ w.depth then ofExcept (.error (.depthExceeded maxDepth.toNat)) w
  else .ok (.ok (), w)

/-- Counts one level up, runs, and counts it down again. -/
def nested (x : Checked α) : Checked α := fun w => do
  let (o, w) ← x (← w.down)
  return (o, ← w.up)

/-- Evaluates a node. -/
def evalNode (c : WordContext) : (fuel : Nat) → Node → Checked Value
  | 0, _ => fault .unfinished
  | fuel + 1, node => do
      charge
      checkDepth c.limits.maxDepth
      let eval := evalNode c fuel
      nested (evalFormWith (evalCall eval c) (evalRounds eval · · · fuel) eval node)

/-! ### Folds -/

/-- Folds a node in an empty frame. -/
def fold (c : WordContext) (node : Node) (w : Machine) :
    Except Fault (Except Failure Literal × Machine) := do
  let (o, w) ← evalNode c (w.remaining.toNat + 1) node { w with frame := .empty }
  return (conclude o, w)

/-- Folds nodes in turn.  With each result stand the steps used up to then. -/
def foldAll (c : WordContext) :
    List Node → Machine → Except Fault (List (Except Failure Literal × UInt64))
  | [], _ => return []
  | node :: rest, w => do
      let (result, w) ← fold c node w
      let used ← w.used
      let results ← foldAll c rest w
      return (result, used) :: results

end Checked

end ConstFold
