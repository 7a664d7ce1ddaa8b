import ConstFold.Evaluation.Run
import ConstFold.Limits
import ConstFold.Resolution

/-!
# Evaluation of nodes

Evaluating a node takes one step, then checks the nesting, then does what the
form of the node says, evaluating its parts one level deeper.  What a form does
is given once, for runs of any kind, by functions that take the evaluation of
parts as an argument `eval`; the evaluator ties the knot.

Recursion is on a number `fuel` that is at least the number of steps left.  Every
nested evaluation and every further round of a loop takes a step, so the budget is
spent no later than the fuel, and the answer on running out of fuel is that of a
spent budget.

## Main definitions

* `Context` — what an evaluation never changes: limits, program, operators.
* `evalFormWith`, `evalForm` — the forms of nodes, over an evaluation of their parts; the
  first leaves open what a call does and how the rounds of a loop are run.
* `enter` — what precedes every node: a step, and the check of the nesting.
* `evalNode`, `evaluate` — the evaluator, with its fuel and without.

## Main results

* `evalNode_of_remaining_eq_zero` — on a spent budget the answer is the same for
  every fuel, which is why the fuel does not show.

## References

`SPEC_FULL.md`, section 4.3 (the rule of each kind of node), section 14.3 (`max_depth`) and
section 15.
-/

namespace ConstFold

/-- What stays the same during a request. -/
structure Context where
  /-- The limits of the request. -/
  limits : Limits
  /-- The functions that can be called. -/
  program : Program
  /-- The operators that can be called. -/
  operators : OperatorTable

/-- The value of a constant of the evaluable kinds. -/
def Constant.value : Constant → Except Failure Value
  | .int i => .ok (.int i)
  | .bool b => .ok (.bool b)
  | .text s => .ok (.text s)
  | constant => .error (.unsupported constant.kindName)

/-! ### Parts in order -/

section Parts

variable {M : Type → Type} [Monad M]

/-- Evaluates statements in order.  The value is that of the last one, or `last`
if there is none. -/
@[specialize] def evalSequence (eval : Node → M Value) (last : Value) : List Node → M Value
  | [] => pure last
  | statement :: rest => do
      let value ← eval statement
      evalSequence eval value rest

@[simp] theorem evalSequence_nil (eval : Node → M Value) (last : Value) :
    evalSequence eval last [] = pure last := rfl

@[simp] theorem evalSequence_cons (eval : Node → M Value) (last : Value) (statement : Node)
    (rest : List Node) :
    evalSequence eval last (statement :: rest) =
      eval statement >>= fun value => evalSequence eval value rest := rfl

/-- Evaluates an optional part; the unit value stands for an absent one. -/
@[specialize] def evalOptional (eval : Node → M Value) : Option Node → M Value
  | some node => eval node
  | none => pure .unit

@[simp] theorem evalOptional_some (eval : Node → M Value) (node : Node) :
    evalOptional eval (some node) = eval node := rfl

@[simp] theorem evalOptional_none (eval : Node → M Value) :
    evalOptional eval none = pure .unit := rfl

/-- Evaluates nodes from left to right. -/
@[specialize] def evalAll (eval : Node → M Value) : List Node → M (List Value)
  | [] => pure []
  | node :: rest => do
      let value ← eval node
      let values ← evalAll eval rest
      pure (value :: values)

@[simp] theorem evalAll_nil (eval : Node → M Value) : evalAll eval [] = pure [] := rfl

@[simp] theorem evalAll_cons (eval : Node → M Value) (node : Node) (rest : List Node) :
    evalAll eval (node :: rest) =
      eval node >>= fun value => evalAll eval rest >>= fun values => pure (value :: values) := rfl

/-- Evaluates the slots of a call from left to right in the current frame, and
binds their values in the frame that is to be the callee's. -/
@[specialize] def evalSlots (eval : Node → M Value) (callee : Frame) :
    List (VariableId × Node) → M Frame
  | [] => pure callee
  | (v, node) :: rest => do
      let value ← eval node
      evalSlots eval (callee.insert v value) rest

@[simp] theorem evalSlots_nil (eval : Node → M Value) (callee : Frame) :
    evalSlots eval callee [] = pure callee := rfl

@[simp] theorem evalSlots_cons (eval : Node → M Value) (callee : Frame) (v : VariableId)
    (node : Node) (rest : List (VariableId × Node)) :
    evalSlots eval callee ((v, node) :: rest) =
      eval node >>= fun value => evalSlots eval (callee.insert v value) rest := rfl

/-- Evaluates the body of a function. -/
@[specialize] def evalBody (eval : Node → M Value) : Body → M Value
  | .block statements => evalSequence eval .unit statements
  | .expression node => eval node

end Parts

/-! ### The forms of nodes -/

section Forms

variable {M : Type → Type} [Monad M] [RunLike M]

open RunLike

/-- Evaluates a condition, which has to be a truth value. -/
@[specialize] def evalCondition (eval : Node → M Value) (condition : Node) : M Bool := do
  let value ← eval condition
  ofExcept value.asBool

/-- Evaluates the conditions in order up to the first that holds, then its result.
The value is the unit value if none holds. -/
@[specialize] def evalBranches (eval : Node → M Value) : List (Node × Node) → M Value
  | [] => pure .unit
  | (condition, result) :: rest => do
      let holds ← evalCondition eval condition
      if holds then eval result else evalBranches eval rest

@[simp] theorem evalBranches_nil (eval : Node → M Value) :
    evalBranches eval [] = pure .unit := rfl

@[simp] theorem evalBranches_cons (eval : Node → M Value) (condition result : Node)
    (rest : List (Node × Node)) :
    evalBranches eval ((condition, result) :: rest) =
      evalCondition eval condition >>= fun holds =>
        if holds then eval result else evalBranches eval rest := rfl

/-- Checks the condition of a loop, and goes on with `again` if it holds.  The value of
a loop that ends is the unit value. -/
@[specialize] def evalTest (eval : Node → M Value) (condition : Node) (again : M Value) :
    M Value := do
  let holds ← evalCondition eval condition
  if holds then again else pure .unit

/-- Runs one round of a loop, the body and then the condition, and goes on with `again`
if the loop does. -/
@[specialize] def evalRound (eval : Node → M Value) (id : LoopId) (condition : Node)
    (body : Option Node) (again : M Value) : M Value := do
  let goesOn ← interceptJump id (evalOptional eval body)
  if goesOn then evalTest eval condition again else pure .unit

/-- Runs the rounds of a loop. -/
@[specialize] def evalRounds (eval : Node → M Value) (id : LoopId) (condition : Node)
    (body : Option Node) : (fuel : Nat) → M Value
  | 0 => outOfFuel
  | fuel + 1 => evalRound eval id condition body (evalRounds eval id condition body fuel)

theorem evalRounds_succ (eval : Node → M Value) (id : LoopId) (condition : Node)
    (body : Option Node) (fuel : Nat) :
    evalRounds eval id condition body (fuel + 1) =
      evalRound eval id condition body (evalRounds eval id condition body fuel) := rfl

/-- Runs a loop, given how its rounds are run. -/
@[specialize] def evalLoop (eval : Node → M Value) (condition : Node) (rounds : M Value) :
    LoopKind → M Value
  | .preTest => evalTest eval condition rounds
  | .postTest => rounds

/-- Carries out a resolved call. -/
@[specialize] def evalResolved (eval : Node → M Value) (callee : SymbolId) : Resolved → M Value
  | .inlined slots body => do
      let frame ← evalSlots eval .empty slots
      activate callee frame (evalBody eval body)
  | .shortCircuit decides combine left right => do
      let p ← evalCondition eval left
      if decides p then pure (.bool p)
      else do
        let q ← evalCondition eval right
        pure (.bool (combine p q))
  | .strict combinator slots => do
      let values ← evalAll eval slots
      ofExcept (combinator.apply values)

/-- Resolves a call and carries it out. -/
@[specialize] def evalCall (context : Context) (eval : Node → M Value) (callee : SymbolId)
    (arguments : List (Option Node)) : M Value := do
  let resolved ← ofExcept (resolve context.program context.operators callee arguments)
  evalResolved eval callee resolved

/-- Does what the form of a node says, given what a call does, how the rounds of a loop are
run, and how the parts of the node are evaluated. -/
@[specialize] def evalFormWith (call : SymbolId → List (Option Node) → M Value)
    (rounds : LoopId → Node → Option Node → M Value) (eval : Node → M Value) : Node → M Value
  | .const constant => ofExcept constant.value
  | .get v => read v
  | .set v node => do
      let value ← eval node
      bindVariable v value
      pure .unit
  | .declare v (some initializer) => do
      let value ← eval initializer
      bindVariable v value
      pure .unit
  | .declare _ none => pure .unit
  | .block statements => evalSequence eval .unit statements
  | .call callee arguments => call callee arguments
  | .ret value => do
      let value ← evalOptional eval value
      interrupt (.returning value)
  | .choose branches => evalBranches eval branches
  | .loop id kind condition body => evalLoop eval condition (rounds id condition body) kind
  | .breakTo target => interrupt (.breaking target)
  | .continueTo target => interrupt (.continuing target)
  | .typeOperation .coercionToUnit argument => do
      let _ ← eval argument
      pure .unit
  | .typeOperation operator _ => ofExcept (.error (.unsupported operator.name))

/-- Does what the form of a node says, given how its parts are evaluated and a bound on the
rounds of a loop. -/
@[specialize] def evalForm (context : Context) (eval : Node → M Value) (fuel : Nat) :
    Node → M Value :=
  evalFormWith (evalCall context eval) (evalRounds eval · · · fuel) eval

end Forms

/-! ### The evaluator -/

open Run

theorem evalCondition_eq (eval : Node → Run Value) (condition : Node) :
    evalCondition eval condition = eval condition >>= fun value => ofExcept value.asBool := rfl

theorem evalRound_eq (eval : Node → Run Value) (id : LoopId) (condition : Node)
    (body : Option Node) (again : Run Value) :
    evalRound eval id condition body again =
      interceptJump id (evalOptional eval body) >>= fun goesOn =>
        if goesOn then evalTest eval condition again else pure .unit := rfl

@[simp] theorem evalRounds_zero (eval : Node → Run Value) (id : LoopId) (condition : Node)
    (body : Option Node) : evalRounds eval id condition body 0 = outOfSteps := rfl

/-- Starts the evaluation of a node inside `depth` others.  It takes a step before
anything else, and then has to find the nesting within its limit. -/
def enter (context : Context) (depth : Nat) : Run Unit := do
  charge
  if depth < context.limits.maxDepth then pure ()
  else fail (.depthExceeded context.limits.maxDepth)

/-- Evaluates a node inside `depth` others. -/
def evalNode (context : Context) : (fuel depth : Nat) → Node → Run Value
  | 0, _, _ => outOfSteps
  | fuel + 1, depth, node => do
      enter context depth
      evalForm context (evalNode context fuel (depth + 1)) fuel node

@[simp] theorem evalNode_zero (context : Context) (depth : Nat) (node : Node) :
    evalNode context 0 depth node = outOfSteps := rfl

theorem evalNode_succ (context : Context) (fuel depth : Nat) (node : Node) :
    evalNode context (fuel + 1) depth node =
      enter context depth >>= fun _ =>
        evalForm context (evalNode context fuel (depth + 1)) fuel node := rfl

/-- Evaluates a node inside `depth` others, with as much fuel as there are steps left. -/
def evaluate (context : Context) (depth : Nat) (node : Node) : Run Value := fun s =>
  evalNode context s.budget.remaining depth node s

/-! ### Starting a node -/

/-- On a spent budget no node is started. -/
theorem enter_of_remaining_eq_zero (context : Context) (depth : Nat) {s : State}
    (h : s.budget.remaining = 0) : enter context depth s = outOfSteps s := by
  rw [enter, bind_apply, charge_of_remaining_eq_zero h]
  rfl

/-- With a step left and the nesting within its limit, a node is started. -/
theorem enter_of_lt {context : Context} {depth : Nat} {s : State}
    (h : 0 < s.budget.remaining) (hd : depth < context.limits.maxDepth) :
    enter context depth s = .ok () { s with budget := s.budget.spend 1 } := by
  rw [enter, bind_apply, charge_of_remaining_pos h, if_pos hd]
  rfl

/-- With a step left and the nesting at its limit, the step is taken all the same. -/
theorem enter_of_le {context : Context} {depth : Nat} {s : State}
    (h : 0 < s.budget.remaining) (hd : context.limits.maxDepth ≤ depth) :
    enter context depth s = .error (.failing (.depthExceeded context.limits.maxDepth))
      { s with budget := s.budget.spend 1 } := by
  rw [enter, bind_apply, charge_of_remaining_pos h, if_neg (Nat.not_lt.2 hd)]
  rfl

/-- On a spent budget nothing but the step is tried, whatever the fuel. -/
theorem evalNode_of_remaining_eq_zero (context : Context) (fuel depth : Nat) (node : Node)
    {s : State} (h : s.budget.remaining = 0) :
    evalNode context fuel depth node s = outOfSteps s := by
  cases fuel with
  | zero => rfl
  | succ fuel =>
    rw [evalNode_succ, bind_apply, enter_of_remaining_eq_zero context depth h]
    rfl

end ConstFold
