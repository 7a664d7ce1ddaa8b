import ConstFold.Evaluator
import ConstFold.Proofs.Compositional
import ConstFold.Proofs.Outcomes

/-!
# The bodies entered in a run

Calls are resolved, their slots are evaluated, and only then is the body of a function
entered; of a call that is refused, or one of whose slots is interrupted, it is not.  Here
the evaluator is run once more with a list of the functions whose bodies it enters, in order.
An activation adds the name of its function, and nothing else adds any.

## Main definitions

* `Entering` — runs that list the functions they enter.
* `Entering.run`, `Entering.entered` — the run without its list, and the list.
* `Entering.evalNode` — the evaluator with the list.
* `enteredBodies` — the functions entered in a fold.

## Main results

* `Entering.run_evalNode` — **the list makes no difference to the run.**
-/

namespace ConstFold

open Run

/-- A run that lists the functions whose bodies it enters, in order. -/
def Entering (α : Type) := State → EStateM.Result Interrupt State α × List SymbolId

namespace Entering

variable {α β : Type}

/-- The run without its list. -/
def run (x : Entering α) : Run α := fun s => (x s).1

/-- The functions whose bodies are entered in a run from a state, in order. -/
def entered (x : Entering α) (s : State) : List SymbolId := (x s).2

/-! ### Runs with a list -/

/-- A run that evaluates no node enters no body. -/
def ofRun (x : Run α) : Entering α := fun s => (x s, [])

@[simp] theorem run_ofRun (x : Run α) : (ofRun x).run = x := rfl

@[simp] theorem entered_ofRun (x : Run α) (s : State) : (ofRun x).entered s = [] := rfl

/-- One run after the other, unless the first is interrupted. -/
protected def bind (x : Entering α) (f : α → Entering β) : Entering β := fun s =>
  match x s with
  | (.ok a t, l) => ((f a t).1, l ++ (f a t).2)
  | (.error i t, l) => (.error i t, l)

/-- What is entered in a run comes before what is entered in the one that follows. -/
instance : Monad Entering where
  pure a := ofRun (pure a)
  bind := Entering.bind

@[simp] theorem run_bind (x : Entering α) (f : α → Entering β) :
    (x >>= f).run = x.run >>= fun a => (f a).run := by
  funext s
  rw [bind_apply]
  show (Entering.bind x f s).1 = _
  unfold Entering.bind run
  obtain ⟨r, l⟩ := x s
  cases r <;> rfl

/-- Those entered in the first run, and then those in what follows it if it gives a value. -/
theorem entered_bind (x : Entering α) (f : α → Entering β) (s : State) :
    (x >>= f).entered s = x.entered s ++
      match x.run s with
      | .ok a t => (f a).entered t
      | .error _ _ => [] := by
  show (Entering.bind x f s).2 = _
  unfold Entering.bind entered run
  obtain ⟨r, l⟩ := x s
  cases r with
  | ok a t => rfl
  | error i t => exact (List.append_nil l).symm

theorem entered_bind_of_ok {x : Entering α} (f : α → Entering β) {s t : State} {a : α}
    (h : x.run s = .ok a t) : (x >>= f).entered s = x.entered s ++ (f a).entered t := by
  rw [entered_bind, h]

theorem entered_bind_of_error {x : Entering α} (f : α → Entering β) {s t : State}
    {i : Interrupt} (h : x.run s = .error i t) : (x >>= f).entered s = x.entered s := by
  rw [entered_bind, h]
  exact List.append_nil _

/-- A run of which another run is made, from the same states. -/
def mapped (g : Run α → Run β) (x : Entering α) : Entering β := fun s =>
  (g x.run s, x.entered s)

/-- A run in the body of a function. -/
def inBody (callee : SymbolId) (x : Entering α) : Entering α := fun s =>
  (x.run s, callee :: x.entered s)

/-- A run in a frame of its own. -/
def inFrame (frame : Frame) (x : Entering α) : Entering α := fun s =>
  (Run.inFrame frame x.run s, x.entered { s with frame })

/-- The body of a function is entered where it is activated. -/
instance : RunLike Entering where
  interrupt i := ofRun (interrupt i)
  ofExcept e := ofRun (ofExcept e)
  outOfFuel := ofRun outOfSteps
  read v := ofRun (read v)
  bindVariable v value := ofRun (bindVariable v value)
  interceptJump id round := round.mapped (interceptJump id)
  activate callee frame body := ((body.inBody callee).inFrame frame).mapped (settle callee)

/-! ### Nodes -/

/-- Evaluates a node inside `depth` others. -/
def evalNode (context : Context) : (fuel depth : Nat) → Node → Entering Value
  | 0, _, _ => ofRun outOfSteps
  | fuel + 1, depth, node => do
      ofRun (enter context depth)
      evalForm context (evalNode context fuel (depth + 1)) fuel node

theorem evalNode_succ (context : Context) (fuel depth : Nat) (node : Node) :
    evalNode context (fuel + 1) depth node =
      ofRun (enter context depth) >>= fun _ =>
        evalForm context (evalNode context fuel (depth + 1)) fuel node := rfl

/-- Without their lists nodes are made of the same. -/
theorem compositional_run : Compositional fun α (y : Entering α) (x : Run α) => y.run = x where
  pure _ := rfl
  bind := by
    intro α β y x g f hx hf
    rw [run_bind, hx, funext hf]
  interrupt _ := rfl
  ofExcept _ := rfl
  read _ := rfl
  bindVariable _ _ := rfl
  interceptJump id h := congrArg (interceptJump id) h

@[simp] theorem run_evalCondition (eval : Node → Entering Value) (q : Node) :
    (evalCondition eval q).run = evalCondition (fun n => (eval n).run) q :=
  run_bind (eval q) _

/-- **The list makes no difference to the run.** -/
theorem run_evalNode (context : Context) (fuel depth : Nat) (n : Node) :
    (evalNode context fuel depth n).run = ConstFold.evalNode context fuel depth n := by
  induction fuel generalizing depth n with
  | zero => rfl
  | succ fuel ih =>
    have hparts := fun p => ih (depth + 1) p
    have hform := compositional_run.evalForm hparts context
      (fun callee frame body => congrArg (fun x => settle callee (Run.inFrame frame x))
        (compositional_run.evalBody hparts body))
      (fun id q b => compositional_run.evalRounds hparts rfl id q b fuel) n
    rw [evalNode_succ, run_bind, hform]
    rfl

end Entering

/-- The functions whose bodies are entered in a fold, in order. -/
def enteredBodies (context : Context) (n : Node) : List SymbolId :=
  (Entering.evalNode context context.limits.maxSteps 0 n).entered
    ⟨.full context.limits.maxSteps, .empty⟩

end ConstFold
