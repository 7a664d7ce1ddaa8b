import ConstFold.Evaluator
import ConstFold.Proofs.Outcomes

/-!
# The evaluator under a monitor

The evaluator is told the depth of a node and keeps no account of what it has done.  Here
it is run once more with a monitor: a counter of the nesting, which goes up when a node
is started and down when it is done, and a record of the events of the run.  The nesting
is checked against the counter, and the forms of nodes are what they are without it.

## Main definitions

* `Event`, `Event.Fails`, `inProgress` — the events of a run, those that are failures, and
  the nodes that are in evaluation after some events.
* `Monitor`, `Monitored` — monitors, and runs under one.
* `Monitored.evalNode` — the evaluator under a monitor.
* `MonitoredEvaluator` — an evaluator with its monitor, and what is left of it after a fold.
-/

namespace ConstFold

/-! ### Events -/

/-- What is recorded of a run. -/
inductive Event where
  /-- The evaluation of a node starts. -/
  | started (node : Node)
  /-- A step is taken. -/
  | charged
  /-- The evaluation of a node ends. -/
  | ended (node : Node) (outcome : Outcome)

/-- A node has failed. -/
def Event.Fails : Event → Prop
  | .ended _ (.error (.failing _)) => True
  | _ => False

/-- A step is taken. -/
def Event.isCharge : Event → Bool
  | .charged => true
  | _ => false

/-- The nodes that are in evaluation after some events, the innermost one first, if
before them they were `outer`. -/
def inProgress (outer : List Node) : List Event → List Node
  | [] => outer
  | .started node :: rest => inProgress (node :: outer) rest
  | .charged :: rest => inProgress outer rest
  | .ended _ _ :: rest => inProgress outer.tail rest

theorem inProgress_append (outer : List Node) (l l' : List Event) :
    inProgress outer (l ++ l') = inProgress (inProgress outer l) l' := by
  induction l generalizing outer with
  | nil => rfl
  | cons e l ih =>
    cases e with
    | started n => exact ih (n :: outer)
    | charged => exact ih outer
    | ended n o => exact ih outer.tail

/-! ### Monitors -/

/-- The counter of the nesting, and the events so far. -/
structure Monitor where
  /-- How many nodes are being evaluated. -/
  depth : Nat
  /-- The events, in order. -/
  events : List Event

namespace Monitor

/-- The monitor before any event. -/
def start : Monitor := ⟨0, []⟩

/-- The monitor after one more event. -/
def record (w : Monitor) (e : Event) : Monitor := { w with events := w.events ++ [e] }

/-- The monitor one level deeper. -/
def down (w : Monitor) : Monitor := { w with depth := w.depth + 1 }

/-- The monitor one level higher. -/
def up (w : Monitor) : Monitor := { w with depth := w.depth - 1 }

@[simp] theorem events_record (w : Monitor) (e : Event) :
    (w.record e).events = w.events ++ [e] := rfl

@[simp] theorem depth_down (w : Monitor) : w.down.depth = w.depth + 1 := rfl

end Monitor

open Run

/-- A piece of evaluation under a monitor. -/
def Monitored (α : Type) := State → Monitor → EStateM.Result Interrupt State α × Monitor

namespace Monitored

variable {α β : Type}

/-! ### Runs under a monitor -/

/-- A run that evaluates no node leaves the monitor alone. -/
def ofRun (x : Run α) : Monitored α := fun s w => (x s, w)

/-- One run after the other, unless the first is interrupted. -/
protected def bind (x : Monitored α) (f : α → Monitored β) : Monitored β := fun s w =>
  match x s w with
  | (.ok a t, w') => f a t w'
  | (.error i t, w') => (.error i t, w')

/-- The monitor goes from one run to the next. -/
instance : Monad Monitored where
  pure a := ofRun (pure a)
  bind := Monitored.bind

theorem bind_apply_of_ok {x : Monitored α} (f : α → Monitored β) {s t : State} {w : Monitor}
    {a : α} (h : (x s w).1 = .ok a t) : (x >>= f) s w = f a t (x s w).2 := by
  show Monitored.bind x f s w = _
  unfold Monitored.bind
  generalize x s w = y at h
  obtain ⟨r, w'⟩ := y
  obtain rfl : r = .ok a t := h
  rfl

theorem bind_apply_of_error {x : Monitored α} (f : α → Monitored β) {s t : State} {w : Monitor}
    {i : Interrupt} (h : (x s w).1 = .error i t) :
    (x >>= f) s w = (.error i t, (x s w).2) := by
  show Monitored.bind x f s w = _
  unfold Monitored.bind
  generalize x s w = y at h
  obtain ⟨r, w'⟩ := y
  obtain rfl : r = .error i t := h
  rfl

/-- A run of which another outcome is made. -/
def mapped (φ : Except Interrupt α → Except Interrupt β) (x : Monitored α) : Monitored β :=
  fun s w => (ending (φ (outcome (x s w).1)) (final (x s w).1), (x s w).2)

/-- A run in a frame of its own. -/
def inFrame (frame : Frame) (x : Monitored α) : Monitored α := fun s w =>
  let y := x { s with frame } w
  (ending (outcome y.1) { final y.1 with frame := s.frame }, y.2)

/-- A loop and a call make another outcome of that of the body, with or without a monitor. -/
instance : RunLike Monitored where
  interrupt i := ofRun (interrupt i)
  ofExcept e := ofRun (ofExcept e)
  outOfFuel := ofRun outOfSteps
  read v := ofRun (read v)
  bindVariable v value := ofRun (bindVariable v value)
  interceptJump id round := round.mapped (roundEnd id)
  activate callee frame body := (body.inFrame frame).mapped (settled callee)

/-! ### Nodes -/

/-- Takes one step, and records it. -/
def charge : Monitored Unit := fun s w =>
  match Run.charge s with
  | .ok _ t => (.ok () t, w.record .charged)
  | .error i t => (.error i t, w)

/-- Compares the counter with the nesting allowed. -/
def checkDepth (context : Context) : Monitored Unit := fun s w =>
  if w.depth < context.limits.maxDepth then (.ok () s, w)
  else (.error (.failing (.depthExceeded context.limits.maxDepth)) s, w)

/-- Counts one level up, runs, and counts it down again. -/
def nested (x : Monitored α) : Monitored α := fun s w =>
  let y := x s w.down
  (y.1, y.2.up)

/-- Records the start and the end of the evaluation of a node. -/
def observed (node : Node) (x : Monitored Value) : Monitored Value := fun s w =>
  let y := x s (w.record (.started node))
  (y.1, y.2.record (.ended node (outcome y.1)))

/-- Starts the evaluation of a node: takes a step, and checks the nesting. -/
def enter (context : Context) : Monitored Unit := do
  charge
  checkDepth context

/-- Evaluates a node.  A loop may start one round more than there is fuel for its parts: that
one starts on a spent budget, and is there for the node at which that shows. -/
def evalNode (context : Context) : (fuel : Nat) → Node → Monitored Value
  | 0, node => observed node (ofRun outOfSteps)
  | fuel + 1, node => observed node do
      enter context
      nested (evalForm context (evalNode context fuel) (fuel + 1) node)

end Monitored

/-! ### Evaluators -/

/-- An evaluator with its monitor. -/
structure MonitoredEvaluator extends Evaluator where
  /-- The counter and the record. -/
  monitor : Monitor

namespace MonitoredEvaluator

/-- An evaluator with a monitor that has seen nothing. -/
def start (e : Evaluator) : MonitoredEvaluator := ⟨e, .start⟩

/-- Folds a node, and gives the evaluator with the steps that are left and with its
monitor as it is then. -/
def fold (e : MonitoredEvaluator) (node : Node) : Except Failure Literal × MonitoredEvaluator :=
  let y := Monitored.evalNode e.toContext e.budget.remaining node ⟨e.budget, .empty⟩ e.monitor
  (conclude (outcome y.1), ⟨{ e.toEvaluator with budget := (final y.1).budget }, y.2⟩)

/-- The evaluator after folding nodes in turn. -/
def after (e : MonitoredEvaluator) (nodes : List Node) : MonitoredEvaluator :=
  nodes.foldl (fun e node => (e.fold node).2) e

@[simp] theorem after_cons (e : MonitoredEvaluator) (node : Node) (nodes : List Node) :
    e.after (node :: nodes) = (e.fold node).2.after nodes := rfl

end MonitoredEvaluator

end ConstFold
