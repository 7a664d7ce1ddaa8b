import ConstFold.Budget
import ConstFold.Frame
import ConstFold.Interrupt

/-!
# Runs

A run is a piece of evaluation: it starts from a state, which is a step budget
and a frame, and ends in a value or an interrupt, with a state in either case.
Steps used and variables bound before an interrupt stay used and bound.

## Main definitions

* `State`, `Run` — states and runs.
* `Run.final`, `Run.outcome` — the two parts of the way a run ends.
* `Run.charge` — takes one step.
* `Run.read`, `Run.bindVariable` — reading and binding variables.
* `Run.interceptJump` — a loop's round: its own jumps end here.
* `Run.inFrame`, `Run.settle` — an activation: a frame of its own, and returns end here.
* `RunLike` — what runs of any kind have in common with these.

## References

`SPEC_FULL.md`, section 4.3 (propagation rule, Loop, Call) and section 4.4.
-/

namespace ConstFold

/-- What a run can change. -/
structure State where
  /-- The steps left. -/
  budget : Budget
  /-- The frame of the current activation. -/
  frame : Frame

/-- A piece of evaluation. -/
abbrev Run (α : Type) := EStateM Interrupt State α

namespace Run

variable {α β : Type}

/-! ### Endings -/

/-- The state in which a run ends. -/
def final : EStateM.Result Interrupt State α → State
  | .ok _ s => s
  | .error _ s => s

/-- What a run gives: a value or an interrupt. -/
def outcome : EStateM.Result Interrupt State α → Except Interrupt α
  | .ok a _ => .ok a
  | .error i _ => .error i

/-- The ending with a given outcome and state. -/
def ending : Except Interrupt α → State → EStateM.Result Interrupt State α
  | .ok a, s => .ok a s
  | .error i, s => .error i s

@[simp] theorem final_ok (a : α) (s : State) : final (.ok a s) = s := rfl

@[simp] theorem final_error (i : Interrupt) (s : State) :
    final (.error i s : EStateM.Result Interrupt State α) = s := rfl

@[simp] theorem outcome_ok (a : α) (s : State) : outcome (.ok a s) = .ok a := rfl

@[simp] theorem outcome_error (i : Interrupt) (s : State) :
    outcome (.error i s : EStateM.Result Interrupt State α) = .error i := rfl

@[simp] theorem final_ending (o : Except Interrupt α) (s : State) : final (ending o s) = s := by
  cases o <;> rfl

@[simp] theorem outcome_ending (o : Except Interrupt α) (s : State) :
    outcome (ending o s) = o := by
  cases o <;> rfl

/-- An ending is its outcome and its state. -/
@[simp] theorem ending_outcome_final (r : EStateM.Result Interrupt State α) :
    ending (outcome r) (final r) = r := by
  cases r <;> rfl

/-! ### Sequencing -/

@[simp] theorem pure_apply (a : α) (s : State) : (pure a : Run α) s = .ok a s := rfl

/-- The second run starts from the state in which the first one gave its value; an
interrupt of the first one leaves out the second. -/
theorem bind_apply (x : Run α) (f : α → Run β) (s : State) :
    (x >>= f) s =
      match x s with
      | .ok a t => f a t
      | .error i t => .error i t := by
  show EStateM.bind x f s = _
  unfold EStateM.bind
  cases x s <;> rfl

/-! ### Interrupts -/

/-- A run that is interrupted at once. -/
def interrupt (i : Interrupt) : Run α := fun s => .error i s

/-- A run that fails at once. -/
def fail (cause : Failure) : Run α := interrupt (.failing cause)

/-- A plain result, or its failure, as a run. -/
def ofExcept : Except Failure α → Run α
  | .ok a => pure a
  | .error cause => fail cause

@[simp] theorem interrupt_apply (i : Interrupt) (s : State) :
    (interrupt i : Run α) s = .error i s := rfl

@[simp] theorem fail_apply (cause : Failure) (s : State) :
    (fail cause : Run α) s = .error (.failing cause) s := rfl

@[simp] theorem ofExcept_ok (a : α) : ofExcept (.ok a) = pure a := rfl

@[simp] theorem ofExcept_error (cause : Failure) :
    ofExcept (.error cause : Except Failure α) = fail cause := rfl

/-! ### Steps -/

/-- Takes one step. -/
def charge : Run Unit := fun s =>
  match s.budget.take with
  | .ok budget => .ok () { s with budget }
  | .error cause => fail cause s

/-- Fails as on a spent budget. -/
def outOfSteps : Run α := fun s => fail (.stepsExhausted s.budget.limit) s

/-- On a spent budget, taking a step is to be out of steps. -/
theorem charge_of_remaining_eq_zero {s : State} (h : s.budget.remaining = 0) :
    charge s = outOfSteps s := by
  have ht : s.budget.take = .error (.stepsExhausted s.budget.limit) :=
    Budget.take_eq_error_iff.2 ⟨h, rfl⟩
  rw [charge, ht, outOfSteps]

/-- As long as a step is left, taking it is to spend it. -/
theorem charge_of_remaining_pos {s : State} (h : 0 < s.budget.remaining) :
    charge s = .ok () { s with budget := s.budget.spend 1 } := by
  have ht : s.budget.take = .ok (s.budget.spend 1) := if_neg (Nat.ne_of_gt h)
  rw [charge, ht]

/-! ### Variables -/

/-- The value of a variable of the current frame. -/
def read (v : VariableId) : Run Value := fun s => ofExcept (s.frame.read v) s

/-- Binds a variable of the current frame. -/
def bindVariable (v : VariableId) (value : Value) : Run Unit := fun s =>
  .ok () { s with frame := s.frame.insert v value }

@[simp] theorem bindVariable_apply (v : VariableId) (value : Value) (s : State) :
    bindVariable v value s = .ok () { s with frame := s.frame.insert v value } := rfl

/-! ### Loops and activations -/

/-- One round of a loop: whether the loop goes on after it.  The jumps that name
the loop end here; every other interrupt passes. -/
def interceptJump (id : LoopId) (round : Run Value) : Run Bool := fun s =>
  match round s with
  | .ok _ t => .ok true t
  | .error (.breaking target) t =>
      if target = id then .ok false t else .error (.breaking target) t
  | .error (.continuing target) t =>
      if target = id then .ok true t else .error (.continuing target) t
  | .error i t => .error i t

/-- A run in a frame of its own, after which the current frame is back. -/
def inFrame (frame : Frame) (run : Run α) : Run α := fun s =>
  match run { s with frame } with
  | .ok a t => .ok a { t with frame := s.frame }
  | .error i t => .error i { t with frame := s.frame }

/-- The end of a function body: a return gives the value of the call, and a jump
that names a loop outside the body is a failure of the function. -/
def settle (callee : SymbolId) (body : Run Value) : Run Value := fun s =>
  match body s with
  | .ok value t => .ok value t
  | .error (.returning value) t => .ok value t
  | .error (.breaking _) t => fail (.abnormalExit callee) t
  | .error (.continuing _) t => fail (.abnormalExit callee) t
  | .error (.failing cause) t => fail cause t

end Run

/-! ### Kinds of runs -/

/-- A kind of runs: what nodes are made of, besides the order of their parts.  Plain runs
are one kind; others keep a record besides, or take nothing for granted that a machine does
not. -/
class RunLike (M : Type → Type) where
  /-- A run that is interrupted at once. -/
  interrupt {α : Type} : Interrupt → M α
  /-- A plain result, or its failure, as a run. -/
  ofExcept {α : Type} : Except Failure α → M α
  /-- What a run is taken to be when its fuel is used up. -/
  outOfFuel {α : Type} : M α
  /-- The value of a variable of the current frame. -/
  read : VariableId → M Value
  /-- Binds a variable of the current frame. -/
  bindVariable : VariableId → Value → M Unit
  /-- One round of a loop: whether the loop goes on after it. -/
  interceptJump : LoopId → M Value → M Bool
  /-- The body of a function in a frame of its own, up to the end of the call. -/
  activate : SymbolId → Frame → M Value → M Value

/-- The kind of runs the evaluator is made of. -/
instance : RunLike Run where
  interrupt := Run.interrupt
  ofExcept := Run.ofExcept
  outOfFuel := Run.outOfSteps
  read := Run.read
  bindVariable := Run.bindVariable
  interceptJump := Run.interceptJump
  activate := fun callee frame body => Run.settle callee (Run.inFrame frame body)

end ConstFold
