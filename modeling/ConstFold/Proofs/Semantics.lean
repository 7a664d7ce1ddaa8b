import ConstFold.Proofs.Causes

/-!
# The meaning of nodes

What it means to evaluate a node, with neither a budget nor a limit on the nesting: an
inductive relation with a rule for each way a form of node can go.  Besides the outcome
and the frame it is left with, an evaluation has a number of steps, which are the nodes
evaluated, and a nesting, which is the largest number of them inside one another.

A node that never ends has no evaluation; nothing is out of steps here.

The rules for calls name what a call resolves to, which takes neither steps nor a frame.
`Refused` and `Accepted` say what that is without the function that finds it.

## Main definitions

* `Task` — a node, or what is left to do of one.
* `Evaluates program operators task f o f' k d` — from the frame `f` the task ends with
  the outcome `o` in the frame `f'`, after `k` steps and with nesting `d`.

## Main results

* `Evaluates.not_resourceEnd` — **no evaluation fails for want of a resource.**
-/

namespace ConstFold

/-! ### Evaluations -/

/-- What there is to evaluate: a node, or what is left to do of one. -/
inductive Task where
  /-- A node. -/
  | node (n : Node)
  /-- A node that has been started. -/
  | form (n : Node)
  /-- A part that may be absent. -/
  | optional (part : Option Node)
  /-- Statements after one with the value `last`. -/
  | statements (last : Value) (rest : List Node)
  /-- The branches of a conditional that have not been tried. -/
  | branches (rest : List (Node × Node))
  /-- A loop before its condition. -/
  | test (id : LoopId) (condition : Node) (body : Option Node)
  /-- A loop before its body. -/
  | rounds (id : LoopId) (condition : Node) (body : Option Node)
  /-- Operands of an operator, after some that have been evaluated. -/
  | operands (combinator : Combinator) (done : List Value) (rest : List Node)
  /-- Slots of a call, after some whose values are bound in the callee's frame. -/
  | slots (callee : SymbolId) (locals : Frame) (rest : List (VariableId × Node)) (body : Body)

/-- What there is to evaluate of a function. -/
def Body.task : Body → Task
  | .block statements => .statements .unit statements
  | .expression node => .node node

/-- From the frame `f` the task ends with the outcome `o` in the frame `f'`, after `k`
steps and with nesting `d`. -/
inductive Evaluates (program : Program) (operators : OperatorTable) :
    Task → Frame → Outcome → Frame → Nat → Nat → Prop
  /-- A node takes a step and a level more than what its form says. -/
  | node {n f f' o k d} :
      Evaluates program operators (.form n) f o f' k d →
      Evaluates program operators (.node n) f o f' (k + 1) (d + 1)
  /-- A constant of an evaluable kind is its value. -/
  | const {c f} :
      Evaluates program operators (.form (.const c)) f (plain c.value) f 0 0
  /-- A variable is read in the current frame. -/
  | get {v f} :
      Evaluates program operators (.form (.get v)) f (plain (f.read v)) f 0 0
  /-- An assignment binds the variable to the value. -/
  | set {v n f f' a k d} :
      Evaluates program operators (.node n) f (.ok a) f' k d →
      Evaluates program operators (.form (.set v n)) f (.ok .unit) (f'.insert v a) k d
  | set_interrupted {v n f f' i k d} :
      Evaluates program operators (.node n) f (.error i) f' k d →
      Evaluates program operators (.form (.set v n)) f (.error i) f' k d
  /-- So does a declaration with an initializer. -/
  | declare {v n f f' a k d} :
      Evaluates program operators (.node n) f (.ok a) f' k d →
      Evaluates program operators (.form (.declare v (some n))) f (.ok .unit) (f'.insert v a) k d
  | declare_interrupted {v n f f' i k d} :
      Evaluates program operators (.node n) f (.error i) f' k d →
      Evaluates program operators (.form (.declare v (some n))) f (.error i) f' k d
  /-- A declaration without one does nothing. -/
  | declare_only {v f} :
      Evaluates program operators (.form (.declare v none)) f (.ok .unit) f 0 0
  /-- A block is its statements. -/
  | block {ns f f' o k d} :
      Evaluates program operators (.statements .unit ns) f o f' k d →
      Evaluates program operators (.form (.block ns)) f o f' k d
  /-- A call that cannot be resolved fails before any argument is evaluated. -/
  | call_unresolved {callee as f cause} :
      resolve program operators callee as = .error cause →
      Evaluates program operators (.form (.call callee as)) f (.error (.failing cause)) f 0 0
  /-- A function with a body is called by its slots. -/
  | call_inlined {callee as slots body f f' o k d} :
      resolve program operators callee as = .ok (.inlined slots body) →
      Evaluates program operators (.slots callee .empty slots body) f o f' k d →
      Evaluates program operators (.form (.call callee as)) f o f' k d
  /-- An operator that evaluates all its operands. -/
  | call_strict {callee as combinator slots f f' o k d} :
      resolve program operators callee as = .ok (.strict combinator slots) →
      Evaluates program operators (.operands combinator [] slots) f o f' k d →
      Evaluates program operators (.form (.call callee as)) f o f' k d
  /-- An operator whose left operand settles the result. -/
  | call_decided {callee as decides combine left right f f' o p k d} :
      resolve program operators callee as = .ok (.shortCircuit decides combine left right) →
      Evaluates program operators (.node left) f o f' k d →
      truth o = .ok p → decides p = true →
      Evaluates program operators (.form (.call callee as)) f (.ok (.bool p)) f' k d
  /-- An operator whose left operand leaves the result open. -/
  | call_undecided {callee as decides combine left right f f₁ f' o o' p k k' d d'} :
      resolve program operators callee as = .ok (.shortCircuit decides combine left right) →
      Evaluates program operators (.node left) f o f₁ k d →
      truth o = .ok p → decides p = false →
      Evaluates program operators (.node right) f₁ o' f' k' d' →
      Evaluates program operators (.form (.call callee as)) f
        ((truth o').map fun q => .bool (combine p q)) f' (k + k') (max d d')
  | call_interrupted {callee as decides combine left right f f' o i k d} :
      resolve program operators callee as = .ok (.shortCircuit decides combine left right) →
      Evaluates program operators (.node left) f o f' k d → truth o = .error i →
      Evaluates program operators (.form (.call callee as)) f (.error i) f' k d
  /-- A return is in flight with the value of its part. -/
  | ret {part f f' a k d} :
      Evaluates program operators (.optional part) f (.ok a) f' k d →
      Evaluates program operators (.form (.ret part)) f (.error (.returning a)) f' k d
  | ret_interrupted {part f f' i k d} :
      Evaluates program operators (.optional part) f (.error i) f' k d →
      Evaluates program operators (.form (.ret part)) f (.error i) f' k d
  /-- A conditional is its branches. -/
  | choose {bs f f' o k d} :
      Evaluates program operators (.branches bs) f o f' k d →
      Evaluates program operators (.form (.choose bs)) f o f' k d
  /-- A loop of this kind starts with its condition. -/
  | preTest {id q b f f' o k d} :
      Evaluates program operators (.test id q b) f o f' k d →
      Evaluates program operators (.form (.loop id .preTest q b)) f o f' k d
  /-- A loop of this kind starts with its body. -/
  | postTest {id q b f f' o k d} :
      Evaluates program operators (.rounds id q b) f o f' k d →
      Evaluates program operators (.form (.loop id .postTest q b)) f o f' k d
  | breakTo {target f} :
      Evaluates program operators (.form (.breakTo target)) f (.error (.breaking target)) f 0 0
  | continueTo {target f} :
      Evaluates program operators (.form (.continueTo target)) f
        (.error (.continuing target)) f 0 0
  /-- A value is discarded. -/
  | coercion {n f f' a k d} :
      Evaluates program operators (.node n) f (.ok a) f' k d →
      Evaluates program operators (.form (.typeOperation .coercionToUnit n)) f (.ok .unit) f' k d
  | coercion_interrupted {n f f' i k d} :
      Evaluates program operators (.node n) f (.error i) f' k d →
      Evaluates program operators (.form (.typeOperation .coercionToUnit n)) f (.error i) f' k d
  /-- Any other operator on types is refused, and its argument is not evaluated. -/
  | typeOperation {operator n f} :
      operator ≠ .coercionToUnit →
      Evaluates program operators (.form (.typeOperation operator n)) f
        (.error (.failing (.unsupported operator.name))) f 0 0
  /-- An absent part stands for the unit value. -/
  | absent {f} : Evaluates program operators (.optional none) f (.ok .unit) f 0 0
  | present {n f f' o k d} :
      Evaluates program operators (.node n) f o f' k d →
      Evaluates program operators (.optional (some n)) f o f' k d
  /-- The value of statements is that of the last one. -/
  | statements_nil {last f} :
      Evaluates program operators (.statements last []) f (.ok last) f 0 0
  | statements_cons {last a n ns f f₁ f' o k k' d d'} :
      Evaluates program operators (.node n) f (.ok a) f₁ k d →
      Evaluates program operators (.statements a ns) f₁ o f' k' d' →
      Evaluates program operators (.statements last (n :: ns)) f o f' (k + k') (max d d')
  | statements_interrupted {last n ns f f' i k d} :
      Evaluates program operators (.node n) f (.error i) f' k d →
      Evaluates program operators (.statements last (n :: ns)) f (.error i) f' k d
  /-- If no condition holds, the conditional has the unit value. -/
  | branches_nil {f} : Evaluates program operators (.branches []) f (.ok .unit) f 0 0
  /-- The first condition that holds selects its result. -/
  | branches_taken {q r bs f f₁ f' o o' k k' d d'} :
      Evaluates program operators (.node q) f o f₁ k d → truth o = .ok true →
      Evaluates program operators (.node r) f₁ o' f' k' d' →
      Evaluates program operators (.branches ((q, r) :: bs)) f o' f' (k + k') (max d d')
  | branches_passed {q r bs f f₁ f' o o' k k' d d'} :
      Evaluates program operators (.node q) f o f₁ k d → truth o = .ok false →
      Evaluates program operators (.branches bs) f₁ o' f' k' d' →
      Evaluates program operators (.branches ((q, r) :: bs)) f o' f' (k + k') (max d d')
  | branches_interrupted {q r bs f f' o i k d} :
      Evaluates program operators (.node q) f o f' k d → truth o = .error i →
      Evaluates program operators (.branches ((q, r) :: bs)) f (.error i) f' k d
  /-- A loop whose condition holds runs its body. -/
  | test_holds {id q b f f₁ f' o o' k k' d d'} :
      Evaluates program operators (.node q) f o f₁ k d → truth o = .ok true →
      Evaluates program operators (.rounds id q b) f₁ o' f' k' d' →
      Evaluates program operators (.test id q b) f o' f' (k + k') (max d d')
  /-- A loop that ends has the unit value. -/
  | test_fails {id q b f f' o k d} :
      Evaluates program operators (.node q) f o f' k d → truth o = .ok false →
      Evaluates program operators (.test id q b) f (.ok .unit) f' k d
  /-- A jump out of the condition passes, also if it names the loop. -/
  | test_interrupted {id q b f f' o i k d} :
      Evaluates program operators (.node q) f o f' k d → truth o = .error i →
      Evaluates program operators (.test id q b) f (.error i) f' k d
  /-- After its body a loop comes to its condition, -/
  | rounds_goOn {id q b f f₁ f' o o' k k' d d'} :
      Evaluates program operators (.optional b) f o f₁ k d → roundEnd id o = .ok true →
      Evaluates program operators (.test id q b) f₁ o' f' k' d' →
      Evaluates program operators (.rounds id q b) f o' f' (k + k') (max d d')
  /-- unless the body has left it. -/
  | rounds_left {id q b f f' o k d} :
      Evaluates program operators (.optional b) f o f' k d → roundEnd id o = .ok false →
      Evaluates program operators (.rounds id q b) f (.ok .unit) f' k d
  | rounds_interrupted {id q b f f' o i k d} :
      Evaluates program operators (.optional b) f o f' k d → roundEnd id o = .error i →
      Evaluates program operators (.rounds id q b) f (.error i) f' k d
  /-- The operator is applied once its operands are evaluated, from left to right. -/
  | operands_nil {c done f} :
      Evaluates program operators (.operands c done []) f (plain (c.apply done)) f 0 0
  | operands_cons {c done a n ns f f₁ f' o k k' d d'} :
      Evaluates program operators (.node n) f (.ok a) f₁ k d →
      Evaluates program operators (.operands c (done ++ [a]) ns) f₁ o f' k' d' →
      Evaluates program operators (.operands c done (n :: ns)) f o f' (k + k') (max d d')
  | operands_interrupted {c done n ns f f' i k d} :
      Evaluates program operators (.node n) f (.error i) f' k d →
      Evaluates program operators (.operands c done (n :: ns)) f (.error i) f' k d
  /-- The body runs in the callee's frame, and the caller's frame is left as it was. -/
  | slots_nil {callee locals body f f' o k d} :
      Evaluates program operators body.task locals o f' k d →
      Evaluates program operators (.slots callee locals [] body) f (settled callee o) f k d
  /-- A slot is evaluated in the caller's frame and bound in the callee's. -/
  | slots_cons {callee locals v n a rest body f f₁ f' o k k' d d'} :
      Evaluates program operators (.node n) f (.ok a) f₁ k d →
      Evaluates program operators (.slots callee (locals.insert v a) rest body) f₁ o f' k' d' →
      Evaluates program operators (.slots callee locals ((v, n) :: rest) body) f o f'
        (k + k') (max d d')
  | slots_interrupted {callee locals v n rest body f f' i k d} :
      Evaluates program operators (.node n) f (.error i) f' k d →
      Evaluates program operators (.slots callee locals ((v, n) :: rest) body) f (.error i) f' k d

/-! ### Resources -/

/-- Tasks whose operator, if they have one to apply, fails only by the program's fault. -/
def Task.IsPlain : Task → Prop
  | .operands combinator _ _ => combinator.IsPlain
  | _ => True

theorem Body.isPlain_task (b : Body) : b.task.IsPlain := by
  cases b <;> trivial

/-- **No evaluation fails for want of a resource.** -/
theorem Evaluates.not_resourceEnd {program : Program} {operators : OperatorTable} {task : Task}
    {f f' : Frame} {o : Outcome} {k d : Nat} (h : Evaluates program operators task f o f' k d)
    (hplain : task.IsPlain) : ¬ ResourceEnd o := by
  induction h with
  | const => exact not_resourceEnd_plain (Constant.yields_value _)
  | get => exact not_resourceEnd_plain (Frame.yields_read _ _)
  | operands_nil => exact not_resourceEnd_plain (hplain _)
  | call_unresolved hr =>
    have hf := (resolve_yields program operators _ _).isResource_eq_false hr
    intro hres
    rw [show _ = true from hres] at hf
    cases hf
  | typeOperation _ => exact fun hres => by cases hres
  | set | declare | declare_only | call_decided | ret | breakTo | continueTo | coercion
  | absent | statements_nil | branches_nil | test_fails | rounds_left => exact id
  | node _ ih | set_interrupted _ ih | declare_interrupted _ ih | block _ ih
  | call_inlined _ _ ih | ret_interrupted _ ih | choose _ ih | preTest _ ih | postTest _ ih
  | coercion_interrupted _ ih | present _ ih | statements_interrupted _ ih
  | operands_interrupted _ ih | slots_interrupted _ ih => exact ih trivial
  | statements_cons _ _ _ ih | slots_cons _ _ _ ih => exact ih trivial
  | operands_cons _ _ _ ih => exact ih hplain
  | branches_taken _ _ _ _ ih | branches_passed _ _ _ _ ih | test_holds _ _ _ _ ih
  | rounds_goOn _ _ _ _ ih => exact ih trivial
  | call_strict hr _ ih => exact ih ((resolve_yields program operators _ _).of_eq_ok hr)
  | call_undecided _ _ _ _ _ _ ih =>
    rw [resourceEnd_map, resourceEnd_truth]
    exact ih trivial
  | call_interrupted _ _ ht ih | branches_interrupted _ ht ih | test_interrupted _ ht ih =>
    have hne := mt resourceEnd_truth.1 (ih trivial)
    rw [ht] at hne
    exact hne
  | @rounds_interrupted id q b f f' o i k d _ hr ih =>
    have hne := mt (resourceEnd_roundEnd id).1 (ih trivial)
    rw [hr] at hne
    exact hne
  | slots_nil _ ih =>
    rw [resourceEnd_settled]
    exact ih (Body.isPlain_task _)

end ConstFold
