import ConstFold.Proofs.Calls

/-!
# Forms of a function body

The body of a function can be put in more than one way.  An expression can be the only
statement of a block, or what a block returns, and a block can be an expression.  Which
functions of a program are put otherwise is left open, so that they may call one another and
themselves.

An expression and the block of it are evaluated by the same steps.  The other two forms have
a node more, the return or the block, which a call evaluates on entry and sees through on
exit: it makes no difference to a call whether the value of a body is returned or just
given.

## Main definitions

* `Program.restate` — the program with the bodies of its functions put otherwise.
* `Body.sequenced`, `Body.wrapped` — the other forms of a body.

## Main results

* `resolve_restate` — resolution finds the other body, and is otherwise the same.
* `foldCounted_sequenced` — an expression folds as the block of it does.
* `settle_wrapped` — **a wrapped body is the body after one more step and level.**
-/

namespace ConstFold

open Run

/-! ### Programs -/

/-- The declaration with its body put otherwise. -/
def Declaration.restate (g : Body → Body) (d : Declaration) : Declaration :=
  { d with body? := d.body?.map g }

/-- The program with the bodies of its functions put otherwise. -/
def Program.restate (g : SymbolId → Body → Body) (p : Program) : Program where
  entries := p.entries.map fun e => (e.1, e.2.restate (g e.1))
  nodup := by
    rw [List.map_map]
    exact p.nodup

theorem Program.get?_restate (g : SymbolId → Body → Body) (p : Program) (s : SymbolId) :
    (p.restate g).get? s = (p.get? s).map (Declaration.restate (g s)) := by
  obtain ⟨l, hl⟩ := p
  show (l.map fun e => (e.1, e.2.restate (g e.1))).lookup s = (l.lookup s).map _
  clear hl
  induction l with
  | nil => rfl
  | cons e rest ih =>
    rw [List.map_cons, Bindings.lookup_cons_eq_ite, Bindings.lookup_cons_eq_ite, ih]
    by_cases h : s = e.1 <;> simp [h]

/-! ### Resolution -/

/-- The resolved call with the body put otherwise. -/
def Resolved.restate (g : Body → Body) : Resolved → Resolved
  | .inlined slots body => .inlined slots (g body)
  | .shortCircuit decides combine left right => .shortCircuit decides combine left right
  | .strict combinator slots => .strict combinator slots

theorem Combinator.resolve_map_restate (g : Body → Body) (c : Combinator) (slots : List Node) :
    (c.resolve slots).map (Resolved.restate g) = c.resolve slots := by
  unfold Combinator.resolve
  split
  · rfl
  · split <;> rfl

/-- An operator has no body. -/
theorem resolveOperator_map_restate (g : Body → Body) (operators : OperatorTable)
    (callee : SymbolId) (parameters? : Option (List Parameter)) (arguments : List (Option Node)) :
    (resolveOperator operators callee parameters? arguments).map (Resolved.restate g) =
      resolveOperator operators callee parameters? arguments := by
  rw [resolveOperator_eq]
  cases operators.get? callee with
  | none => rfl
  | some b =>
    show (callSlots callee parameters? arguments >>= b.combinator.resolve).map _ =
      callSlots callee parameters? arguments >>= b.combinator.resolve
    cases callSlots callee parameters? arguments with
    | error f => rfl
    | ok slots => exact Combinator.resolve_map_restate g b.combinator slots

/-- Resolution finds the other body, and is otherwise the same. -/
theorem resolve_restate (g : SymbolId → Body → Body) (program : Program)
    (operators : OperatorTable) (callee : SymbolId) (arguments : List (Option Node)) :
    resolve (program.restate g) operators callee arguments =
      (resolve program operators callee arguments).map (Resolved.restate (g callee)) := by
  unfold resolve
  rw [Program.get?_restate]
  cases program.get? callee with
  | none => exact (resolveOperator_map_restate ..).symm
  | some d =>
    obtain ⟨name, parameters, body?⟩ := d
    cases body? with
    | none => exact (resolveOperator_map_restate ..).symm
    | some body =>
      show (declaredSlots callee parameters arguments >>= _) =
        (declaredSlots callee parameters arguments >>= _).map _
      cases declaredSlots callee parameters arguments <;> rfl

/-! ### The forms -/

namespace Body

/-- An expression as the only statement of a block. -/
def sequenced : Body → Body
  | .expression node => .block [node]
  | .block statements => .block statements

/-- An expression as a block that returns it, and a block as an expression. -/
def wrapped : Body → Body
  | .expression node => .block [.ret (some node)]
  | .block statements => .expression (.block statements)

/-- Puts the bodies of some functions otherwise. -/
def onMarked (marked : SymbolId → Bool) (g : Body → Body) (s : SymbolId) (body : Body) : Body :=
  if marked s then g body else body

end Body

/-! ### Expressions as blocks -/

theorem evalBody_sequenced (eval : Node → Run Value) (body : Body) :
    evalBody eval body.sequenced = evalBody eval body := by
  cases body with
  | block statements => rfl
  | expression node =>
    show (eval node >>= pure) = eval node
    exact bind_pure (eval node)

section Sequenced

variable (marked : SymbolId → Bool)

theorem evalResolved_sequenced (eval : Node → Run Value) (callee : SymbolId) (r : Resolved) :
    evalResolved eval callee (r.restate (Body.onMarked marked .sequenced callee)) =
      evalResolved eval callee r := by
  cases r with
  | inlined slots body =>
    have hbody :
        evalBody eval (Body.onMarked marked .sequenced callee body) = evalBody eval body := by
      unfold Body.onMarked
      split
      · exact evalBody_sequenced eval body
      · rfl
    simp only [Resolved.restate, evalResolved, hbody]
  | _ => rfl

variable (limits : Limits) (program : Program) (operators : OperatorTable)

theorem evalForm_sequenced (eval : Node → Run Value) (k : Nat) (n : Node) :
    evalForm ⟨limits, program.restate (Body.onMarked marked .sequenced), operators⟩ eval k n =
      evalForm ⟨limits, program, operators⟩ eval k n := by
  cases n with
  | call callee arguments =>
    simp only [evalForm, evalFormWith, evalCall, resolve_restate]
    cases resolve program operators callee arguments with
    | error cause => rfl
    | ok r => exact evalResolved_sequenced marked eval callee r
  | declare v initializer => cases initializer <;> rfl
  | typeOperation operator n => cases operator <;> rfl
  | _ => rfl

theorem evalNode_sequenced (fuel depth : Nat) :
    evalNode ⟨limits, program.restate (Body.onMarked marked .sequenced), operators⟩ fuel depth =
      evalNode ⟨limits, program, operators⟩ fuel depth := by
  induction fuel generalizing depth with
  | zero => rfl
  | succ fuel ih =>
    funext n
    rw [evalNode_succ, evalNode_succ, ih, evalForm_sequenced]
    rfl

/-- An expression folds as the block of it does, within any limits. -/
theorem foldCounted_sequenced (n : Node) :
    foldCounted ⟨limits, program.restate (Body.onMarked marked .sequenced), operators⟩ n =
      foldCounted ⟨limits, program, operators⟩ n := by
  rw [foldCounted_eq, foldCounted_eq]
  simp only [Evaluator.evalRoot, evaluate, Evaluator.start, evalNode_sequenced]

end Sequenced

/-! ### Wrapped bodies -/

/-- It makes no difference to a call whether the value of its body is returned or given. -/
theorem settle_bind_returning (callee : SymbolId) (f : Frame) (x : Run Value) :
    settle callee (inFrame f (x >>= fun a => interrupt (.returning a))) =
      settle callee (inFrame f x) := by
  funext s
  simp only [settle_apply, outcome_inFrame, final_inFrame, bind_apply]
  cases x { s with frame := f } <;> rfl

/-- **A wrapped body is the body after one more step and level.** -/
theorem settle_wrapped (context : Context) (depth : Nat) (callee : SymbolId) (f : Frame)
    (body : Body) :
    settle callee (inFrame f (evalBody (evaluate context depth) body.wrapped)) =
      settle callee (inFrame f
        (enter context depth >>= fun _ => evalBody (evaluate context (depth + 1)) body)) := by
  cases body with
  | block statements =>
    show settle callee (inFrame f (evaluate context depth (.block statements))) = _
    rw [evaluate_eq_enter_bind]
    rfl
  | expression node =>
    have hform : evaluateForm context (depth + 1) (.ret (some node)) =
        evaluate context (depth + 1) node >>= fun a => interrupt (.returning a) := rfl
    show settle callee (inFrame f (evaluate context depth (.ret (some node)) >>= pure)) = _
    rw [bind_pure, evaluate_eq_enter_bind, hform, ← bind_assoc, settle_bind_returning]
    rfl

end ConstFold
