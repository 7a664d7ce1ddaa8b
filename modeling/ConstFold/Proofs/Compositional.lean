import ConstFold.Evaluation.Node

/-!
# Relations between runs of two kinds

The forms of nodes are the same for runs of every kind.  So what is to be shown of a form on
two kinds of runs is shown of what runs are made of and of how one follows another, and then
holds of every form whose parts it holds of.

Two things are left open, as relations differ in them.  A call may be something else on
either side, and so may an activation.  And how often a loop goes round is up to its fuel,
which one side may have more of than the other.

A property of runs of one kind is a relation too, one that leaves the other run out.

## Main definitions

* `Compositional R` — the relation `R` is kept by what nodes are made of.

## Main results

* `Compositional.evalRound_of_bind` — rounds of a loop, where less is needed of what follows them.
* `Compositional.evalFormWith`, `Compositional.evalForm` — **the forms of nodes are related if
  their parts are.**
-/

namespace ConstFold

variable {M N : Type → Type} [Monad M] [RunLike M] [Monad N] [RunLike N]

/-- The relation holds of what nodes are made of, and is kept when one run follows another and
when a loop intercepts its jumps. -/
structure Compositional (R : (α : Type) → M α → N α → Prop) : Prop where
  pure {α : Type} (a : α) : R α (pure a) (pure a)
  bind {α β : Type} {x : M α} {y : N α} {f : α → M β} {g : α → N β} :
    R α x y → (∀ a, R β (f a) (g a)) → R β (x >>= f) (y >>= g)
  interrupt {α : Type} (i : Interrupt) : R α (RunLike.interrupt i) (RunLike.interrupt i)
  ofExcept {α : Type} (e : Except Failure α) : R α (RunLike.ofExcept e) (RunLike.ofExcept e)
  read (v : VariableId) : R Value (RunLike.read v) (RunLike.read v)
  bindVariable (v : VariableId) (a : Value) :
    R Unit (RunLike.bindVariable v a) (RunLike.bindVariable v a)
  interceptJump {x : M Value} {y : N Value} (id : LoopId) : R Value x y →
    R Bool (RunLike.interceptJump id x) (RunLike.interceptJump id y)

namespace Compositional

variable {R : (α : Type) → M α → N α → Prop} (hR : Compositional R) {eval : Node → M Value}
  {e : Node → N Value} (hparts : ∀ n, R Value (eval n) (e n))

include hR hparts

/-! ### Parts in order -/

theorem evalSequence (last : Value) (ns : List Node) :
    R Value (evalSequence eval last ns) (evalSequence e last ns) := by
  induction ns generalizing last with
  | nil => exact hR.pure last
  | cons n ns ih => exact hR.bind (hparts n) ih

theorem evalOptional (part : Option Node) :
    R Value (evalOptional eval part) (evalOptional e part) := by
  cases part with
  | none => exact hR.pure _
  | some n => exact hparts n

theorem evalAll (ns : List Node) : R (List Value) (evalAll eval ns) (evalAll e ns) := by
  induction ns with
  | nil => exact hR.pure _
  | cons n ns ih => exact hR.bind (hparts n) fun a => hR.bind ih fun as => hR.pure (a :: as)

theorem evalSlots (callee : Frame) (slots : List (VariableId × Node)) :
    R Frame (evalSlots eval callee slots) (evalSlots e callee slots) := by
  induction slots generalizing callee with
  | nil => exact hR.pure callee
  | cons slot rest ih => exact hR.bind (hparts slot.2) fun a => ih (callee.insert slot.1 a)

theorem evalBody (body : Body) : R Value (evalBody eval body) (evalBody e body) := by
  cases body with
  | block statements => exact hR.evalSequence hparts .unit statements
  | expression node => exact hparts node

/-! ### Conditions and loops -/

theorem evalCondition (q : Node) :
    R Bool (evalCondition eval q) (evalCondition e q) :=
  hR.bind (hparts q) fun a => hR.ofExcept a.asBool

theorem evalBranches (bs : List (Node × Node)) :
    R Value (evalBranches eval bs) (evalBranches e bs) := by
  induction bs with
  | nil => exact hR.pure _
  | cons b bs ih =>
    refine hR.bind (hR.evalCondition hparts b.1) fun holds => ?_
    cases holds with
    | true => exact hparts b.2
    | false => exact ih

section Rounds

variable {S : M Value → N Value → Prop} {q : Node} {again : M Value} {again' : N Value}

omit hR hparts in
/-- A condition, if after it another relation is enough, as after a step that has been taken. -/
theorem evalTest_of_bind
    (hcondition : ∀ f g, (∀ holds, S (f holds) (g holds)) →
      R Value (ConstFold.evalCondition eval q >>= f) (ConstFold.evalCondition e q >>= g))
    (hends : S (Pure.pure .unit) (Pure.pure .unit)) (hagain : S again again') :
    R Value (evalTest eval q again) (evalTest e q again') := by
  refine hcondition _ _ fun holds => ?_
  cases holds with
  | true => exact hagain
  | false => exact hends

/-- A round, if after its condition another relation is enough. -/
theorem evalRound_of_bind (id : LoopId) (b : Option Node)
    (hcondition : ∀ f g, (∀ holds, S (f holds) (g holds)) →
      R Value (ConstFold.evalCondition eval q >>= f) (ConstFold.evalCondition e q >>= g))
    (hends : S (Pure.pure .unit) (Pure.pure .unit)) (hagain : S again again') :
    R Value (evalRound eval id q b again) (evalRound e id q b again') := by
  refine hR.bind (hR.interceptJump id (hR.evalOptional hparts b)) fun goesOn => ?_
  cases goesOn with
  | true => exact evalTest_of_bind hcondition hends hagain
  | false => exact hR.pure _

end Rounds

theorem evalTest (q : Node) {again : M Value} {again' : N Value} (hagain : R Value again again') :
    R Value (evalTest eval q again) (evalTest e q again') :=
  evalTest_of_bind (fun _ _ => hR.bind (hR.evalCondition hparts q)) (hR.pure _) hagain

theorem evalRound (id : LoopId) (q : Node) (b : Option Node) {again : M Value} {again' : N Value}
    (hagain : R Value again again') :
    R Value (evalRound eval id q b again) (evalRound e id q b again') :=
  hR.evalRound_of_bind hparts id b (fun _ _ => hR.bind (hR.evalCondition hparts q)) (hR.pure _)
    hagain

/-- Rounds of which both sides have as many. -/
theorem evalRounds (hout : R Value RunLike.outOfFuel RunLike.outOfFuel) (id : LoopId) (q : Node)
    (b : Option Node) (fuel : Nat) :
    R Value (evalRounds eval id q b fuel) (evalRounds e id q b fuel) := by
  induction fuel with
  | zero => exact hout
  | succ fuel ih => exact hR.evalRound hparts id q b ih

/-! ### Nodes -/

/-- Calls are related if the activations are. -/
theorem evalResolved {callee : SymbolId} {r : Resolved}
    (hactivate : ∀ slots body frame, r = .inlined slots body →
      R Value (RunLike.activate callee frame (ConstFold.evalBody eval body))
        (RunLike.activate callee frame (ConstFold.evalBody e body))) :
    R Value (evalResolved eval callee r) (evalResolved e callee r) := by
  cases r with
  | inlined slots body =>
    exact hR.bind (hR.evalSlots hparts .empty slots) fun frame => hactivate slots body frame rfl
  | shortCircuit decides combine left right =>
    refine hR.bind (hR.evalCondition hparts left) fun p => ?_
    cases decides p with
    | true => exact hR.pure _
    | false => exact hR.bind (hR.evalCondition hparts right) fun q => hR.pure _
  | strict combinator slots =>
    exact hR.bind (hR.evalAll hparts slots) fun values => hR.ofExcept (combinator.apply values)

/-- **The forms of nodes are related if their parts are**, and if calls and the rounds of loops
are. -/
theorem evalFormWith {call : SymbolId → List (Option Node) → M Value}
    {call' : SymbolId → List (Option Node) → N Value}
    {rounds : LoopId → Node → Option Node → M Value}
    {rounds' : LoopId → Node → Option Node → N Value}
    (hcall : ∀ callee as, R Value (call callee as) (call' callee as))
    (hrounds : ∀ id q b, R Value (rounds id q b) (rounds' id q b)) (n : Node) :
    R Value (evalFormWith call rounds eval n) (evalFormWith call' rounds' e n) := by
  have hassign : ∀ v p, R Value
      (eval p >>= fun a => RunLike.bindVariable v a >>= fun _ => Pure.pure .unit)
      (e p >>= fun a => RunLike.bindVariable v a >>= fun _ => Pure.pure .unit) :=
    fun v p => hR.bind (hparts p) fun a => hR.bind (hR.bindVariable v a) fun _ => hR.pure _
  cases n with
  | const c => exact hR.ofExcept c.value
  | get v => exact hR.read v
  | set v p => exact hassign v p
  | declare v initializer =>
    cases initializer with
    | none => exact hR.pure _
    | some p => exact hassign v p
  | block ns => exact hR.evalSequence hparts .unit ns
  | call callee as => exact hcall callee as
  | ret part =>
    exact hR.bind (hR.evalOptional hparts part) fun a => hR.interrupt (.returning a)
  | choose bs => exact hR.evalBranches hparts bs
  | loop id kind q b =>
    cases kind with
    | preTest => exact hR.evalTest hparts q (hrounds id q b)
    | postTest => exact hrounds id q b
  | breakTo target => exact hR.interrupt (.breaking target)
  | continueTo target => exact hR.interrupt (.continuing target)
  | typeOperation operator p =>
    cases operator with
    | coercionToUnit => exact hR.bind (hparts p) fun _ => hR.pure _
    | _ => exact hR.ofExcept _

/-- The forms of nodes of one program, if the activations in it are related. -/
theorem evalForm {k j : Nat} (context : Context)
    (hactivate : ∀ callee frame body,
      R Value (RunLike.activate callee frame (ConstFold.evalBody eval body))
        (RunLike.activate callee frame (ConstFold.evalBody e body)))
    (hrounds : ∀ id q b, R Value (ConstFold.evalRounds eval id q b k)
      (ConstFold.evalRounds e id q b j)) (n : Node) :
    R Value (evalForm context eval k n) (evalForm context e j n) :=
  hR.evalFormWith hparts (fun callee as =>
    hR.bind (hR.ofExcept (resolve context.program context.operators callee as)) fun _ =>
      hR.evalResolved hparts fun _ body frame _ => hactivate callee frame body) hrounds n

end Compositional

end ConstFold
