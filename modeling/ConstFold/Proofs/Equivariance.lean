import ConstFold.Proofs.Outcomes
import ConstFold.Proofs.Renaming

/-!
# Identities are opaque

To rename what is evaluated is to rename the evaluation.  A run under the new identities
goes through the renamed states and ends in the renamed way, step by step with the run
under the old ones.  This is shown first of what runs are made of and are combined by,
then of the forms of nodes, then of the evaluator.  The only place where it matters that
distinct identities stay distinct, apart from lookups, is where a loop asks whether a jump
is meant for it.

## Main definitions

* `Interrupt.rename`, `State.rename`, `Context.rename` — the renaming of interrupts, states
  and contexts.
* `Run.Renames ρ g x y` — the run `y` does under the new identities what `x` does under the
  old ones, with values that are sent through `g`.

## Main results

* `Run.Renames.bind`, `Run.Renames.mapped`, `Run.Renames.inFrame` — what runs are combined
  by commutes with renaming.
* `renames_evalForm`, `renames_evalNode` — so do the forms of nodes and the evaluator.
* `foldCounted_rename` — **folding is equivariant under renaming.**
-/

namespace ConstFold

/-- An interrupt with its identities renamed. -/
def Interrupt.rename (ρ : Renaming) : Interrupt → Interrupt
  | .returning value => .returning value
  | .breaking target => .breaking (ρ.loopId target)
  | .continuing target => .continuing (ρ.loopId target)
  | .failing cause => .failing (cause.rename ρ)

/-- The way an evaluation ends, with its value sent through `g` or its interrupt renamed. -/
def renamedOutcome {α β : Type} (ρ : Renaming) (g : α → β) :
    Except Interrupt α → Except Interrupt β
  | .ok a => .ok (g a)
  | .error i => .error (i.rename ρ)

/-- The state with the variables of its frame renamed. -/
def State.rename (ρ : Renaming) (s : State) : State := { s with frame := s.frame.rename ρ }

/-- The context with its tables renamed. -/
def Context.rename (ρ : Renaming) (context : Context) : Context :=
  ⟨context.limits, context.program.rename ρ, context.operators.rename ρ⟩

/-! ### Outcomes -/

/-- Distinct loops stay distinct, so that a jump is meant for the new loop exactly if it was
meant for the old one. -/
theorem roundEnd_renamedOutcome (ρ : Renaming) (l : LoopId) (o : Outcome) :
    roundEnd (ρ.loopId l) (renamedOutcome ρ id o) = renamedOutcome ρ id (roundEnd l o) := by
  have hmeant : ∀ target, ρ.loopId target = ρ.loopId l ↔ target = l :=
    fun _ => ρ.loopId.injective.eq_iff
  cases o with
  | ok a => rfl
  | error i =>
    cases i with
    | returning a => rfl
    | failing cause => rfl
    | breaking target =>
      simp only [renamedOutcome, Interrupt.rename, roundEnd, hmeant]
      split <;> rfl
    | continuing target =>
      simp only [renamedOutcome, Interrupt.rename, roundEnd, hmeant]
      split <;> rfl

theorem settled_renamedOutcome (ρ : Renaming) (callee : SymbolId) (o : Outcome) :
    settled (ρ.symbolId callee) (renamedOutcome ρ id o) =
      renamedOutcome ρ id (settled callee o) := by
  cases o with
  | ok a => rfl
  | error i => cases i <;> rfl

/-- What comes out at the root names the new identities. -/
theorem conclude_renamedOutcome (ρ : Renaming) (o : Outcome) :
    conclude (renamedOutcome ρ id o) = renamedResult ρ id (conclude o) := by
  cases o with
  | ok a => cases a <;> rfl
  | error i => cases i <;> rfl

/-! ### What runs are made of -/

namespace Run

variable {α β γ δ : Type} {ρ : Renaming} {g : α → β} {h : γ → δ}

/-- Under the new identities the run `y` does what `x` does under the old ones. -/
def Renames (ρ : Renaming) (g : α → β) (x : Run α) (y : Run β) : Prop :=
  ∀ s : State, y (s.rename ρ) =
    ending (renamedOutcome ρ g (outcome (x s))) ((final (x s)).rename ρ)

theorem renames_pure (a : α) : Renames ρ g (pure a) (pure (g a)) := fun _ => rfl

theorem renames_interrupt (i : Interrupt) :
    Renames ρ g (interrupt i) (interrupt (i.rename ρ)) := fun _ => rfl

theorem renames_outOfSteps : Renames ρ g outOfSteps outOfSteps := fun _ => rfl

theorem renames_ofExcept (e : Except Failure α) :
    Renames ρ g (ofExcept e) (ofExcept (renamedResult ρ g e)) := by
  cases e with
  | ok a => exact renames_pure a
  | error f => exact renames_interrupt (.failing f)

/-- A plain result that names no identity stays the same. -/
theorem renames_ofExcept_self {e : Except Failure α} (he : renamedResult ρ id e = e) :
    Renames ρ id (ofExcept e) (ofExcept e) := by
  have hrenames : Renames ρ id (ofExcept e) (ofExcept (renamedResult ρ id e)) :=
    renames_ofExcept e
  rwa [he] at hrenames

theorem renames_charge : Renames ρ id charge charge := by
  intro s
  show charge (s.rename ρ) = _
  rcases Nat.eq_zero_or_pos s.budget.remaining with hzero | hpos
  · rw [charge_of_remaining_eq_zero hzero, charge_of_remaining_eq_zero (s := s.rename ρ) hzero]
    rfl
  · rw [charge_of_remaining_pos hpos, charge_of_remaining_pos (s := s.rename ρ) hpos]
    rfl

/-- The new variable is read where the old one was. -/
theorem renames_read (v : VariableId) : Renames ρ id (read v) (read (ρ.variableId v)) := by
  intro s
  show ofExcept (Frame.read (s.frame.rename ρ) (ρ.variableId v)) (s.rename ρ) = _
  rw [Frame.read_rename]
  exact renames_ofExcept (s.frame.read v) s

/-- The new variable is bound where the old one was. -/
theorem renames_bindVariable (v : VariableId) (a : Value) :
    Renames ρ id (bindVariable v a) (bindVariable (ρ.variableId v) a) := by
  intro s
  have hstate : State.rename ρ { s with frame := s.frame.insert v a } =
      { s.rename ρ with frame := (s.frame.rename ρ).insert (ρ.variableId v) a } :=
    congrArg (State.mk s.budget) (Frame.rename_insert ρ s.frame v a)
  rw [bindVariable_apply, bindVariable_apply, final_ok, hstate]
  rfl

/-! ### What runs are combined by -/

theorem Renames.bind {x : Run α} {y : Run β} {f : α → Run γ} {f' : β → Run δ}
    (hx : Renames ρ g x y) (hf : ∀ a, Renames ρ h (f a) (f' (g a))) :
    Renames ρ h (x >>= f) (y >>= f') := by
  intro s
  rw [bind_apply, bind_apply, hx s]
  cases x s with
  | ok a t => exact hf a t
  | error i t => rfl

/-- Runs that change only the outcomes of others go together if the changes do. -/
theorem Renames.mapped {x : Run α} {y : Run β} {x' : Run γ} {y' : Run δ}
    {φ : Except Interrupt α → Except Interrupt γ} {φ' : Except Interrupt β → Except Interrupt δ}
    (hxy : Renames ρ g x y) (hx : ∀ s, x' s = ending (φ (outcome (x s))) (final (x s)))
    (hy : ∀ s, y' s = ending (φ' (outcome (y s))) (final (y s)))
    (hφ : ∀ o, φ' (renamedOutcome ρ g o) = renamedOutcome ρ h (φ o)) : Renames ρ h x' y' := by
  intro s
  rw [hx, hy, hxy s, outcome_ending, final_ending, outcome_ending, final_ending, hφ]

/-- An activation in the renamed frame. -/
theorem Renames.inFrame {x : Run α} {y : Run β} (hxy : Renames ρ g x y) (f : Frame) :
    Renames ρ g (inFrame f x) (inFrame (f.rename ρ) y) := by
  intro s
  have hin : y { s.rename ρ with frame := f.rename ρ } = _ := hxy { s with frame := f }
  rw [← ending_outcome_final (Run.inFrame (f.rename ρ) y _), outcome_inFrame, final_inFrame,
    outcome_inFrame, final_inFrame, hin, outcome_ending, final_ending]
  rfl

theorem Renames.interceptJump {x y : Run Value} (hxy : Renames ρ id x y) (l : LoopId) :
    Renames ρ id (interceptJump l x) (interceptJump (ρ.loopId l) y) :=
  hxy.mapped (interceptJump_apply l x) (interceptJump_apply _ y) (roundEnd_renamedOutcome ρ l)

theorem Renames.settle {x y : Run Value} (hxy : Renames ρ id x y) (callee : SymbolId) :
    Renames ρ id (settle callee x) (settle (ρ.symbolId callee) y) :=
  hxy.mapped (settle_apply callee x) (settle_apply _ y) (settled_renamedOutcome ρ callee)

end Run

/-! ### Forms of nodes -/

open Run

section

variable {ρ : Renaming} {eval eval' : Node → Run Value}
  (heval : ∀ n, Renames ρ id (eval n) (eval' (n.rename ρ)))

include heval

theorem renames_evalCondition (q : Node) :
    Renames ρ id (evalCondition eval q) (evalCondition eval' (q.rename ρ)) :=
  (heval q).bind fun a => renames_ofExcept_self (Value.renamedResult_asBool ρ a)

theorem renames_evalSequence (last : Value) (ns : List Node) :
    Renames ρ id (evalSequence eval last ns)
      (evalSequence eval' last (ns.map (Node.rename ρ))) := by
  induction ns generalizing last with
  | nil => exact renames_pure last
  | cons n ns ih => exact (heval n).bind ih

theorem renames_evalBranches (bs : List (Node × Node)) :
    Renames ρ id (evalBranches eval bs)
      (evalBranches eval' (bs.map (Prod.map (Node.rename ρ) (Node.rename ρ)))) := by
  induction bs with
  | nil => exact renames_pure _
  | cons b bs ih =>
    refine (renames_evalCondition heval b.1).bind fun holds => ?_
    cases holds with
    | true => exact heval b.2
    | false => exact ih

theorem renames_evalOptional (o : Option Node) :
    Renames ρ id (evalOptional eval o) (evalOptional eval' (o.map (Node.rename ρ))) := by
  cases o with
  | none => exact renames_pure _
  | some n => exact heval n

theorem renames_evalTest (q : Node) {again again' : Run Value}
    (hagain : Renames ρ id again again') :
    Renames ρ id (evalTest eval q again) (evalTest eval' (q.rename ρ) again') := by
  refine (renames_evalCondition heval q).bind fun holds => ?_
  cases holds with
  | true => exact hagain
  | false => exact renames_pure _

theorem renames_evalRound (l : LoopId) (q : Node) (b : Option Node) {again again' : Run Value}
    (hagain : Renames ρ id again again') :
    Renames ρ id (evalRound eval l q b again)
      (evalRound eval' (ρ.loopId l) (q.rename ρ) (b.map (Node.rename ρ)) again') := by
  refine ((renames_evalOptional heval b).interceptJump l).bind fun goesOn => ?_
  cases goesOn with
  | true => exact renames_evalTest heval q hagain
  | false => exact renames_pure _

/-- Both loops make as many rounds, as both count them down from the same fuel. -/
theorem renames_evalRounds (l : LoopId) (q : Node) (b : Option Node) (fuel : Nat) :
    Renames ρ id (evalRounds eval l q b fuel)
      (evalRounds eval' (ρ.loopId l) (q.rename ρ) (b.map (Node.rename ρ)) fuel) := by
  induction fuel with
  | zero => exact renames_outOfSteps
  | succ fuel ih => exact renames_evalRound heval l q b ih

theorem renames_evalLoop (fuel : Nat) (l : LoopId) (q : Node) (b : Option Node)
    (kind : LoopKind) :
    Renames ρ id (evalLoop eval q (evalRounds eval l q b fuel) kind)
      (evalLoop eval' (q.rename ρ)
        (evalRounds eval' (ρ.loopId l) (q.rename ρ) (b.map (Node.rename ρ)) fuel) kind) := by
  have hrounds := renames_evalRounds heval l q b fuel
  cases kind with
  | preTest => exact renames_evalTest heval q hrounds
  | postTest => exact hrounds

theorem renames_evalAll (ns : List Node) :
    Renames ρ id (evalAll eval ns) (evalAll eval' (ns.map (Node.rename ρ))) := by
  induction ns with
  | nil => exact renames_pure _
  | cons n ns ih => exact (heval n).bind fun a => ih.bind fun as => renames_pure (a :: as)

/-- The frame made for the callee is the renamed one. -/
theorem renames_evalSlots (f : Frame) (slots : List (VariableId × Node)) :
    Renames ρ (Frame.rename ρ) (evalSlots eval f slots)
      (evalSlots eval' (f.rename ρ) (slots.map (Prod.map ρ.variableId (Node.rename ρ)))) := by
  induction slots generalizing f with
  | nil => exact renames_pure f
  | cons slot slots ih =>
    refine (heval slot.2).bind fun a => ?_
    have hrest := ih (f.insert slot.1 a)
    rwa [Frame.rename_insert] at hrest

theorem renames_evalBody (b : Body) :
    Renames ρ id (evalBody eval b) (evalBody eval' (b.rename ρ)) := by
  cases b with
  | block statements => exact renames_evalSequence heval _ statements
  | expression n => exact heval n

/-- A resolved call; a combinator that is applied in it has to be that of an operator. -/
theorem renames_evalResolved (callee : SymbolId) {r : Resolved}
    (hr : ∀ c slots, r = .strict c slots → ∃ b : Builtin, c = b.combinator) :
    Renames ρ id (evalResolved eval callee r)
      (evalResolved eval' (ρ.symbolId callee) (r.rename ρ)) := by
  cases r with
  | inlined slots body =>
    refine (renames_evalSlots heval .empty slots).bind fun f => ?_
    exact ((renames_evalBody heval body).inFrame f).settle callee
  | shortCircuit decides combine left right =>
    refine (renames_evalCondition heval left).bind fun p => ?_
    show Renames ρ id (if decides p then _ else _) (if decides p then _ else _)
    split
    · exact renames_pure _
    · exact (renames_evalCondition heval right).bind fun q => renames_pure _
  | strict c slots =>
    obtain ⟨b, rfl⟩ := hr c slots rfl
    refine (renames_evalAll heval slots).bind fun args => ?_
    exact renames_ofExcept_self (b.renamedResult_apply ρ args)

/-- A call is resolved to the renamed resolved call, or refused with the renamed failure. -/
theorem renames_evalForm_call (context : Context) (fuel : Nat) (callee : SymbolId)
    (as : List (Option Node)) :
    Renames ρ id (evalForm context eval fuel (.call callee as))
      (evalForm (context.rename ρ) eval' fuel
        (.call (ρ.symbolId callee) (as.map (Option.map (Node.rename ρ))))) := by
  have hresolve := resolve_rename ρ context.program context.operators callee as
  show Renames ρ id
    (ofExcept (resolve context.program context.operators callee as) >>= evalResolved eval callee)
    (ofExcept (resolve (context.program.rename ρ) (context.operators.rename ρ) _ _) >>=
      evalResolved eval' (ρ.symbolId callee))
  rw [hresolve]
  cases hr : resolve context.program context.operators callee as with
  | error f => exact renames_interrupt (.failing f)
  | ok r =>
    refine renames_evalResolved heval callee fun c slots h => ?_
    obtain ⟨b, hb, -⟩ := exists_builtin_of_resolve_eq_strict (h ▸ hr)
    exact ⟨b, hb⟩

theorem renames_evalForm (context : Context) (fuel : Nat) (n : Node) :
    Renames ρ id (evalForm context eval fuel n)
      (evalForm (context.rename ρ) eval' fuel (n.rename ρ)) := by
  cases n with
  | const c => exact renames_ofExcept_self (c.renamedResult_value ρ)
  | get v => exact renames_read v
  | set v n =>
    refine (heval n).bind fun a => ?_
    exact (renames_bindVariable v a).bind fun _ => renames_pure _
  | declare v initializer =>
    cases initializer with
    | none => exact renames_pure _
    | some n =>
      refine (heval n).bind fun a => ?_
      exact (renames_bindVariable v a).bind fun _ => renames_pure _
  | block statements =>
    rw [Node.rename, Node.renameAll_eq_map]
    exact renames_evalSequence heval _ statements
  | call callee as =>
    rw [Node.rename, Node.renameArguments_eq_map]
    exact renames_evalForm_call heval context fuel callee as
  | ret value =>
    rw [Node.rename, Node.renameOption_eq_map]
    exact (renames_evalOptional heval value).bind fun a => renames_interrupt (.returning a)
  | choose branches =>
    rw [Node.rename, Node.renameBranches_eq_map]
    exact renames_evalBranches heval branches
  | loop l kind q b =>
    rw [Node.rename, Node.renameOption_eq_map]
    exact renames_evalLoop heval fuel l q b kind
  | breakTo target => exact renames_interrupt (.breaking target)
  | continueTo target => exact renames_interrupt (.continuing target)
  | typeOperation operator n =>
    cases operator with
    | coercionToUnit => exact (heval n).bind fun _ => renames_pure _
    | _ => exact renames_interrupt (.failing (.unsupported _))

end

/-! ### The evaluator -/

section

variable (ρ : Renaming) (context : Context)

/-- The limits are no identities, so that nodes are started alike. -/
theorem renames_enter (depth : Nat) :
    Renames ρ id (enter context depth) (enter (context.rename ρ) depth) := by
  refine renames_charge.bind fun _ => ?_
  show Renames ρ id (if depth < context.limits.maxDepth then _ else _)
    (if depth < context.limits.maxDepth then _ else _)
  split
  · exact renames_pure _
  · exact renames_interrupt (.failing (.depthExceeded _))

/-- **The evaluator commutes with renaming.** -/
theorem renames_evalNode (fuel depth : Nat) (n : Node) :
    Renames ρ id (evalNode context fuel depth n)
      (evalNode (context.rename ρ) fuel depth (n.rename ρ)) := by
  induction fuel generalizing depth n with
  | zero => exact renames_outOfSteps
  | succ fuel ih =>
    refine (renames_enter ρ context depth).bind fun _ => ?_
    exact renames_evalForm (ih (depth + 1)) context fuel n

/-- **Folding is equivariant under renaming.**  With new identities for the old ones in the
root, in the declarations and in the operator table, a fold takes the same number of steps,
and gives the same literal, or the same failure with the new identity in place of the one
that it names. -/
theorem foldCounted_rename (root : Node) :
    foldCounted (context.rename ρ) (root.rename ρ) =
      ((foldCounted context root).1.mapError (Failure.rename ρ), (foldCounted context root).2) := by
  have hroot : (Evaluator.start (context.rename ρ)).evalRoot (root.rename ρ) = _ :=
    renames_evalNode ρ context context.limits.maxSteps 0 root ⟨.full context.limits.maxSteps, .empty⟩
  rw [foldCounted_eq, foldCounted_eq, hroot, outcome_ending, final_ending,
    conclude_renamedOutcome, renamedResult_id]
  rfl

end

/-! ### An instance -/

/-- A function whose loop `1` jumps past the end of the loop `2`, which is not in it. -/
def strayProgram : Program :=
  Bindings.empty.insert ⟨100⟩
    ⟨"stray", [⟨⟨0⟩, none⟩],
      some (.block [.loop ⟨1⟩ .postTest (.bool true) (some (.breakTo ⟨2⟩))])⟩

/-- A call of it with the sum of two numbers, in the loop `2` of the caller. -/
def strayRoot : Node :=
  .loop ⟨2⟩ .postTest (.bool false)
    (some (.call ⟨100⟩ [some (.callBuiltin .intPlus [.int 1, .int 2])]))

/-- The two loops change places, and so do the function and the operator. -/
def strayRenaming : Renaming where
  variableId := .refl _
  loopId := (Equiv.swap ⟨1⟩ ⟨2⟩).toEmbedding
  symbolId := (Equiv.swap ⟨100⟩ Builtin.intPlus.symbol).toEmbedding

/-- The jump leaves the function as before, which now has the symbol that was the operator's. -/
theorem foldCounted_rename_stray :
    foldCounted ⟨⟨20, 10⟩, strayProgram, .reserved⟩ strayRoot =
        (.error (.abnormalExit ⟨100⟩), 7) ∧
      foldCounted (Context.rename strayRenaming ⟨⟨20, 10⟩, strayProgram, .reserved⟩)
          (strayRoot.rename strayRenaming) =
        (.error (.abnormalExit Builtin.intPlus.symbol), 7) := by
  have hfold : foldCounted ⟨⟨20, 10⟩, strayProgram, .reserved⟩ strayRoot =
      (.error (.abnormalExit ⟨100⟩), 7) := by
    decide +kernel
  refine ⟨hfold, ?_⟩
  rw [foldCounted_rename, hfold]
  decide

end ConstFold
