import ConstFold.Proofs.Comparison
import ConstFold.Proofs.Metering

/-!
# Two evaluators in lockstep

Two evaluators that start each node together go together altogether.  The comparison
may depend on the depth, so that what is known of the states can grow with it.

## Main results

* `Comparison.agree_evalRounds` — loops go in lockstep if their parts do.
* `Comparison.agree_evalNode` — **evaluators go in lockstep if they do so at the start
  of each node**, and `Comparison.agree_evalNode_of_calls` the same where calls are
  resolved differently.
* `Comparison.foldCounted_cases` — how folds in lockstep come out.
* `evalNode_eq_evaluate` — fuel beyond the steps left changes nothing.
-/

namespace ConstFold

open Run

namespace Comparison

variable {c : Comparison} {m₁ m₂ : Nat}

/-! ### Loops -/

section Loops

variable {eval₁ eval₂ : Node → Run Value} {q q' : Node} {b b' : Option Node}

theorem agree_evalRound (h₁ : Metered eval₁) (h₂ : Metered eval₂)
    (hq : c.Agree m₁ m₂ (eval₁ q) (eval₂ q'))
    (hb : c.Agree m₁ m₂ (evalOptional eval₁ b) (evalOptional eval₂ b')) (id : LoopId)
    {again₁ again₂ : Run Value} (hs₁ : Spends again₁) (hs₂ : Spends again₂)
    (hagain : ∀ j₁ j₂, j₁ < m₁ → j₂ < m₂ → c.Agree j₁ j₂ again₁ again₂) :
    c.Agree m₁ m₂ (evalRound eval₁ id q b again₁) (evalRound eval₂ id q' b' again₂) := by
  refine (hb.interceptJump id).bind fun goesOn => ?_
  cases goesOn with
  | false => exact agree_pure _
  | true =>
    have hspends : ∀ {again : Run Value}, Spends again → ∀ holds : Bool,
        Spends (if holds then again else pure .unit) := by
      intro again hagain holds
      cases holds with
      | true => exact hagain
      | false => exact spends_pure _
    -- The condition has taken a step, so that the next round starts with fewer left.
    refine (agree_evalCondition hq).bind_advancing (h₁.advances_evalCondition q)
      (h₂.advances_evalCondition q') (hspends hs₁) (hspends hs₂) fun holds j₁ j₂ hj₁ hj₂ => ?_
    cases holds with
    | true => exact hagain j₁ j₂ hj₁ hj₂
    | false => exact agree_pure _

/-- Loops go in lockstep if their conditions and bodies do.  The rounds are counted
down by the fuel, but every round that is followed by another takes a step in its
condition, so that the fuel outlasts the steps. -/
theorem agree_evalRounds (h₁ : Metered eval₁) (h₂ : Metered eval₂)
    (hq : c.Agree m₁ m₂ (eval₁ q) (eval₂ q'))
    (hb : c.Agree m₁ m₂ (evalOptional eval₁ b) (evalOptional eval₂ b')) (id : LoopId)
    (k₁ k₂ : Nat) (hk₁ : k₁ ≤ m₁) (hk₂ : k₂ ≤ m₂) :
    c.Agree k₁ k₂ (evalRounds eval₁ id q b k₁) (evalRounds eval₂ id q' b' k₂) := by
  induction k₁ using Nat.strongRecOn generalizing k₂ with
  | _ k₁ ih =>
    have hround : c.Agree k₁ k₂
        (evalRound eval₁ id q b (evalRounds eval₁ id q b (k₁ - 1)))
        (evalRound eval₂ id q' b' (evalRounds eval₂ id q' b' (k₂ - 1))) := by
      refine agree_evalRound h₁ h₂ (hq.anti hk₁ hk₂) (hb.anti hk₁ hk₂) id
        (spends_evalRounds h₁.spends id q b _) (spends_evalRounds h₂.spends id q' b' _) ?_
      intro j₁ j₂ hj₁ hj₂
      exact (ih (k₁ - 1) (by omega) (k₂ - 1) (by omega) (by omega)).anti (by omega) (by omega)
    refine ⟨spends_evalRounds h₁.spends id q b k₁, spends_evalRounds h₂.spends id q' b' k₂, ?_⟩
    intro s t hs ht hst
    rw [evalRounds_eq_evalRound h₁ id q b hs, evalRounds_eq_evalRound h₂ id q' b' ht]
    exact hround.ends hs ht hst

end Loops

/-! ### Nodes -/

/-- One comparison is a special case of another. -/
structure Refines (c' c : Comparison) : Prop where
  states : ∀ {s t : State}, c'.States s t → c.States s t
  failures : ∀ {f g : Failure}, c'.failures f g → c.failures f g
  apart : ∀ {f : Failure} {b b' : Budget}, c'.apart f b b' → c.apart f b b'

theorem Refines.refl (c : Comparison) : c.Refines c := ⟨id, id, id⟩

theorem Ends.mono {α : Type} {c' c : Comparison} {r r' : EStateM.Result Interrupt State α}
    (hc : c'.Refines c) (h : c'.Ends c'.States r r') : c.Ends c.States r r' := by
  cases h with
  | value hst => exact .value (hc.states hst)
  | interrupted hi hst => exact .interrupted (hi.mono hc.failures) (hc.states hst)
  | stopped ha => exact .stopped (hc.apart ha)

section Nodes

variable {context₁ context₂ : Context}

/-- A call that the first run gives up on in its resolution, whatever the other run does. -/
theorem agree_evalForm_call_stopped {eval₁ eval₂ : Node → Run Value} (h₁ : ∀ n, Spends (eval₁ n))
    (h₂ : ∀ n, Spends (eval₂ n)) {k₁ k₂ : Nat} {callee : SymbolId} {as as' : List (Option Node)}
    {f : Failure} (hf : resolve context₁.program context₁.operators callee as = .error f)
    (hapart : ∀ b b', c.apart f b b') :
    c.Agree m₁ m₂ (evalForm context₁ eval₁ k₁ (.call callee as))
      (evalForm context₂ eval₂ k₂ (.call callee as')) where
  spends_left := spends_evalForm h₁ context₁ k₁ _
  spends_right := spends_evalForm h₂ context₂ k₂ _
  ends := by
    intro s t _ _ _
    have hfails : evalForm context₁ eval₁ k₁ (.call callee as) s = .error (.failing f) s := by
      show (ofExcept (resolve context₁.program context₁.operators callee as) >>=
        evalResolved eval₁ callee) s = _
      rw [hf]
      rfl
    rw [hfails]
    exact .stopped (hapart _ _)

/-- Nodes go in lockstep if they are started together and their forms go in lockstep. -/
theorem agree_evalNode_of_evalForm {c' : Comparison} (hc : c'.Refines c) {depth : Nat}
    (henter : ∀ s t, c.States s t →
      c.Ends c'.States (enter context₁ depth s) (enter context₂ depth t))
    {fuel₁ fuel₂ : Nat} {n n' : Node}
    (hform : ∀ k₁ k₂, k₁ < fuel₁ → k₁ = fuel₁ - 1 → k₂ = fuel₂ - 1 →
      c'.Agree k₁ k₂ (evalForm context₁ (evalNode context₁ k₁ (depth + 1)) k₁ n)
        (evalForm context₂ (evalNode context₂ k₂ (depth + 1)) k₂ n')) :
    c.Agree fuel₁ fuel₂ (evalNode context₁ fuel₁ depth n) (evalNode context₂ fuel₂ depth n') where
  spends_left := spends_evalNode context₁ fuel₁ depth n
  spends_right := spends_evalNode context₂ fuel₂ depth n'
  ends := by
    intro s t hs ht hst
    have hends := henter s t hst
    rw [evalNode_eq_enter_bind context₁ depth n hs, evalNode_eq_enter_bind context₂ depth n' ht,
      bind_apply, bind_apply]
    generalize hr₁ : enter context₁ depth s = r₁ at hends
    generalize hr₂ : enter context₂ depth t = r₂ at hends
    cases hends with
    | value huw =>
      -- Both forms start with a step less, which the fuel of their parts suffices for.
      have hlt₁ := advances_enter context₁ depth _ _ _ hr₁
      have hlt₂ := advances_enter context₂ depth _ _ _ hr₂
      exact ((hform _ _ (by omega) rfl rfl).ends (by omega) (by omega) huw).mono hc
    | interrupted hi huw => exact .interrupted hi huw
    | stopped ha =>
      cases r₂ with
      | error i w => exact .stopped ha
      | ok _ w =>
        -- The second evaluator has started the node and goes through it alone.
        have hspends := spends_evalForm (spends_evalNode context₂ (fuel₂ - 1) (depth + 1))
          context₂ (fuel₂ - 1) n'
        exact .stopped (c.apart_leads ha (hspends w))

/-- Two evaluators go in lockstep if they do so at the start of each node and in the
resolution of each call, unless the first one gives up there.  The nodes are related by
`N`, and what is related is alike, or is known to agree otherwise. -/
theorem agree_evalNode_of_calls {c : Nat → Comparison} {N : Node → Node → Prop}
    (hframes : ∀ depth, (c depth).frames = Eq)
    (hdeeper : ∀ depth, (c (depth + 1)).Refines (c depth))
    (henter : ∀ depth s t, (c depth).States s t →
      (c depth).Ends (c (depth + 1)).States (enter context₁ depth s) (enter context₂ depth t))
    (hcalls : ∀ callee as as', N (.call callee as) (.call callee as') →
      List.Forall₂ (Option.Rel N) as as' →
      Matches (Resolved.Alike N N) (resolve context₁.program context₁.operators callee as)
        (resolve context₂.program context₂.operators callee as') ∨
      ∃ f, resolve context₁.program context₁.operators callee as = .error f ∧
        ∀ depth b b', (c depth).apart f b b')
    (hnodes : ∀ n n', N n n' → Node.Alike N n n' ∨ ∀ fuel₁ fuel₂ depth,
      (c depth).Agree fuel₁ fuel₂ (evalNode context₁ fuel₁ depth n)
        (evalNode context₂ fuel₂ depth n'))
    (fuel₁ fuel₂ depth : Nat) (n n' : Node) (h : N n n') :
    (c depth).Agree fuel₁ fuel₂ (evalNode context₁ fuel₁ depth n)
      (evalNode context₂ fuel₂ depth n') := by
  -- The induction is on the fuel of the first run; that of the second may be anything.
  induction fuel₁ using Nat.strongRecOn generalizing fuel₂ depth n n' with
  | _ fuel₁ ih =>
    rcases hnodes n n' h with halike | hagree
    · refine agree_evalNode_of_evalForm (hdeeper depth) (henter depth) ?_
      intro k₁ k₂ hk₁ _ _
      have hparts := fun p p' hp => ih k₁ hk₁ k₂ (depth + 1) p p' hp
      have hfresh : (c (depth + 1)).fresh = c (depth + 1) := by
        unfold fresh
        rw [← hframes (depth + 1)]
      refine agree_evalForm hparts ?_ ?_ ?_ ?_ halike
      · exact fun v _ => agree_read (hframes _) v
      · exact fun v a _ => agree_bindVariable (hframes _) v a
      · rintro callee as as' rfl rfl has
        rcases hcalls callee as as' h has with hmatch | ⟨f, hf, hapart⟩
        · refine agree_evalForm_call_of_matches (M := N) hparts ?_ hmatch
          rw [hfresh]
          exact hparts
        · exact agree_evalForm_call_stopped (spends_evalNode context₁ k₁ (depth + 1))
            (spends_evalNode context₂ k₂ (depth + 1)) hf (hapart (depth + 1))
      · intro id q q' b b' hq hb
        exact agree_evalRounds (metered_evalNode context₁ k₁ (depth + 1))
          (metered_evalNode context₂ k₂ (depth + 1)) (hparts q q' hq)
          (agree_evalOptional hparts hb) id k₁ k₂ (Nat.le_refl _) (Nat.le_refl _)
    · exact hagree fuel₁ fuel₂ depth

/-- **Two evaluators go in lockstep if they do so at the start of each node.**  The nodes
are related by `N`, and what is related is alike, or is known to agree otherwise. -/
theorem agree_evalNode {c : Nat → Comparison} {N : Node → Node → Prop}
    (hframes : ∀ depth, (c depth).frames = Eq)
    (hdeeper : ∀ depth, (c (depth + 1)).Refines (c depth))
    (henter : ∀ depth s t, (c depth).States s t →
      (c depth).Ends (c (depth + 1)).States (enter context₁ depth s) (enter context₂ depth t))
    (hprogram : Program.Alike N N context₁.program context₂.program)
    (hoperators : context₁.operators = context₂.operators)
    (hnodes : ∀ n n', N n n' → Node.Alike N n n' ∨ ∀ fuel₁ fuel₂ depth,
      (c depth).Agree fuel₁ fuel₂ (evalNode context₁ fuel₁ depth n)
        (evalNode context₂ fuel₂ depth n'))
    (fuel₁ fuel₂ depth : Nat) (n n' : Node) (h : N n n') :
    (c depth).Agree fuel₁ fuel₂ (evalNode context₁ fuel₁ depth n)
      (evalNode context₂ fuel₂ depth n') := by
  refine agree_evalNode_of_calls hframes hdeeper henter ?_ hnodes fuel₁ fuel₂ depth n n' h
  intro callee as as' _ has
  rw [← hoperators]
  exact .inl (resolve_alike context₁.operators callee (hprogram callee) has)

end Nodes

/-- Two evaluators of one program go in lockstep if they do so at the start of each node. -/
theorem agree_evalNode_self {c : Nat → Comparison} {limits₁ limits₂ : Limits} {program : Program}
    {operators : OperatorTable} (hframes : ∀ depth, (c depth).frames = Eq)
    (hdeeper : ∀ depth, (c (depth + 1)).Refines (c depth))
    (henter : ∀ depth s t, (c depth).States s t →
      (c depth).Ends (c (depth + 1)).States (enter ⟨limits₁, program, operators⟩ depth s)
        (enter ⟨limits₂, program, operators⟩ depth t))
    (fuel₁ fuel₂ depth : Nat) (n : Node) :
    (c depth).Agree fuel₁ fuel₂ (evalNode ⟨limits₁, program, operators⟩ fuel₁ depth n)
      (evalNode ⟨limits₂, program, operators⟩ fuel₂ depth n) := by
  refine agree_evalNode (N := Eq) hframes hdeeper henter ?_ rfl ?_ fuel₁ fuel₂ depth n n rfl
  · exact Program.alike_self (fun _ _ => rfl) fun _ _ => rfl
  · rintro p _ rfl
    exact .inl (Node.alike_self fun _ _ => rfl)

/-! ### Folds -/

/-- How the folds of two evaluators in lockstep come out: with the same result from
budgets that correspond, or with the failure with which the first one gave up. -/
theorem foldCounted_cases (context₁ context₂ : Context) {n n' : Node}
    (h : c.Agree context₁.limits.maxSteps context₂.limits.maxSteps
      (evalNode context₁ context₁.limits.maxSteps 0 n)
      (evalNode context₂ context₂.limits.maxSteps 0 n'))
    (hfailures : ∀ f g, c.failures f g → f = g)
    (hstart : c.States ⟨.full context₁.limits.maxSteps, .empty⟩
      ⟨.full context₂.limits.maxSteps, .empty⟩) :
    (∃ r b b', foldCounted context₁ n = (r, b.used) ∧ foldCounted context₂ n' = (r, b'.used) ∧
      c.budgets b b' ∧ ∀ f, f.isResource = true → r = .error f → c.failures f f) ∨
    ∃ f b b', foldCounted context₁ n = (conclude (.error (.failing f)), b.used) ∧
      (foldCounted context₂ n').2 = b'.used ∧ c.apart f b b' := by
  have hends : c.Ends c.States ((Evaluator.start context₁).evalRoot n)
      ((Evaluator.start context₂).evalRoot n') :=
    h.ends (Nat.le_refl _) (Nat.le_refl _) hstart
  rw [foldCounted_eq, foldCounted_eq]
  generalize (Evaluator.start context₁).evalRoot n = r₁ at hends ⊢
  generalize (Evaluator.start context₂).evalRoot n' = r₂ at hends ⊢
  rcases hends.outcome_eq_or_apart hfailures with ⟨ho, hst, hf⟩ | ⟨f, ho, ha⟩
  · refine .inl ⟨_, _, _, rfl, by rw [ho], hst.budgets, fun f hres hr => ?_⟩
    exact hf f ((conclude_eq_error_iff hres).1 hr)
  · exact .inr ⟨f, _, _, by rw [ho], rfl, ha⟩

end Comparison

/-! ### Fuel -/

/-- The comparison of a run with itself. -/
def Comparison.same : Comparison where
  frames := Eq
  budgets := Eq
  failures := Eq
  apart := fun _ _ _ => False
  failures_self := fun _ => rfl
  apart_leads := fun h _ => h

theorem Comparison.States.same_eq {s t : State} (h : same.States s t) : s = t := by
  obtain ⟨b, f⟩ := s
  obtain ⟨b', f'⟩ := t
  obtain ⟨hb, hf⟩ := h
  cases hb
  cases hf
  rfl

theorem Comparison.Ends.same_eq {α : Type} {r r' : EStateM.Result Interrupt State α}
    (h : same.Ends same.States r r') : r = r' := by
  cases h with
  | value hst => rw [hst.same_eq]
  | interrupted hi hst =>
    rw [hst.same_eq]
    cases hi with
    | failing hfg => rw [show _ = _ from hfg]
    | _ => rfl
  | stopped ha => exact ha.elim

theorem Comparison.ends_same_self {α : Type} (r : EStateM.Result Interrupt State α) :
    same.Ends same.States r r := by
  cases r with
  | ok a s => exact .value ⟨rfl, rfl⟩
  | error i s =>
    refine .interrupted ?_ ⟨rfl, rfl⟩
    cases i with
    | returning value => exact .returning value
    | breaking target => exact .breaking target
    | continuing target => exact .continuing target
    | failing cause => exact .failing rfl

/-- **Fuel does not show**: whatever there is of it beyond the steps left, the evaluation
is the same. -/
theorem evalNode_eq_evaluate (context : Context) {fuel : Nat} (depth : Nat) (n : Node)
    {s : State} (hs : s.budget.remaining ≤ fuel) :
    evalNode context fuel depth n s = evaluate context depth n s := by
  have henter : ∀ depth s t, Comparison.same.States s t →
      Comparison.same.Ends Comparison.same.States (enter context depth s)
        (enter context depth t) := by
    intro depth s t hst
    rw [hst.same_eq]
    exact Comparison.ends_same_self _
  have hagree := Comparison.agree_evalNode_self (c := fun _ => .same) (fun _ => rfl)
    (fun _ => .refl _) henter fuel s.budget.remaining depth n
  exact (hagree.ends hs (Nat.le_refl _) ⟨rfl, rfl⟩).same_eq

end ConstFold
