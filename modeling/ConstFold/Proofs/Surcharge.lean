import ConstFold.Proofs.BodyForms
import ConstFold.Proofs.Causes
import ConstFold.Proofs.Entries
import ConstFold.Proofs.Realization
import ConstFold.Proofs.StepLimit

/-!
# What a wrapped body costs

A program in which the bodies of some functions are wrapped does what it does without that,
and takes one step more for each entry into one of these bodies.  The two runs have budgets
and levels of their own, and they drift apart in both with every call: the run with the
wrapped bodies is the one that needs more.  It is enough that one of them ends otherwise than
for want of a resource, if it is the poorer one, or if the other one has steps to spare for
all the entries to come and twice the levels.

## Main definitions

* `Surcharges m marked poorer roomier x y` — the run `y` does what `x` does, with a step more
  for each marked function that `x` enters.

## Main results

* `Surcharges.bind`, `Surcharges.mapped`, `Surcharges.framed`, `Surcharges.entered` — what runs
  are combined by adds up the steps.
* `surcharges_evalNode` — **a step more for each entry into a wrapped body.**
* `foldCounted_bodyForms` — **the forms of a function body agree.**
-/

namespace ConstFold

open Run

/-- A node that does not run out of a resource has been started. -/
theorem started_of_not_resourceEnd {α : Type} {context : Context} {depth : Nat} {x : Run α}
    {s : State} (h : ¬ ResourceEnd (outcome ((enter context depth >>= fun _ => x) s))) :
    0 < s.budget.remaining ∧ depth < context.limits.maxDepth := by
  rw [bind_apply] at h
  rcases Nat.eq_zero_or_pos s.budget.remaining with hs | hs
  · rw [enter_of_remaining_eq_zero context depth hs] at h
    exact absurd rfl h
  · refine ⟨hs, Nat.lt_of_not_le fun hd => ?_⟩
    rw [enter_of_le hs hd] at h
    exact absurd rfl h

/-! ### Surcharges -/

section Surcharges

variable {α β : Type} {m : Nat} {marked : SymbolId → Bool} {poorer roomier : Prop}

/-- One of two runs ends otherwise than for want of a resource, and it is the poorer one, or
the other one has room for it and can pay `c` steps more. -/
def Fits (poorer roomier : Prop) (s t : State) (c : Nat) (o o' : Except Interrupt α) : Prop :=
  (¬ ResourceEnd o' ∧ poorer ∧ t.budget.remaining ≤ s.budget.remaining) ∨
    (¬ ResourceEnd o ∧ roomier ∧ s.budget.remaining + c ≤ t.budget.remaining)

/-- From states with the same frame, at most `m` steps of which are left for `x`, the run `y`
does what `x` does, and takes a step more for each marked function that `x` enters. -/
def Surcharges (m : Nat) (marked : SymbolId → Bool) (poorer roomier : Prop) (x : Entering α)
    (y : Run α) : Prop :=
  ∀ s t : State, s.budget.remaining ≤ m → s.frame = t.frame →
    Fits poorer roomier s t ((x.entered s).countP marked) (outcome (x.run s)) (outcome (y t)) →
    ∃ o f k, x.run s = ending o ⟨s.budget.spend k, f⟩ ∧
      y t = ending o ⟨t.budget.spend (k + (x.entered s).countP marked), f⟩ ∧
      k ≤ s.budget.remaining ∧ k + (x.entered s).countP marked ≤ t.budget.remaining

namespace Surcharges

variable {x : Entering α} {y : Run α}

theorem anti {j : Nat} (h : Surcharges m marked poorer roomier x y) (hj : j ≤ m) :
    Surcharges j marked poorer roomier x y :=
  fun s t hs => h s t (Nat.le_trans hs hj)

/-- Less may be known of the budgets and the levels. -/
theorem mono {poorer' roomier' : Prop} (h : Surcharges m marked poorer roomier x y)
    (hpoorer : poorer' → poorer) (hroomier : roomier' → roomier) :
    Surcharges m marked poorer' roomier' x y :=
  fun s t hs hst hfits => h s t hs hst <| hfits.imp
    (fun ⟨hne, hp, hle⟩ => ⟨hne, hpoorer hp, hle⟩) fun ⟨hne, hr, hle⟩ => ⟨hne, hroomier hr, hle⟩

theorem of_eq {y' : Run α} (h : Surcharges m marked poorer roomier x y)
    (hy : ∀ t, y' t = y t) : Surcharges m marked poorer roomier x y' := by
  rwa [show y' = y from funext hy]

/-- What ends at once is no dearer. -/
theorem instant {x : Run α} {φ : Frame → Except Interrupt α × Frame}
    (hx : ∀ s, x s = ending (φ s.frame).1 { s with frame := (φ s.frame).2 }) :
    Surcharges m marked poorer roomier (.ofRun x) x := by
  intro s t _ hst _
  refine ⟨(φ s.frame).1, (φ s.frame).2, 0, hx s, ?_, Nat.zero_le _, Nat.zero_le _⟩
  rw [hx t, hst]
  rfl

/-- One run after the other. -/
theorem bind_of_eq_ok {f : α → Entering β} {g : α → Run β}
    (hx : Surcharges m marked poorer roomier x y)
    (hf : ∀ {s t : State} {a : α}, s.budget.remaining ≤ m → x.run s = .ok a t →
      t.budget.remaining ≤ s.budget.remaining →
      Surcharges t.budget.remaining marked poorer roomier (f a) (g a)) :
    Surcharges m marked poorer roomier (x >>= f) (y >>= g) := by
  intro s t hs hst hfits
  rw [Entering.run_bind] at hfits ⊢
  have hcount : (x.entered s).countP marked ≤ ((x >>= f).entered s).countP marked := by
    rw [Entering.entered_bind, List.countP_append]
    exact Nat.le_add_right _ _
  have hfirst : Fits poorer roomier s t ((x.entered s).countP marked) (outcome (x.run s))
      (outcome (y t)) :=
    hfits.imp (fun ⟨hne, hrest⟩ => ⟨mt resourceEnd_bind hne, hrest⟩)
      fun ⟨hne, hr, hle⟩ => ⟨mt resourceEnd_bind hne, hr, by omega⟩
  obtain ⟨o, f₁, k, hxs, hyt, hk, hk'⟩ := hx s t hs hst hfirst
  let s₁ : State := ⟨s.budget.spend k, f₁⟩
  let t₁ : State := ⟨t.budget.spend (k + (x.entered s).countP marked), f₁⟩
  cases o with
  | error i =>
    rw [Entering.entered_bind_of_error f hxs]
    refine ⟨.error i, f₁, k, ?_, ?_, hk, hk'⟩
    · rw [bind_apply, hxs]
      rfl
    · rw [bind_apply, hyt]
      rfl
  | ok a =>
    have hrun : (x.run >>= fun a => (f a).run) s = (f a).run s₁ := by
      rw [bind_apply, hxs]
      rfl
    have hrun' : (y >>= g) t = g a t₁ := by
      rw [bind_apply, hyt]
      rfl
    have hsum : ((x >>= f).entered s).countP marked =
        (x.entered s).countP marked + ((f a).entered s₁).countP marked := by
      rw [Entering.entered_bind_of_ok f hxs, List.countP_append]
    rw [hrun, hrun', hsum] at hfits
    have hs₁ : s₁.budget.remaining = s.budget.remaining - k := rfl
    have ht₁ : t₁.budget.remaining =
        t.budget.remaining - (k + (x.entered s).countP marked) := rfl
    have hsecond : Fits poorer roomier s₁ t₁ (((f a).entered s₁).countP marked)
        (outcome ((f a).run s₁)) (outcome (g a t₁)) :=
      hfits.imp (fun ⟨hne, hp, hle⟩ => ⟨hne, hp, by omega⟩)
        fun ⟨hne, hr, hle⟩ => ⟨hne, hr, by omega⟩
    have hle : s₁.budget.remaining ≤ s.budget.remaining := Nat.sub_le _ _
    obtain ⟨o, f₂, k₂, hfa, hga, hk₂, hk₂'⟩ := hf hs hxs hle s₁ t₁ (Nat.le_refl _) rfl hsecond
    refine ⟨o, f₂, k + k₂, ?_, ?_, by omega, by omega⟩
    · rw [hrun, hfa, Budget.spend_spend]
    · rw [hrun', hga, Budget.spend_spend, hsum, Nat.add_add_add_comm]

theorem bind {f : α → Entering β} {g : α → Run β}
    (hx : Surcharges m marked poorer roomier x y)
    (hf : ∀ a, Surcharges m marked poorer roomier (f a) (g a)) :
    Surcharges m marked poorer roomier (x >>= f) (y >>= g) :=
  hx.bind_of_eq_ok fun hs _ hle => (hf _).anti (Nat.le_trans hle hs)

/-- After a run that takes a step, what follows has a step less to go. -/
theorem bind_advancing {f : α → Entering β} {g : α → Run β}
    (hx : Surcharges (m + 1) marked poorer roomier x y) (hadvances : Advances x.run)
    (hf : ∀ a, Surcharges m marked poorer roomier (f a) (g a)) :
    Surcharges (m + 1) marked poorer roomier (x >>= f) (y >>= g) := by
  refine hx.bind_of_eq_ok fun {s t a} hs hr _ => (hf a).anti ?_
  have hlt := hadvances s a t hr
  omega

/-- Runs of which other outcomes are made, provided that resources show. -/
theorem mapped {g : Run α → Run β} {φ : Except Interrupt α → Except Interrupt β}
    (h : Surcharges m marked poorer roomier x y)
    (hg : ∀ z s, g z s = ending (φ (outcome (z s))) (final (z s)))
    (hφ : ∀ o, ResourceEnd (φ o) ↔ ResourceEnd o) :
    Surcharges m marked poorer roomier (x.mapped g) (g y) := by
  intro s t hs hst hfits
  have hrun : (x.mapped g).run s = g x.run s := rfl
  rw [hrun, hg, hg, outcome_ending, outcome_ending] at hfits
  simp only [Fits, hφ] at hfits
  obtain ⟨o, f, k, hxs, hyt, hk⟩ := h s t hs hst hfits
  refine ⟨φ o, f, k, ?_, ?_, hk⟩
  · rw [hrun, hg, hxs, outcome_ending, final_ending]
  · rw [hg, hyt, outcome_ending, final_ending]
    rfl

/-- Activations in the same frame. -/
theorem framed (h : Surcharges m marked poorer roomier x y) (f : Frame) :
    Surcharges m marked poorer roomier (x.inFrame f) (inFrame f y) := by
  intro s t hs hst hfits
  have hrun : (x.inFrame f).run s = inFrame f x.run s := rfl
  rw [hrun, outcome_inFrame, outcome_inFrame] at hfits
  obtain ⟨o, f', k, hxs, hyt, hk⟩ := h { s with frame := f } { t with frame := f } hs rfl hfits
  refine ⟨o, s.frame, k, ?_, ?_, hk⟩
  · rw [hrun, ← ending_outcome_final (inFrame f x.run s), outcome_inFrame, final_inFrame, hxs,
      outcome_ending, final_ending]
  · rw [← ending_outcome_final (inFrame f y t), outcome_inFrame, final_inFrame, hyt,
      outcome_ending, final_ending, hst]
    rfl

/-- A node around the second run is a step more, and there has to be a level for it. -/
theorem entered {context : Context} {depth : Nat} {callee : SymbolId}
    (h : Surcharges m marked poorer roomier x y) (hcallee : marked callee = true)
    (hdepth : roomier → depth < context.limits.maxDepth) :
    Surcharges m marked poorer roomier (x.inBody callee)
      (enter context depth >>= fun _ => y) := by
  intro s t hs hst hfits
  have hcount : ((x.inBody callee).entered s).countP marked = (x.entered s).countP marked + 1 :=
    List.countP_cons_of_pos hcallee
  simp only [hcount] at hfits ⊢
  obtain ⟨ht, hd⟩ : 0 < t.budget.remaining ∧ depth < context.limits.maxDepth := by
    rcases hfits with ⟨hne, -, -⟩ | ⟨-, hr, hle⟩
    · exact started_of_not_resourceEnd hne
    · exact ⟨by omega, hdepth hr⟩
  let t₁ : State := { t with budget := t.budget.spend 1 }
  have ht₁ : t₁.budget.remaining = t.budget.remaining - 1 := rfl
  have hrun : (enter context depth >>= fun _ => y) t = y t₁ := by
    rw [bind_apply, enter_of_lt ht hd]
  rw [hrun] at hfits ⊢
  obtain ⟨o, f, k, hxs, hyt, hk, hk'⟩ := h s t₁ hs hst <|
    hfits.imp (fun ⟨hne, hp, hle⟩ => ⟨hne, hp, by omega⟩) fun ⟨hne, hr, hle⟩ => ⟨hne, hr, by omega⟩
  refine ⟨o, f, k, hxs, ?_, hk, by omega⟩
  rw [hyt, Budget.spend_spend, Nat.add_comm 1, Nat.add_assoc]

/-- The entry into a function that is not marked costs nothing. -/
theorem unmarked {callee : SymbolId} (h : Surcharges m marked poorer roomier x y)
    (hcallee : marked callee = false) :
    Surcharges m marked poorer roomier (x.inBody callee) y := by
  intro s t hs hst hfits
  have hcount : ((x.inBody callee).entered s).countP marked = (x.entered s).countP marked :=
    List.countP_cons_of_neg (by rw [hcallee]; decide)
  simp only [hcount] at hfits ⊢
  exact h s t hs hst hfits

/-- Two nodes, given what their forms do.  The second may have no more levels left than the
first, or it has twice the levels which the first can reach in the steps left to it. -/
theorem started (context context' : Context) {depth depth' : Nat} {x : Entering Value}
    {y : Run Value} (h : Surcharges m marked
      (context'.limits.maxDepth - (depth' + 1) ≤ context.limits.maxDepth - (depth + 1))
      (2 * min (context.limits.maxDepth - (depth + 1)) m < context'.limits.maxDepth - (depth' + 1))
      x y) :
    Surcharges (m + 1) marked
      (context'.limits.maxDepth - depth' ≤ context.limits.maxDepth - depth)
      (2 * min (context.limits.maxDepth - depth) (m + 1) ≤ context'.limits.maxDepth - depth')
      (.ofRun (enter context depth) >>= fun _ => x) (enter context' depth' >>= fun _ => y) := by
  intro s t hs hst hfits
  rw [Entering.run_bind, Entering.run_ofRun] at hfits ⊢
  -- The one that does not run out of a resource has been started, and then so is the other.
  obtain ⟨hs₀, hd, ht₀, hd'⟩ : 0 < s.budget.remaining ∧ depth < context.limits.maxDepth ∧
      0 < t.budget.remaining ∧ depth' < context'.limits.maxDepth := by
    rcases hfits with ⟨hne, hp, hle⟩ | ⟨hne, hr, hle⟩
    · obtain ⟨ht₀, hd'⟩ := started_of_not_resourceEnd hne
      exact ⟨by omega, by omega, ht₀, hd'⟩
    · obtain ⟨hs₀, hd⟩ := started_of_not_resourceEnd hne
      exact ⟨hs₀, hd, by omega, by omega⟩
  let s₁ : State := { s with budget := s.budget.spend 1 }
  let t₁ : State := { t with budget := t.budget.spend 1 }
  have hs₁ : s₁.budget.remaining = s.budget.remaining - 1 := rfl
  have ht₁ : t₁.budget.remaining = t.budget.remaining - 1 := rfl
  have hrun : (enter context depth >>= fun _ => x.run) s = x.run s₁ := by
    rw [bind_apply, enter_of_lt hs₀ hd]
  have hrun' : (enter context' depth' >>= fun _ => y) t = y t₁ := by
    rw [bind_apply, enter_of_lt ht₀ hd']
  have hentered : (Entering.ofRun (enter context depth) >>= fun _ => x).entered s =
      x.entered s₁ :=
    Entering.entered_bind_of_ok (fun _ => x) (enter_of_lt hs₀ hd)
  rw [hrun, hrun', hentered] at hfits
  rw [hrun, hrun', hentered]
  obtain ⟨o, f, k, hxs, hyt, hk, hk'⟩ := h s₁ t₁ (by omega) hst <|
    hfits.imp (fun ⟨hne, hp, hle⟩ => ⟨hne, by omega, by omega⟩)
      fun ⟨hne, hr, hle⟩ => ⟨hne, by omega, by omega⟩
  refine ⟨o, f, k + 1, ?_, ?_, by omega, by omega⟩
  · rw [hxs, Budget.spend_spend, Nat.add_comm]
  · rw [hyt, Budget.spend_spend, Nat.add_comm, Nat.add_right_comm]

end Surcharges

/-- What nodes are made of is no dearer, but for activations. -/
theorem compositional_surcharges (m : Nat) (marked : SymbolId → Bool) (poorer roomier : Prop) :
    Compositional fun α (x : Entering α) (y : Run α) =>
      Surcharges m marked poorer roomier x y where
  pure a := .instant (φ := fun f => (.ok a, f)) fun _ => rfl
  bind := Surcharges.bind
  interrupt i := .instant (φ := fun f => (.error i, f)) fun _ => rfl
  ofExcept e := .instant (φ := fun f => (plain e, f)) (ofExcept_apply e)
  read v := .instant (φ := fun f => (plain (f.read v), f)) fun s => ofExcept_apply _ s
  bindVariable v a := .instant (φ := fun f => (.ok (), f.insert v a)) fun _ => rfl
  interceptJump id h := h.mapped (interceptJump_apply id) fun _ => resourceEnd_roundEnd id

/-! ### Calls -/

section Calls

variable {eval : Node → Entering Value} {context : Context} {depth : Nat}
  (hparts : ∀ n, Surcharges m marked poorer roomier (eval n) (evaluate context depth n))
  (hbodies : ∀ n, Surcharges m marked poorer roomier (eval n) (evaluate context (depth + 1) n))
  (hdepth : roomier → depth < context.limits.maxDepth)

include hparts hbodies hdepth

/-- An activation.  The parts of a wrapped body stand one level deeper. -/
theorem surcharges_activation (callee : SymbolId) (frame : Frame) (body : Body) :
    Surcharges m marked poorer roomier (RunLike.activate callee frame (evalBody eval body))
      (settle callee (inFrame frame
        (evalBody (evaluate context depth) (Body.onMarked marked .wrapped callee body)))) := by
  have hnodes := compositional_surcharges m marked poorer roomier
  have hsettled : ∀ {x : Entering Value} {y : Run Value}, Surcharges m marked poorer roomier x y →
      Surcharges m marked poorer roomier ((x.inFrame frame).mapped (settle callee))
        (settle callee (inFrame frame y)) := fun h =>
    (h.framed frame).mapped (settle_apply callee) fun _ => resourceEnd_settled callee
  cases hcallee : marked callee with
  | true =>
    rw [Body.onMarked, if_pos hcallee, settle_wrapped]
    exact hsettled ((hnodes.evalBody hbodies body).entered hcallee hdepth)
  | false =>
    rw [Body.onMarked, hcallee]
    exact hsettled ((hnodes.evalBody hparts body).unmarked hcallee)

theorem surcharges_evalResolved (callee : SymbolId) (r : Resolved) :
    Surcharges m marked poorer roomier (evalResolved eval callee r)
      (evalResolved (evaluate context depth) callee
        (r.restate (Body.onMarked marked .wrapped callee))) := by
  have hnodes := compositional_surcharges m marked poorer roomier
  cases r with
  | inlined slots body =>
    exact (hnodes.evalSlots hparts .empty slots).bind fun frame =>
      surcharges_activation hparts hbodies hdepth callee frame body
  | shortCircuit decides combine left right =>
    exact hnodes.evalResolved hparts fun _ _ _ hr => nomatch hr
  | strict combinator slots =>
    exact hnodes.evalResolved hparts fun _ _ _ hr => nomatch hr

theorem surcharges_call (callee : SymbolId) (e : Except Failure Resolved) :
    Surcharges m marked poorer roomier (RunLike.ofExcept e >>= evalResolved eval callee)
      (ofExcept (e.map (Resolved.restate (Body.onMarked marked .wrapped callee))) >>=
        evalResolved (evaluate context depth) callee) := by
  cases e with
  | error cause => exact .instant (φ := fun f => (.error (.failing cause), f)) fun _ => rfl
  | ok r => exact surcharges_evalResolved hparts hbodies hdepth callee r

end Calls

/-! ### Loops -/

/-- Without a step left for the first run there is none for the second, if it is the poorer one;
so that one of them runs out of a resource which does not. -/
theorem surcharges_outOfSteps {y : Run Value}
    (hy : ∀ t, t.budget.remaining = 0 → y t = outOfSteps t) :
    Surcharges 0 marked poorer roomier (.ofRun outOfSteps) y := by
  intro s t hs hst hfits
  rcases hfits with ⟨hne, -, hle⟩ | ⟨hne, -, -⟩
  · rw [hy t (by omega)] at hne
    exact absurd rfl hne
  · exact absurd rfl hne

theorem surcharges_evalRounds {eval : Node → Entering Value} {context : Context} {depth : Nat}
    (hmetered : Metered fun n => (eval n).run)
    (hparts : ∀ n, Surcharges m marked poorer roomier (eval n) (evaluate context depth n))
    (id : LoopId) (q : Node) (b : Option Node) {j : Nat} (hj : j ≤ m) :
    Surcharges j marked poorer roomier (evalRounds eval id q b j)
      (evaluateRounds context depth id q b) := by
  induction j with
  | zero =>
    refine surcharges_outOfSteps fun t ht => ?_
    rw [evaluateRounds, ht, evalRounds_zero]
  | succ j ih =>
    have hnodes := compositional_surcharges (j + 1) marked poorer roomier
    have hparts := fun n => (hparts n).anti hj
    have hcondition := hnodes.evalCondition hparts q
    have hadvances : Advances (evalCondition eval q).run := by
      rw [Entering.run_evalCondition]
      exact hmetered.advances_evalCondition q
    have hends := (hnodes.pure Value.unit).anti (Nat.le_succ j)
    have hagain := ih (Nat.le_of_succ_le hj)
    refine Surcharges.of_eq ?_ (evaluateRounds_eq context depth id q b)
    exact hnodes.evalRound_of_bind hparts id b (fun _ _ => hcondition.bind_advancing hadvances)
      hends hagain

end Surcharges

/-! ### Nodes -/

section Nodes

variable {limits limits' : Limits} {program : Program} {operators : OperatorTable}
  {marked : SymbolId → Bool}

theorem surcharges_evalForm {m : Nat} {poorer roomier : Prop} {eval : Node → Entering Value}
    {depth : Nat} (hmetered : Metered fun n => (eval n).run)
    (hparts : ∀ n, Surcharges m marked poorer roomier (eval n)
      (evaluate ⟨limits', program.restate (Body.onMarked marked .wrapped), operators⟩ depth n))
    (hbodies : ∀ n, Surcharges m marked poorer roomier (eval n)
      (evaluate ⟨limits', program.restate (Body.onMarked marked .wrapped), operators⟩
        (depth + 1) n))
    (hdepth : roomier → depth < limits'.maxDepth) (n : Node) :
    Surcharges m marked poorer roomier (evalForm ⟨limits, program, operators⟩ eval m n)
      (evaluateForm ⟨limits', program.restate (Body.onMarked marked .wrapped), operators⟩
        depth n) := by
  have hnodes := compositional_surcharges m marked poorer roomier
  have hcall : ∀ callee as, Surcharges m marked poorer roomier
      (evalCall ⟨limits, program, operators⟩ eval callee as)
      (evalCall ⟨limits', program.restate (Body.onMarked marked .wrapped), operators⟩
        (evaluate ⟨limits', program.restate (Body.onMarked marked .wrapped), operators⟩ depth)
        callee as) := by
    intro callee as
    have h := surcharges_call hparts hbodies hdepth callee (resolve program operators callee as)
    rw [← resolve_restate] at h
    exact h
  rw [evaluateForm_eq]
  exact hnodes.evalFormWith hparts hcall
    (fun id q b => surcharges_evalRounds hmetered hparts id q b (Nat.le_refl m)) n

/-- **A step more for each entry into a wrapped body.** -/
theorem surcharges_evalNode (fuel depth depth' : Nat) (n : Node) :
    Surcharges fuel marked (limits'.maxDepth - depth' ≤ limits.maxDepth - depth)
      (2 * min (limits.maxDepth - depth) fuel ≤ limits'.maxDepth - depth')
      (Entering.evalNode ⟨limits, program, operators⟩ fuel depth n)
      (evaluate ⟨limits', program.restate (Body.onMarked marked .wrapped), operators⟩
        depth' n) := by
  induction fuel generalizing depth depth' n with
  | zero => exact surcharges_outOfSteps fun t ht => (metered_evaluate _ depth').stalls n t ht
  | succ fuel ih =>
    rw [evaluate_eq_enter_bind, Entering.evalNode_succ]
    have hmetered : Metered fun n =>
        (Entering.evalNode ⟨limits, program, operators⟩ fuel (depth + 1) n).run := by
      simp only [Entering.run_evalNode]
      exact metered_evalNode ⟨limits, program, operators⟩ fuel (depth + 1)
    refine Surcharges.started ⟨limits, program, operators⟩
      ⟨limits', program.restate (Body.onMarked marked .wrapped), operators⟩
      (surcharges_evalForm hmetered (fun p => ?_) (fun p => ?_) ?_ n)
    · exact (ih (depth + 1) (depth' + 1) p).mono id Nat.le_of_lt
    · refine (ih (depth + 1) (depth' + 2) p).mono ?_ ?_
      · show limits'.maxDepth - (depth' + 1) ≤ limits.maxDepth - (depth + 1) → _
        omega
      · show 2 * min (limits.maxDepth - (depth + 1)) fuel < limits'.maxDepth - (depth' + 1) → _
        omega
    · show 2 * min (limits.maxDepth - (depth + 1)) fuel < limits'.maxDepth - (depth' + 1) → _
      omega

end Nodes

/-! ### Folds -/

section Folds

variable {program : Program} {operators : OperatorTable} {marked : SymbolId → Bool}
  {limits limits' : Limits} {n : Node}

/-- Two folds, one of which ends otherwise than for want of a resource. -/
theorem foldCounted_wrapped_of_fits
    (h : Fits (limits'.maxDepth ≤ limits.maxDepth)
      (2 * min limits.maxDepth limits.maxSteps ≤ limits'.maxDepth)
      ⟨.full limits.maxSteps, .empty⟩ ⟨.full limits'.maxSteps, .empty⟩
      ((enteredBodies ⟨limits, program, operators⟩ n).countP marked)
      (outcome ((Evaluator.start ⟨limits, program, operators⟩).evalRoot n))
      (outcome ((Evaluator.start
        ⟨limits', program.restate (Body.onMarked marked .wrapped), operators⟩).evalRoot n))) :
    foldCounted ⟨limits', program.restate (Body.onMarked marked .wrapped), operators⟩ n =
      (fold ⟨limits, program, operators⟩ n, (foldCounted ⟨limits, program, operators⟩ n).2 +
        (enteredBodies ⟨limits, program, operators⟩ n).countP marked) := by
  have hplain : (Entering.evalNode ⟨limits, program, operators⟩ limits.maxSteps 0 n).run
      ⟨.full limits.maxSteps, .empty⟩ =
        (Evaluator.start ⟨limits, program, operators⟩).evalRoot n := by
    rw [Entering.run_evalNode]
    rfl
  rw [← hplain] at h
  obtain ⟨o, f, k, hrun, hrun', hk, hk'⟩ :=
    surcharges_evalNode limits.maxSteps 0 0 n ⟨.full limits.maxSteps, .empty⟩
      ⟨.full limits'.maxSteps, .empty⟩ (Nat.le_refl _) rfl h
  have hroot : (Evaluator.start ⟨limits, program, operators⟩).evalRoot n = _ :=
    hplain.symm.trans hrun
  have hroot' : (Evaluator.start
    ⟨limits', program.restate (Body.onMarked marked .wrapped), operators⟩).evalRoot n = _ := hrun'
  rw [fold_eq_foldCounted, foldCounted_eq, foldCounted_eq, hroot, hroot']
  simp only [outcome_ending, final_ending]
  rw [Budget.used_spend hk, Budget.used_spend hk', Budget.used_full, Budget.used_full,
    Nat.zero_add, Nat.zero_add]
  rfl

/-- Within the same limits it is enough that the fold with the wrapped bodies has a result. -/
theorem foldCounted_wrapped_of_result
    (h : ∀ f, fold ⟨limits, program.restate (Body.onMarked marked .wrapped), operators⟩ n =
      .error f → f.isResource = false) :
    foldCounted ⟨limits, program.restate (Body.onMarked marked .wrapped), operators⟩ n =
      (fold ⟨limits, program, operators⟩ n, (foldCounted ⟨limits, program, operators⟩ n).2 +
        (enteredBodies ⟨limits, program, operators⟩ n).countP marked) := by
  refine foldCounted_wrapped_of_fits (.inl ⟨not_resourceEnd_of_conclude ?_, Nat.le_refl _,
    Nat.le_refl _⟩)
  rwa [fold_eq_foldCounted, foldCounted_eq] at h

/-- Within limits that leave room for the wrapped bodies it is enough that the other fold has
a result. -/
theorem foldCounted_wrapped_of_room
    (h : ∀ f, fold ⟨limits, program, operators⟩ n = .error f → f.isResource = false)
    (hsteps : limits.maxSteps + (enteredBodies ⟨limits, program, operators⟩ n).countP marked ≤
      limits'.maxSteps)
    (hdepth : 2 * min limits.maxDepth limits.maxSteps ≤ limits'.maxDepth) :
    foldCounted ⟨limits', program.restate (Body.onMarked marked .wrapped), operators⟩ n =
      (fold ⟨limits, program, operators⟩ n, (foldCounted ⟨limits, program, operators⟩ n).2 +
        (enteredBodies ⟨limits, program, operators⟩ n).countP marked) := by
  refine foldCounted_wrapped_of_fits (.inr ⟨not_resourceEnd_of_conclude ?_, hdepth, hsteps⟩)
  rwa [fold_eq_foldCounted, foldCounted_eq] at h

/-- Within as many steps as it uses, a fold enters as many of the bodies: with room for both
there is only one fold with the wrapped bodies. -/
theorem countP_enteredBodies_of_maxSteps_eq_used
    (h : ∀ f, fold ⟨limits, program, operators⟩ n = .error f → f.isResource = false) :
    (enteredBodies ⟨⟨(foldCounted ⟨limits, program, operators⟩ n).2, limits.maxDepth⟩, program,
      operators⟩ n).countP marked =
        (enteredBodies ⟨limits, program, operators⟩ n).countP marked := by
  let tight : Limits := ⟨(foldCounted ⟨limits, program, operators⟩ n).2, limits.maxDepth⟩
  let entries := fun limits => (enteredBodies ⟨limits, program, operators⟩ n).countP marked
  let ample : Limits := ⟨limits.maxSteps + entries limits + (tight.maxSteps + entries tight),
    2 * limits.maxDepth⟩
  let wrapped : Context := ⟨ample, program.restate (Body.onMarked marked .wrapped), operators⟩
  have htight := foldCounted_of_maxSteps_eq_used program operators limits.maxDepth limits.maxSteps n
  have hlevels : ∀ k, 2 * min limits.maxDepth k ≤ ample.maxDepth := fun k =>
    Nat.mul_le_mul_left 2 (Nat.min_le_left _ k)
  have hfold : foldCounted wrapped n = _ :=
    foldCounted_wrapped_of_room h (Nat.le_add_right _ _) (hlevels _)
  rw [fold_eq_foldCounted, ← htight] at h
  have hfold' : foldCounted wrapped n = _ :=
    foldCounted_wrapped_of_room h (Nat.le_add_left _ _) (hlevels _)
  have hsum := congrArg Prod.snd (hfold'.symm.trans hfold)
  rw [htight] at hsum
  exact Nat.add_left_cancel hsum

end Folds

/-- **The forms of a function body agree.**  An expression folds as the block of it does.  With
the bodies of some functions wrapped, a fold has the same result and takes a step more for each
entry into one of them: within the same limits, if the fold with the wrapped bodies does not run
out of a resource, and if the other one does not, within any limits that allow for these steps
and twice the levels. -/
theorem foldCounted_bodyForms (program : Program) (operators : OperatorTable)
    (marked : SymbolId → Bool) (n : Node) :
    let unchanged := fun limits => (⟨limits, program, operators⟩ : Context)
    let sequenced := fun limits =>
      (⟨limits, program.restate (Body.onMarked marked .sequenced), operators⟩ : Context)
    let wrapped := fun limits =>
      (⟨limits, program.restate (Body.onMarked marked .wrapped), operators⟩ : Context)
    let steps := fun limits => (foldCounted (unchanged limits) n).2
    let entries := fun limits => (enteredBodies (unchanged limits) n).countP marked
    (∀ limits, foldCounted (sequenced limits) n = foldCounted (unchanged limits) n) ∧
      (∀ limits, (∀ f, fold (wrapped limits) n = .error f → f.isResource = false) →
        foldCounted (wrapped limits) n =
          (fold (unchanged limits) n, steps limits + entries limits)) ∧
      ∀ limits, (∀ f, fold (unchanged limits) n = .error f → f.isResource = false) →
        ∀ limits', steps limits + entries limits ≤ limits'.maxSteps →
          2 * min limits.maxDepth (steps limits) ≤ limits'.maxDepth →
          foldCounted (wrapped limits') n =
            (fold (unchanged limits) n, steps limits + entries limits) := by
  intro unchanged sequenced wrapped steps entries
  refine ⟨fun limits => foldCounted_sequenced marked limits program operators n,
    fun limits hresult => foldCounted_wrapped_of_result hresult,
    fun limits hresult limits' hsteps hdepth => ?_⟩
  -- The fold is taken within the steps it uses, by which its levels are bounded too.
  let tight : Limits := ⟨steps limits, limits.maxDepth⟩
  have htight : foldCounted (unchanged tight) n = foldCounted (unchanged limits) n :=
    foldCounted_of_maxSteps_eq_used program operators limits.maxDepth limits.maxSteps n
  have hentries : entries tight = entries limits := countP_enteredBodies_of_maxSteps_eq_used hresult
  have hused : steps tight = steps limits := congrArg Prod.snd htight
  rw [fold_eq_foldCounted, ← htight] at hresult
  rw [← hentries] at hsteps
  rw [fold_eq_foldCounted, ← htight, ← hused, ← hentries]
  exact foldCounted_wrapped_of_room hresult hsteps hdepth

/-- A function that counts down from three is entered four times. -/
example :
    let program : Program := Bindings.empty.insert ⟨100⟩ ⟨"countdown", [⟨⟨0⟩, none⟩],
      some (.expression (.choose [(.callBuiltin .intLess [.int 0, .get ⟨0⟩],
        .call ⟨100⟩ [some (.callBuiltin .intMinus [.get ⟨0⟩, .int 1])]), (.bool true, .get ⟨0⟩)]))⟩
    let root : Node := .call ⟨100⟩ [some (.int 3)]
    foldCounted ⟨⟨40, 20⟩, program, .reserved⟩ root = (.ok (.int 0), 32) ∧
      foldCounted ⟨⟨40, 20⟩, program.restate (Body.onMarked (fun _ => true) .wrapped), .reserved⟩
        root = (.ok (.int 0), 36) := by
  decide +kernel

end ConstFold
