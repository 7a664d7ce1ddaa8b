import ConstFold.Proofs.Alike
import ConstFold.Proofs.Causes
import ConstFold.Proofs.Spending

/-!
# Comparing two runs

Many laws compare two runs: of one node within two limits, of one node in two frames,
of two nodes in two programs.  Such runs go together, from states that correspond to
states that correspond, until they end alike, or until the first one gives up.  Once
the first one has given up, the second may go on by itself, and all that is kept in
mind of it is that it only spends.

A `Comparison` says what it means for states to correspond, for failures to be
counterparts, and for the first run to have given up.  Two runs `Agree` when they
behave so from all states that correspond.  Everything nodes are made of agrees with
itself, and sequencing, interception and activations keep agreement; so the forms of
nodes agree if their parts do.

Agreement is restricted to states with at most a given number of steps left.  That is
what the fuel of an evaluation is sufficient for.

## Main definitions

* `Comparison` — what it means for two runs to go together.
* `Comparison.States`, `Comparison.Outcomes`, `Comparison.Ends` — states that correspond,
  outcomes that are counterparts, and how runs end.
* `Comparison.Agree` — two runs go together.

## Main results

* `Comparison.Agree.bind`, `Comparison.Agree.mapped`, `Comparison.Agree.inFrame` — what
  runs are combined by keeps agreement.
* `Comparison.agree_evalForm`, `Comparison.agree_evalForm_call` — **the forms of nodes
  agree if their parts do.**
-/

namespace ConstFold

open Run

/-- What it means for two runs to go together. -/
structure Comparison where
  /-- The frames the runs can be in. -/
  frames : Frame → Frame → Prop
  /-- The budgets the runs can have left. -/
  budgets : Budget → Budget → Prop
  /-- The failures both runs can end in. -/
  failures : Failure → Failure → Prop
  /-- The first run has given up with a failure and a budget, and the other has a
  budget left. -/
  apart : Failure → Budget → Budget → Prop
  /-- A cause that lies in the program fails both runs. -/
  failures_self : ∀ {f : Failure}, f.isResource = false → failures f f
  /-- What the other run does alone makes no difference. -/
  apart_leads : ∀ {f : Failure} {b c c' : Budget}, apart f b c → c.Leads c' → apart f b c'

namespace Comparison

variable {α β : Type} {c : Comparison} {m₁ m₂ : Nat}

/-- States two runs can be in at the same time. -/
structure States (c : Comparison) (s t : State) : Prop where
  budgets : c.budgets s.budget t.budget
  frames : c.frames s.frame t.frame

/-- Interrupts both runs can end in. -/
inductive Interrupts (c : Comparison) : Interrupt → Interrupt → Prop
  | returning (value : Value) : Interrupts c (.returning value) (.returning value)
  | breaking (target : LoopId) : Interrupts c (.breaking target) (.breaking target)
  | continuing (target : LoopId) : Interrupts c (.continuing target) (.continuing target)
  | failing {f g : Failure} : c.failures f g → Interrupts c (.failing f) (.failing g)

theorem Interrupts.mono {c' : Comparison} {i j : Interrupt} (h : c.Interrupts i j)
    (hf : ∀ {f g : Failure}, c.failures f g → c'.failures f g) : c'.Interrupts i j := by
  cases h with
  | returning value => exact .returning value
  | breaking target => exact .breaking target
  | continuing target => exact .continuing target
  | failing hfg => exact .failing (hf hfg)

/-- Outcomes both runs can have. -/
inductive Outcomes (c : Comparison) : Except Interrupt α → Except Interrupt α → Prop
  | ok (a : α) : Outcomes c (.ok a) (.ok a)
  | error {i j : Interrupt} : c.Interrupts i j → Outcomes c (.error i) (.error j)

/-- How two runs end: with the same value in states related by `S`, with interrupts
that are counterparts, or with the first run having given up. -/
inductive Ends (c : Comparison) (S : State → State → Prop) :
    EStateM.Result Interrupt State α → EStateM.Result Interrupt State α → Prop
  | value {a : α} {s t : State} : S s t → Ends c S (.ok a s) (.ok a t)
  | interrupted {i j : Interrupt} {s t : State} :
      c.Interrupts i j → c.States s t → Ends c S (.error i s) (.error j t)
  | stopped {f : Failure} {s : State} {r : EStateM.Result Interrupt State α} :
      c.apart f s.budget (final r).budget → Ends c S (.error (.failing f) s) r

theorem Outcomes.ends {o o' : Except Interrupt α} {s t : State} (h : c.Outcomes o o')
    (hst : c.States s t) : c.Ends c.States (ending o s) (ending o' t) := by
  cases h with
  | ok a => exact .value hst
  | error hi => exact .interrupted hi hst

/-- The runs go together from all states that correspond and have at most `m₁` and `m₂`
steps left.  Both only spend. -/
structure Agree (c : Comparison) (m₁ m₂ : Nat) (x y : Run α) : Prop where
  spends_left : Spends x
  spends_right : Spends y
  ends : ∀ {s t : State}, s.budget.remaining ≤ m₁ → t.budget.remaining ≤ m₂ → c.States s t →
    c.Ends c.States (x s) (y t)

/-- Where counterparts are equal, runs end with one outcome, or the first has given up. -/
theorem Ends.outcome_eq_or_apart {r r' : EStateM.Result Interrupt State α}
    (hfailures : ∀ f g, c.failures f g → f = g) (h : c.Ends c.States r r') :
    (outcome r = outcome r' ∧ c.States (final r) (final r') ∧
      ∀ f, outcome r = .error (.failing f) → c.failures f f) ∨
    ∃ f, outcome r = .error (.failing f) ∧ c.apart f (final r).budget (final r').budget := by
  cases h with
  | value hst => exact .inl ⟨rfl, hst, fun f hf => by cases hf⟩
  | interrupted hi hst =>
    cases hi with
    | returning value => exact .inl ⟨rfl, hst, fun f hf => by cases hf⟩
    | breaking target => exact .inl ⟨rfl, hst, fun f hf => by cases hf⟩
    | continuing target => exact .inl ⟨rfl, hst, fun f hf => by cases hf⟩
    | @failing f g hfg =>
      obtain rfl := hfailures f g hfg
      refine .inl ⟨rfl, hst, fun f' hf' => ?_⟩
      cases hf'
      exact hfg
  | @stopped f s r ha => exact .inr ⟨f, rfl, ha⟩

/-- The comparison inside an activation, whose frames start out the same. -/
def fresh (c : Comparison) : Comparison := { c with frames := Eq }

theorem Agree.anti {j₁ j₂ : Nat} {x y : Run α} (h : c.Agree m₁ m₂ x y) (h₁ : j₁ ≤ m₁)
    (h₂ : j₂ ≤ m₂) : c.Agree j₁ j₂ x y where
  spends_left := h.spends_left
  spends_right := h.spends_right
  ends := fun hs ht hst => h.ends (Nat.le_trans hs h₁) (Nat.le_trans ht h₂) hst

/-! ### What nodes are made of -/

theorem agree_pure (a : α) : c.Agree m₁ m₂ (pure a) (pure a) where
  spends_left := spends_pure a
  spends_right := spends_pure a
  ends := fun _ _ hst => .value hst

theorem agree_interrupt {i j : Interrupt} (h : c.Interrupts i j) :
    c.Agree m₁ m₂ (interrupt i : Run α) (interrupt j) where
  spends_left := spends_interrupt i
  spends_right := spends_interrupt j
  ends := fun _ _ hst => .interrupted h hst

theorem agree_ofExcept {P : α → Prop} {e : Except Failure α} (h : Yields P e) :
    c.Agree m₁ m₂ (ofExcept e) (ofExcept e) := by
  cases h with
  | ok _ => exact agree_pure _
  | error hf =>
    exact agree_interrupt (.failing (c.failures_self (Failure.isResource_eq_false_of_isPlain hf)))

/-- In frames that have the same value for a variable both runs read the same. -/
theorem agree_read_of_get?_eq {v : VariableId}
    (hframes : ∀ {f f' : Frame}, c.frames f f' → f.get? v = f'.get? v) :
    c.Agree m₁ m₂ (read v) (read v) where
  spends_left := spends_read v
  spends_right := spends_read v
  ends := by
    intro s t hs ht hst
    have hf : s.frame.read v = t.frame.read v := by
      unfold Frame.read
      rw [hframes hst.frames]
    show c.Ends c.States (ofExcept (s.frame.read v) s) (ofExcept (t.frame.read v) t)
    rw [hf]
    exact (agree_ofExcept (t.frame.yields_read v)).ends hs ht hst

/-- In frames that correspond after a binding as before both runs bind the same. -/
theorem agree_bindVariable_of_insert {v : VariableId} {a : Value}
    (hframes : ∀ {f f' : Frame}, c.frames f f' → c.frames (f.insert v a) (f'.insert v a)) :
    c.Agree m₁ m₂ (bindVariable v a) (bindVariable v a) where
  spends_left := spends_bindVariable v a
  spends_right := spends_bindVariable v a
  ends := fun _ _ hst => .value ⟨hst.budgets, hframes hst.frames⟩

/-- In equal frames both runs read the same. -/
theorem agree_read (hframes : c.frames = Eq) (v : VariableId) :
    c.Agree m₁ m₂ (read v) (read v) := by
  refine agree_read_of_get?_eq fun {f f'} hf => ?_
  rw [hframes] at hf
  rw [hf]

/-- In equal frames both runs bind the same. -/
theorem agree_bindVariable (hframes : c.frames = Eq) (v : VariableId) (a : Value) :
    c.Agree m₁ m₂ (bindVariable v a) (bindVariable v a) := by
  refine agree_bindVariable_of_insert fun {f f'} hf => ?_
  rw [hframes] at hf ⊢
  rw [hf]

/-! ### What runs are combined by -/

theorem Agree.bind {x y : Run α} {f g : α → Run β} (h : c.Agree m₁ m₂ x y)
    (hf : ∀ a, c.Agree m₁ m₂ (f a) (g a)) : c.Agree m₁ m₂ (x >>= f) (y >>= g) where
  spends_left := h.spends_left.bind fun a => (hf a).spends_left
  spends_right := h.spends_right.bind fun a => (hf a).spends_right
  ends := by
    intro s t hs ht hst
    have hends := h.ends hs ht hst
    have hx := (h.spends_left s).remaining_le
    have hy := (h.spends_right t).remaining_le
    rw [bind_apply, bind_apply]
    generalize x s = r₁ at hends hx
    generalize y t = r₂ at hends hy
    cases hends with
    | value hst' => exact (hf _).ends (Nat.le_trans hx hs) (Nat.le_trans hy ht) hst'
    | interrupted hi hst' => exact .interrupted hi hst'
    | stopped ha =>
      -- The second run may still give a value here, and goes on with it alone.
      cases r₂ with
      | ok b u => exact .stopped (c.apart_leads ha ((hf b).spends_right u))
      | error i u => exact .stopped ha

/-- After runs that spend a step with every value, agreement is needed only below. -/
theorem Agree.bind_advancing {x y : Run α} {f g : α → Run β} (h : c.Agree m₁ m₂ x y)
    (hx : Advances x) (hy : Advances y) (hf : ∀ a, Spends (f a)) (hg : ∀ a, Spends (g a))
    (hfg : ∀ a j₁ j₂, j₁ < m₁ → j₂ < m₂ → c.Agree j₁ j₂ (f a) (g a)) :
    c.Agree m₁ m₂ (x >>= f) (y >>= g) where
  spends_left := h.spends_left.bind hf
  spends_right := h.spends_right.bind hg
  ends := by
    intro s t hs ht hst
    have hends := h.ends hs ht hst
    rw [bind_apply, bind_apply]
    generalize hr₁ : x s = r₁ at hends
    generalize hr₂ : y t = r₂ at hends
    cases hends with
    | value huw =>
      have hlt₁ := Nat.lt_of_lt_of_le (hx _ _ _ hr₁) hs
      have hlt₂ := Nat.lt_of_lt_of_le (hy _ _ _ hr₂) ht
      exact (hfg _ _ _ hlt₁ hlt₂).ends (Nat.le_refl _) (Nat.le_refl _) huw
    | interrupted hi huw => exact .interrupted hi huw
    | stopped ha =>
      cases r₂ with
      | ok b u => exact .stopped (c.apart_leads ha (hg b u))
      | error i u => exact .stopped ha

/-- Runs that change only the outcomes of others go together if the changes do, and if
what has given up stays so. -/
theorem Agree.mapped {x y : Run α} {x' y' : Run β} {φ : Except Interrupt α → Except Interrupt β}
    (h : c.Agree m₁ m₂ x y) (hx : ∀ s, x' s = ending (φ (outcome (x s))) (final (x s)))
    (hy : ∀ s, y' s = ending (φ (outcome (y s))) (final (y s)))
    (hφ : ∀ {o o'}, c.Outcomes o o' → c.Outcomes (φ o) (φ o'))
    (hfailing : ∀ f, φ (.error (.failing f)) = .error (.failing f)) :
    c.Agree m₁ m₂ x' y' where
  spends_left := h.spends_left.mapped hx
  spends_right := h.spends_right.mapped hy
  ends := by
    intro s t hs ht hst
    have hends := h.ends hs ht hst
    rw [hx, hy]
    generalize x s = r₁ at hends
    generalize y t = r₂ at hends
    cases hends with
    | value huw => exact (hφ (.ok _)).ends huw
    | interrupted hi huw => exact (hφ (.error hi)).ends huw
    | @stopped f u r ha =>
      -- The second run may end in any way here; what counts is the budget it leaves.
      rw [outcome_error, hfailing]
      refine .stopped ?_
      rw [final_ending]
      exact ha

/-- Loops make counterparts of counterparts. -/
theorem Outcomes.roundEnd {o o' : Outcome} (h : c.Outcomes o o') (id : LoopId) :
    c.Outcomes (roundEnd id o) (roundEnd id o') := by
  cases h with
  | ok a => exact .ok true
  | error hi =>
    cases hi with
    | returning value => exact .error (.returning value)
    | failing hf => exact .error (.failing hf)
    | breaking target =>
      unfold ConstFold.roundEnd
      by_cases htarget : target = id
      · simp only [htarget, if_true]
        exact .ok false
      · simp only [htarget, if_false]
        exact .error (.breaking target)
    | continuing target =>
      unfold ConstFold.roundEnd
      by_cases htarget : target = id
      · simp only [htarget, if_true]
        exact .ok true
      · simp only [htarget, if_false]
        exact .error (.continuing target)

/-- So do calls. -/
theorem Outcomes.settled {o o' : Outcome} (h : c.Outcomes o o') (callee : SymbolId) :
    c.Outcomes (settled callee o) (settled callee o') := by
  have habnormal : c.failures (.abnormalExit callee) (.abnormalExit callee) :=
    c.failures_self rfl
  cases h with
  | ok a => exact .ok a
  | error hi =>
    cases hi with
    | returning value => exact .ok value
    | breaking target => exact .error (.failing habnormal)
    | continuing target => exact .error (.failing habnormal)
    | failing hf => exact .error (.failing hf)

theorem Agree.interceptJump {x y : Run Value} (h : c.Agree m₁ m₂ x y) (id : LoopId) :
    c.Agree m₁ m₂ (interceptJump id x) (interceptJump id y) :=
  h.mapped (interceptJump_apply id x) (interceptJump_apply id y) (fun ho => ho.roundEnd id)
    fun _ => rfl

theorem Agree.settle {x y : Run Value} (h : c.Agree m₁ m₂ x y) (callee : SymbolId) :
    c.Agree m₁ m₂ (settle callee x) (settle callee y) :=
  h.mapped (settle_apply callee x) (settle_apply callee y) (fun ho => ho.settled callee)
    fun _ => rfl

/-- An activation starts in frames that are the same, and leaves the callers' frames. -/
theorem Agree.inFrame {x y : Run α} (h : c.fresh.Agree m₁ m₂ x y) (f : Frame) :
    c.Agree m₁ m₂ (inFrame f x) (inFrame f y) where
  spends_left := h.spends_left.inFrame f
  spends_right := h.spends_right.inFrame f
  ends := by
    intro s t hs ht hst
    have hends := h.ends (s := { s with frame := f }) (t := { t with frame := f }) hs ht
      ⟨hst.budgets, rfl⟩
    have hfinal := final_inFrame f y t
    unfold Run.inFrame at hfinal ⊢
    generalize x { s with frame := f } = r₁ at hends
    generalize y { t with frame := f } = r₂ at hends hfinal
    cases hends with
    | value huw => exact .value ⟨huw.budgets, hst.frames⟩
    | interrupted hi huw =>
      exact .interrupted (hi.mono fun hfg => hfg) ⟨huw.budgets, hst.frames⟩
    | stopped ha =>
      refine .stopped ?_
      rw [hfinal]
      exact ha

/-! ### The forms of nodes -/

section Forms

variable {N M : Node → Node → Prop} {eval₁ eval₂ : Node → Run Value}

theorem agree_evalCondition {q q' : Node} (h : c.Agree m₁ m₂ (eval₁ q) (eval₂ q')) :
    c.Agree m₁ m₂ (evalCondition eval₁ q) (evalCondition eval₂ q') :=
  h.bind fun a => agree_ofExcept a.yields_asBool

variable (hparts : ∀ n n', N n n' → c.Agree m₁ m₂ (eval₁ n) (eval₂ n'))

include hparts

theorem agree_evalSequence {ns ns' : List Node} (h : List.Forall₂ N ns ns') (last : Value) :
    c.Agree m₁ m₂ (evalSequence eval₁ last ns) (evalSequence eval₂ last ns') := by
  induction h generalizing last with
  | nil => exact agree_pure last
  | cons hn _ ih => exact (hparts _ _ hn).bind ih

theorem agree_evalBranches {bs bs' : List (Node × Node)}
    (h : List.Forall₂ (Prod.RProd N N) bs bs') :
    c.Agree m₁ m₂ (evalBranches eval₁ bs) (evalBranches eval₂ bs') := by
  induction h with
  | nil => exact agree_pure _
  | cons hb _ ih =>
    cases hb with
    | intro hq hr =>
      refine (agree_evalCondition (hparts _ _ hq)).bind fun holds => ?_
      cases holds with
      | true => exact hparts _ _ hr
      | false => exact ih

theorem agree_evalOptional {o o' : Option Node} (h : Option.Rel N o o') :
    c.Agree m₁ m₂ (evalOptional eval₁ o) (evalOptional eval₂ o') := by
  cases h with
  | none => exact agree_pure _
  | some hn => exact hparts _ _ hn

theorem agree_evalAll {ns ns' : List Node} (h : List.Forall₂ N ns ns') :
    c.Agree m₁ m₂ (evalAll eval₁ ns) (evalAll eval₂ ns') := by
  induction h with
  | nil => exact agree_pure _
  | cons hn _ ih => exact (hparts _ _ hn).bind fun a => ih.bind fun as => agree_pure (a :: as)

theorem agree_evalSlots {slots slots' : List (VariableId × Node)}
    (h : List.Forall₂ (Prod.RProd Eq N) slots slots') (callee : Frame) :
    c.Agree m₁ m₂ (evalSlots eval₁ callee slots) (evalSlots eval₂ callee slots') := by
  induction h generalizing callee with
  | nil => exact agree_pure callee
  | cons hs _ ih =>
    cases hs with
    | intro hv hn =>
      subst hv
      exact (hparts _ _ hn).bind fun a => ih _

theorem agree_evalBody {b b' : Body} (h : Body.Alike N b b') :
    c.Agree m₁ m₂ (evalBody eval₁ b) (evalBody eval₂ b') := by
  cases h with
  | block hns => exact agree_evalSequence hparts hns .unit
  | expression hn => exact hparts _ _ hn

/-- Resolved calls that are alike are carried out in lockstep. -/
theorem agree_evalResolved
    (hbodies : ∀ n n', M n n' → c.fresh.Agree m₁ m₂ (eval₁ n) (eval₂ n'))
    (callee : SymbolId) {r r' : Resolved} (h : Resolved.Alike N M r r') (hplain : r.IsPlain) :
    c.Agree m₁ m₂ (evalResolved eval₁ callee r) (evalResolved eval₂ callee r') := by
  cases h with
  | inlined hslots hb =>
    refine (agree_evalSlots hparts hslots .empty).bind fun frame => ?_
    exact ((agree_evalBody hbodies hb).inFrame frame).settle callee
  | shortCircuit decides combine hl hr =>
    refine (agree_evalCondition (hparts _ _ hl)).bind fun p => ?_
    cases decides p with
    | true => exact agree_pure _
    | false => exact (agree_evalCondition (hparts _ _ hr)).bind fun q => agree_pure _
  | strict combinator hslots =>
    exact (agree_evalAll hparts hslots).bind fun values => agree_ofExcept (hplain values)

/-- The forms of nodes go in lockstep if the parts do.  What depends on the frames and
on the programs is left to the caller, and so are the rounds of loops. -/
theorem agree_evalForm {context₁ context₂ : Context} {k₁ k₂ : Nat} {n n' : Node}
    (hread : ∀ v, n = .get v → c.Agree m₁ m₂ (read v) (read v))
    (hbind : ∀ v a, n.Assigns v → c.Agree m₁ m₂ (bindVariable v a) (bindVariable v a))
    (hcall : ∀ callee as as', n = .call callee as → n' = .call callee as' →
      List.Forall₂ (Option.Rel N) as as' →
      c.Agree m₁ m₂ (evalForm context₁ eval₁ k₁ n) (evalForm context₂ eval₂ k₂ n'))
    (hrounds : ∀ id q q' b b', N q q' → Option.Rel N b b' →
      c.Agree m₁ m₂ (evalRounds eval₁ id q b k₁) (evalRounds eval₂ id q' b' k₂))
    (h : Node.Alike N n n') :
    c.Agree m₁ m₂ (evalForm context₁ eval₁ k₁ n) (evalForm context₂ eval₂ k₂ n') := by
  cases h with
  | const constant => exact agree_ofExcept constant.yields_value
  | get v => exact hread v rfl
  | set v hn =>
    refine (hparts _ _ hn).bind fun a => ?_
    exact (hbind v a rfl).bind fun _ => agree_pure _
  | declare v hi =>
    cases hi with
    | none => exact agree_pure _
    | some hn =>
      refine (hparts _ _ hn).bind fun a => ?_
      exact (hbind v a rfl).bind fun _ => agree_pure _
  | block hns => exact agree_evalSequence hparts hns .unit
  | call callee has => exact hcall callee _ _ rfl rfl has
  | ret hv =>
    refine (agree_evalOptional hparts hv).bind fun a => ?_
    exact agree_interrupt (.returning a)
  | choose hbs => exact agree_evalBranches hparts hbs
  | loop id kind hq hb =>
    -- The kinds differ only in whether the condition stands before the first round.
    cases kind with
    | preTest =>
      refine (agree_evalCondition (hparts _ _ hq)).bind fun holds => ?_
      cases holds with
      | true => exact hrounds id _ _ _ _ hq hb
      | false => exact agree_pure _
    | postTest => exact hrounds id _ _ _ _ hq hb
  | breakTo target => exact agree_interrupt (.breaking target)
  | continueTo target => exact agree_interrupt (.continuing target)
  | typeOperation operator hn =>
    cases operator with
    | coercionToUnit => exact (hparts _ _ hn).bind fun _ => agree_pure _
    | _ => exact agree_interrupt (.failing (c.failures_self rfl))

/-- Calls go in lockstep if they resolve to the same form, or fail for the same cause. -/
theorem agree_evalForm_call_of_matches
    (hbodies : ∀ n n', M n n' → c.fresh.Agree m₁ m₂ (eval₁ n) (eval₂ n'))
    {context₁ context₂ : Context} {k₁ k₂ : Nat} {callee : SymbolId} {as as' : List (Option Node)}
    (hmatch : Matches (Resolved.Alike N M)
      (resolve context₁.program context₁.operators callee as)
      (resolve context₂.program context₂.operators callee as')) :
    c.Agree m₁ m₂ (evalForm context₁ eval₁ k₁ (.call callee as))
      (evalForm context₂ eval₂ k₂ (.call callee as')) := by
  have hyield := resolve_yields context₁.program context₁.operators callee as
  show c.Agree m₁ m₂
    (ofExcept (resolve context₁.program context₁.operators callee as) >>= evalResolved eval₁ callee)
    (ofExcept (resolve context₂.program context₂.operators callee as') >>=
      evalResolved eval₂ callee)
  generalize resolve context₁.program context₁.operators callee as = r at hmatch hyield
  generalize resolve context₂.program context₂.operators callee as' = r' at hmatch
  cases hmatch with
  | ok halike =>
    rw [ofExcept_ok, ofExcept_ok, pure_bind, pure_bind]
    exact agree_evalResolved hparts hbodies callee halike (hyield.of_eq_ok rfl)
  | error f =>
    exact agree_interrupt (.failing (c.failures_self (hyield.isResource_eq_false rfl)))

/-- Calls with related arguments go in lockstep if their targets are declared alike. -/
theorem agree_evalForm_call
    (hbodies : ∀ n n', M n n' → c.fresh.Agree m₁ m₂ (eval₁ n) (eval₂ n'))
    {context₁ context₂ : Context} {k₁ k₂ : Nat} {callee : SymbolId} {as as' : List (Option Node)}
    (hdecl : Option.Rel (Declaration.Alike N M) (context₁.program.get? callee)
      (context₂.program.get? callee))
    (hoperators : context₁.operators = context₂.operators)
    (has : List.Forall₂ (Option.Rel N) as as') :
    c.Agree m₁ m₂ (evalForm context₁ eval₁ k₁ (.call callee as))
      (evalForm context₂ eval₂ k₂ (.call callee as')) := by
  refine agree_evalForm_call_of_matches hparts hbodies ?_
  rw [← hoperators]
  exact resolve_alike context₁.operators callee hdecl has

end Forms

end Comparison

end ConstFold
