import ConstFold.Proofs.Outcomes

/-!
# Runs only spend

A run never grants itself a step: the budget it leaves has the limit it started with
and no more steps left.  The runs a node is made of all have this property, and
sequencing, interception and activations keep it.

## Main definitions

* `Budget.Leads b c` — `c` is what can be left of `b` after some steps.
* `Run.Spends x` — the run `x` only spends.
* `Run.Advances x` — the run `x` spends a step whenever it gives a value.

## Main results

* `Run.Spends.bind`, `Run.Spends.mapped`, `Run.Spends.inFrame` — what runs are combined
  by keeps it.
-/

namespace ConstFold

/-- `c` is what can be left of `b` after some steps. -/
structure Budget.Leads (b c : Budget) : Prop where
  limit_eq : c.limit = b.limit
  remaining_le : c.remaining ≤ b.remaining

namespace Budget.Leads

theorem refl (b : Budget) : b.Leads b := ⟨rfl, Nat.le_refl _⟩

theorem trans {a b c : Budget} (hab : a.Leads b) (hbc : b.Leads c) : a.Leads c :=
  ⟨hbc.limit_eq.trans hab.limit_eq, Nat.le_trans hbc.remaining_le hab.remaining_le⟩

theorem used_le {b c : Budget} (h : b.Leads c) : b.used ≤ c.used := by
  have hl := h.limit_eq
  have hr := h.remaining_le
  simp only [Budget.used]
  omega

end Budget.Leads

theorem Budget.leads_spend (b : Budget) (k : Nat) : b.Leads (b.spend k) :=
  ⟨rfl, Nat.sub_le _ _⟩

namespace Run

variable {α β : Type}

/-- The run only spends steps, whatever it ends in. -/
def Spends (x : Run α) : Prop := ∀ s : State, s.budget.Leads (final (x s)).budget

/-- The run spends a step whenever it gives a value. -/
def Advances (x : Run α) : Prop :=
  ∀ (s : State) (a : α) (t : State), x s = .ok a t → t.budget.remaining < s.budget.remaining

/-! ### What a node is made of -/

theorem spends_pure (a : α) : Spends (pure a) := fun s => .refl s.budget

theorem spends_interrupt (i : Interrupt) : Spends (interrupt i : Run α) := fun s => .refl s.budget

theorem spends_outOfSteps : Spends (outOfSteps : Run α) := fun s => .refl s.budget

theorem spends_ofExcept (e : Except Failure α) : Spends (ofExcept e) := by
  cases e with
  | ok a => exact spends_pure a
  | error f => exact spends_interrupt _

theorem spends_read (v : VariableId) : Spends (read v) :=
  fun s => spends_ofExcept (s.frame.read v) s

theorem spends_bindVariable (v : VariableId) (a : Value) : Spends (bindVariable v a) :=
  fun s => .refl s.budget

/-! ### What runs are combined by -/

theorem Spends.bind {x : Run α} {f : α → Run β} (hx : Spends x) (hf : ∀ a, Spends (f a)) :
    Spends (x >>= f) := by
  intro s
  have hs := hx s
  rw [bind_apply]
  cases hr : x s with
  | ok a t =>
    rw [hr] at hs
    exact hs.trans (hf a t)
  | error i t =>
    rw [hr] at hs
    exact hs

/-- A run that advances and then only spends advances. -/
theorem Advances.bind {x : Run α} {f : α → Run β} (hx : Advances x)
    (hf : ∀ a, Spends (f a)) : Advances (x >>= f) := by
  intro s b t h
  rw [bind_apply] at h
  cases hr : x s with
  | ok a u =>
    rw [hr] at h
    have hle : t.budget.remaining ≤ u.budget.remaining := by
      have hu := (hf a u).remaining_le
      rw [show f a u = .ok b t from h] at hu
      exact hu
    exact Nat.lt_of_le_of_lt hle (hx s a u hr)
  | error i u =>
    rw [hr] at h
    cases h

/-- A run that changes only the outcome of another spends what that one does. -/
theorem Spends.mapped {x : Run α} {y : Run β} {φ : Except Interrupt α → Except Interrupt β}
    (hx : Spends x) (hy : ∀ s, y s = ending (φ (outcome (x s))) (final (x s))) : Spends y := by
  intro s
  rw [hy, final_ending]
  exact hx s

theorem Spends.interceptJump {x : Run Value} (hx : Spends x) (id : LoopId) :
    Spends (interceptJump id x) :=
  hx.mapped (interceptJump_apply id x)

theorem Spends.settle {x : Run Value} (hx : Spends x) (callee : SymbolId) :
    Spends (settle callee x) :=
  hx.mapped (settle_apply callee x)

theorem Spends.inFrame {x : Run α} (hx : Spends x) (f : Frame) : Spends (inFrame f x) := by
  intro s
  rw [final_inFrame]
  exact hx { s with frame := f }

theorem spends_charge : Spends charge := by
  intro s
  rcases Nat.eq_zero_or_pos s.budget.remaining with h | h
  · rw [charge_of_remaining_eq_zero h]
    exact .refl s.budget
  · rw [charge_of_remaining_pos h]
    exact s.budget.leads_spend 1

end Run

open Run

theorem spends_enter (context : Context) (depth : Nat) : Spends (enter context depth) := by
  refine spends_charge.bind fun _ => ?_
  by_cases h : depth < context.limits.maxDepth
  · rw [if_pos h]
    exact spends_pure ()
  · rw [if_neg h]
    exact spends_interrupt _

/-- A node that is started has taken a step. -/
theorem advances_enter (context : Context) (depth : Nat) : Advances (enter context depth) := by
  intro s a t h
  -- Of the three ways in which a start can go, only one gives a value.
  rcases Nat.eq_zero_or_pos s.budget.remaining with hs | hs
  · rw [enter_of_remaining_eq_zero context depth hs] at h
    cases h
  · rcases Nat.lt_or_ge depth context.limits.maxDepth with hd | hd
    · rw [enter_of_lt hs hd] at h
      cases h
      exact Nat.sub_lt hs Nat.one_pos
    · rw [enter_of_le hs hd] at h
      cases h

end ConstFold
