import ConstFold.Proofs.Causes
import ConstFold.Proofs.Spending

/-!
# Runs that realize a meaning

A meaning says how an evaluation may end from a frame, after how many steps and with
which nesting.  A run within limits realizes it when it ends so whenever the steps and
the nesting fit, runs out of a resource whenever they do not, and does nothing else.

What runs are combined by has a counterpart on meanings, and a run that is put together
from runs that realize meanings realizes what the meanings are put together to.

## Main definitions

* `Meaning` — ways to end, each with its steps and its nesting.
* `Meaning.Instant`, `Meaning.Bind`, `Meaning.Mapped`, `Meaning.Framed`,
  `Meaning.Entered` — what meanings are put together by.
* `Run.Realizes m room x g` — from states with at most `m` steps left, and with `room`
  for nesting, the run `x` does what `g` means.

## Main results

* `Run.Realizes.bind`, `Run.Realizes.mapped`, `Run.Realizes.framed`,
  `realizes_enter_bind` — **what runs are combined by realizes its counterpart.**
-/

namespace ConstFold

open Run

/-- The ways an evaluation may end: from a frame, with an outcome in a frame, after a
number of steps and with a nesting. -/
abbrev Meaning (α : Type) := Frame → Except Interrupt α → Frame → Nat → Nat → Prop

namespace Meaning

variable {α β : Type}

/-- It ends at once, as the frame says. -/
inductive Instant (φ : Frame → Except Interrupt α × Frame) : Meaning α
  | intro (f : Frame) : Instant φ f (φ f).1 (φ f).2 0 0

/-- One after the other, unless the first is interrupted. -/
inductive Bind (g : Meaning α) (h : α → Meaning β) : Meaning β
  | value {a f f₁ f' o k₁ k₂ d₁ d₂ k d} : g f (.ok a) f₁ k₁ d₁ → h a f₁ o f' k₂ d₂ →
      k = k₁ + k₂ → d = max d₁ d₂ → Bind g h f o f' k d
  | interrupted {i f f' k d} : g f (.error i) f' k d → Bind g h f (.error i) f' k d

/-- The same with another outcome. -/
inductive Mapped (φ : Except Interrupt α → Except Interrupt β) (g : Meaning α) : Meaning β
  | intro {f o o' f' k d} : g f o f' k d → φ o = o' → Mapped φ g f o' f' k d

/-- In a frame of its own. -/
inductive Framed (locals : Frame) (g : Meaning α) : Meaning α
  | intro {f o f' k d} : g locals o f' k d → Framed locals g f o f k d

/-- With one step and one level more. -/
inductive Entered (g : Meaning α) : Meaning α
  | intro {f o f' k d} : g f o f' k d → Entered g f o f' (k + 1) (d + 1)

section Bind

variable {E : Meaning β} {g : Meaning α}

/-- To say that a meaning is two in sequence, it is enough to read its rules off. -/
theorem iff_bind {h : α → Meaning β}
    (hvalue : ∀ {a f f₁ o f' k₁ k₂ d₁ d₂}, g f (.ok a) f₁ k₁ d₁ → h a f₁ o f' k₂ d₂ →
      E f o f' (k₁ + k₂) (max d₁ d₂))
    (hinterrupted : ∀ {i f f' k d}, g f (.error i) f' k d → E f (.error i) f' k d)
    (hinv : ∀ {f o f' k d}, E f o f' k d → Bind g h f o f' k d) {f f' : Frame}
    {o : Except Interrupt β} {k d : Nat} : E f o f' k d ↔ Bind g h f o f' k d := by
  refine ⟨hinv, fun hm => ?_⟩
  cases hm with
  | value hg hh hk hd =>
    rw [hk, hd]
    exact hvalue hg hh
  | interrupted hg => exact hinterrupted hg

/-- The same where the second ends at once. -/
theorem iff_bind_instant {φ : α → Frame → Except Interrupt β × Frame}
    (hvalue : ∀ {a f f₁ k d}, g f (.ok a) f₁ k d → E f (φ a f₁).1 (φ a f₁).2 k d)
    (hinterrupted : ∀ {i f f' k d}, g f (.error i) f' k d → E f (.error i) f' k d)
    (hinv : ∀ {f o f' k d}, E f o f' k d → Bind g (fun a => Instant (φ a)) f o f' k d)
    {f f' : Frame} {o : Except Interrupt β} {k d : Nat} :
    E f o f' k d ↔ Bind g (fun a => Instant (φ a)) f o f' k d := by
  refine iff_bind ?_ hinterrupted hinv
  intro a f f₁ o f' k₁ k₂ d₁ d₂ hg hh
  cases hh with
  | intro =>
    rw [Nat.add_zero, Nat.max_zero]
    exact hvalue hg

/-- A value that is followed by what ends at once. -/
theorem Bind.value_instant {φ : α → Frame → Except Interrupt β × Frame} {a : α} {f f₁ : Frame}
    {k d : Nat} (hg : g f (.ok a) f₁ k d) :
    Bind g (fun a => Instant (φ a)) f (φ a f₁).1 (φ a f₁).2 k d :=
  .value hg (.intro f₁) rfl (Nat.max_zero d).symm

end Bind

end Meaning

namespace Run

variable {α β : Type} {m room : Nat}

/-- What follows a run that is out of a resource is left out. -/
theorem resourceEnd_bind {x : Run α} {f : α → Run β} {s : State}
    (h : ResourceEnd (outcome (x s))) : ResourceEnd (outcome ((x >>= f) s)) := by
  rw [bind_apply]
  cases hr : x s with
  | ok a t =>
    rw [hr] at h
    exact h.elim
  | error i t =>
    rw [hr] at h
    exact h

/-- From states with at most `m` steps left, and with `room` for nesting, the run does
what the meaning says. -/
structure Realizes (m room : Nat) (x : Run α) (g : Meaning α) : Prop where
  /-- What does not run out of a resource is meant. -/
  sound : ∀ {s : State}, s.budget.remaining ≤ m → ¬ ResourceEnd (outcome (x s)) →
    ∃ k d, g s.frame (outcome (x s)) (final (x s)).frame k d ∧ k ≤ s.budget.remaining ∧
      d ≤ room ∧ (final (x s)).budget = s.budget.spend k
  /-- What is meant and fits is done. -/
  complete : ∀ {s : State} {o f' k d}, s.budget.remaining ≤ m → g s.frame o f' k d →
    k ≤ s.budget.remaining → d ≤ room → x s = ending o ⟨s.budget.spend k, f'⟩
  /-- What is meant and does not fit runs out of a resource. -/
  exceeds : ∀ {s : State} {o f' k d}, s.budget.remaining ≤ m → g s.frame o f' k d →
    s.budget.remaining < k ∨ room < d → ResourceEnd (outcome (x s))

namespace Realizes

variable {x : Run α} {g : Meaning α}

theorem anti {j : Nat} (h : Realizes m room x g) (hj : j ≤ m) : Realizes j room x g where
  sound := fun hs => h.sound (Nat.le_trans hs hj)
  complete := fun hs => h.complete (Nat.le_trans hs hj)
  exceeds := fun hs => h.exceeds (Nat.le_trans hs hj)

theorem of_iff {g' : Meaning α} (h : Realizes m room x g)
    (hg : ∀ {f o f' k d}, g' f o f' k d ↔ g f o f' k d) : Realizes m room x g' where
  sound := by
    intro s hs hne
    obtain ⟨k, d, hm, hfits⟩ := h.sound hs hne
    exact ⟨k, d, hg.2 hm, hfits⟩
  complete := fun hs hm => h.complete hs (hg.1 hm)
  exceeds := fun hs hm => h.exceeds hs (hg.1 hm)

theorem of_eq {y : Run α} (h : Realizes m room x g)
    (hy : ∀ s, s.budget.remaining ≤ m → y s = x s) : Realizes m room y g where
  sound := by
    intro s hs hne
    rw [hy s hs] at hne ⊢
    exact h.sound hs hne
  complete := by
    intro s o f' k d hs
    rw [hy s hs]
    exact h.complete hs
  exceeds := by
    intro s o f' k d hs
    rw [hy s hs]
    exact h.exceeds hs

/-- What ends at once takes no step, so that it always fits. -/
theorem instant {φ : Frame → Except Interrupt α × Frame}
    (hx : ∀ s, x s = ending (φ s.frame).1 { s with frame := (φ s.frame).2 }) :
    Realizes m room x (.Instant φ) where
  sound := by
    intro s hs hne
    refine ⟨0, 0, ?_, Nat.zero_le _, Nat.zero_le _, ?_⟩
    · rw [hx, outcome_ending, final_ending]
      exact .intro s.frame
    · rw [hx, final_ending]
      rfl
  complete := by
    intro s o f' k d hs hm hk hd
    cases hm with
    | intro => exact hx s
  exceeds := by
    intro s o f' k d hs hm hlt
    cases hm with
    | intro => omega

/-- A meaning that is to end at once is realized by what does so. -/
theorem of_instant {φ : Frame → Except Interrupt α × Frame}
    (hx : ∀ s, x s = ending (φ s.frame).1 { s with frame := (φ s.frame).2 })
    (hg : ∀ f, g f (φ f).1 (φ f).2 0 0)
    (hinv : ∀ {f o f' k d}, g f o f' k d → Meaning.Instant φ f o f' k d) :
    Realizes m room x g := by
  refine (instant hx).of_iff fun {f o f' k d} => ⟨hinv, fun h => ?_⟩
  cases h with
  | intro => exact hg f

/-- The value of a run that realizes a meaning is meant, and leaves what was not spent. -/
theorem of_eq_ok (hx : Realizes m room x g) {s t : State} {a : α} (hs : s.budget.remaining ≤ m)
    (hr : x s = .ok a t) : ∃ k d, g s.frame (.ok a) t.frame k d ∧ k ≤ s.budget.remaining ∧
      d ≤ room ∧ t.budget = s.budget.spend k := by
  have hsound := hx.sound hs
  rw [hr] at hsound
  exact hsound id

/-- Sequencing realizes sequencing.  What comes after is needed only from the states in
which the first run gives a value. -/
theorem bind_of_eq_ok {f : α → Run β} {h : α → Meaning β} (hx : Realizes m room x g)
    (hf : ∀ {s t : State} {a : α}, s.budget.remaining ≤ m → x s = .ok a t →
      Realizes t.budget.remaining room (f a) (h a)) :
    Realizes m room (x >>= f) (.Bind g h) where
  sound := by
    intro s hs hne
    rw [bind_apply] at hne ⊢
    cases hr : x s with
    | ok a t =>
      rw [hr] at hne
      obtain ⟨k₁, d₁, hg, hk₁, hd₁, hb₁⟩ := hx.of_eq_ok hs hr
      obtain ⟨k₂, d₂, hh, hk₂, hd₂, hb₂⟩ := (hf hs hr).sound (Nat.le_refl _) hne
      refine ⟨k₁ + k₂, max d₁ d₂, .value hg hh rfl rfl, ?_, Nat.max_le.2 ⟨hd₁, hd₂⟩, ?_⟩
      · rw [hb₁, Budget.remaining_spend] at hk₂
        omega
      · rw [hb₂, hb₁, Budget.spend_spend]
    | error i t =>
      rw [hr] at hne
      have hsound := hx.sound hs
      rw [hr] at hsound
      obtain ⟨k, d, hg, hfits⟩ := hsound hne
      exact ⟨k, d, .interrupted hg, hfits⟩
  complete := by
    intro s o f' k d hs hm hk hd
    rw [bind_apply]
    cases hm with
    | @value a _ f₁ _ _ k₁ k₂ d₁ d₂ _ _ hg hh hk' hd' =>
      subst hk' hd'
      obtain ⟨hd₁, hd₂⟩ := Nat.max_le.1 hd
      have hr : x s = .ok a ⟨s.budget.spend k₁, f₁⟩ := hx.complete hs hg (by omega) hd₁
      have hk₂ : k₂ ≤ (s.budget.spend k₁).remaining := by
        rw [Budget.remaining_spend]
        omega
      rw [hr]
      show f a ⟨s.budget.spend k₁, f₁⟩ = _
      rw [(hf hs hr).complete (Nat.le_refl _) hh hk₂ hd₂, Budget.spend_spend]
    | interrupted hg =>
      rw [hx.complete hs hg hk hd]
      rfl
  exceeds := by
    intro s o f' k d hs hm hlt
    cases hm with
    | @value a _ f₁ _ _ k₁ k₂ d₁ d₂ _ _ hg hh hk' hd' =>
      -- The first run may already be out of a resource; if not, it leaves too little.
      by_cases hfits : k₁ ≤ s.budget.remaining ∧ d₁ ≤ room
      · have hr : x s = .ok a ⟨s.budget.spend k₁, f₁⟩ := hx.complete hs hg hfits.1 hfits.2
        have hlt₂ : (s.budget.spend k₁).remaining < k₂ ∨ room < d₂ := by
          rw [Budget.remaining_spend]
          omega
        rw [bind_apply, hr]
        exact (hf hs hr).exceeds (Nat.le_refl _) hh hlt₂
      · exact resourceEnd_bind (hx.exceeds hs hg (by omega))
    | interrupted hg => exact resourceEnd_bind (hx.exceeds hs hg hlt)

theorem bind {f : α → Run β} {h : α → Meaning β} (hx : Realizes m room x g)
    (hf : ∀ a, Realizes m room (f a) (h a)) : Realizes m room (x >>= f) (.Bind g h) := by
  refine hx.bind_of_eq_ok fun hs hr => (hf _).anti ?_
  obtain ⟨k, d, -, -, -, hb⟩ := hx.of_eq_ok hs hr
  rw [hb, Budget.remaining_spend]
  omega

/-- After a run that spends a step with every value, less is needed. -/
theorem bind_advancing {f : α → Run β} {h : α → Meaning β} (hx : Realizes m room x g)
    (hadvances : Advances x) (hf : ∀ a j, j < m → Realizes j room (f a) (h a)) :
    Realizes m room (x >>= f) (.Bind g h) :=
  hx.bind_of_eq_ok fun hs hr => hf _ _ (Nat.lt_of_lt_of_le (hadvances _ _ _ hr) hs)

/-- A run that changes only the outcome realizes the change, provided that resources
are kept apart. -/
theorem mapped {y : Run β} {φ : Except Interrupt α → Except Interrupt β}
    (hx : Realizes m room x g) (hy : ∀ s, y s = ending (φ (outcome (x s))) (final (x s)))
    (hφ : ∀ o, ResourceEnd (φ o) ↔ ResourceEnd o) : Realizes m room y (.Mapped φ g) where
  sound := by
    intro s hs hne
    rw [hy, outcome_ending, hφ] at hne
    obtain ⟨k, d, hg, hfits⟩ := hx.sound hs hne
    rw [hy, outcome_ending, final_ending]
    exact ⟨k, d, .intro hg rfl, hfits⟩
  complete := by
    intro s o f' k d hs hm hk hd
    cases hm with
    | intro hg ho => rw [hy, hx.complete hs hg hk hd, outcome_ending, final_ending, ho]
  exceeds := by
    intro s o f' k d hs hm hlt
    cases hm with
    | intro hg _ =>
      rw [hy, outcome_ending, hφ]
      exact hx.exceeds hs hg hlt

/-- An activation realizes what its run does in the frame. -/
theorem framed (hx : Realizes m room x g) (locals : Frame) :
    Realizes m room (inFrame locals x) (.Framed locals g) where
  sound := by
    intro s hs hne
    rw [outcome_inFrame] at hne ⊢
    rw [final_inFrame]
    obtain ⟨k, d, hg, hk, hd, hb⟩ := hx.sound (s := { s with frame := locals }) hs hne
    exact ⟨k, d, .intro hg, hk, hd, hb⟩
  complete := by
    intro s o f' k d hs hm hk hd
    cases hm with
    | @intro _ _ f₁ _ _ hg =>
      have hr : x { s with frame := locals } = ending o ⟨s.budget.spend k, f₁⟩ :=
        hx.complete hs hg hk hd
      rw [← ending_outcome_final (inFrame locals x s), outcome_inFrame, final_inFrame, hr,
        outcome_ending, final_ending]
  exceeds := by
    intro s o f' k d hs hm hlt
    cases hm with
    | intro hg =>
      rw [outcome_inFrame]
      exact hx.exceeds hs hg hlt

end Realizes

end Run

/-- **A node realizes one step and one level more than its form.**  The form is needed
only if there is a step and a level left. -/
theorem realizes_enter_bind {context : Context} {m depth : Nat} {x : Run Value}
    {g : Meaning Value} (hx : 0 < m → depth < context.limits.maxDepth →
      Realizes (m - 1) (context.limits.maxDepth - (depth + 1)) x g) :
    Realizes m (context.limits.maxDepth - depth) (enter context depth >>= fun _ => x)
      (.Entered g) := by
  -- Whether a node is started decides how it ends, apart from its form.
  have hstart : ∀ s : State, s.budget.remaining ≤ m →
      (0 < s.budget.remaining ∧ depth < context.limits.maxDepth ∧
        (enter context depth >>= fun _ => x) s = x { s with budget := s.budget.spend 1 }) ∨
      ((s.budget.remaining = 0 ∨ context.limits.maxDepth ≤ depth) ∧
        ResourceEnd (outcome ((enter context depth >>= fun _ => x) s))) := by
    intro s hs
    rw [bind_apply]
    rcases Nat.eq_zero_or_pos s.budget.remaining with hzero | hpos
    · rw [enter_of_remaining_eq_zero context depth hzero]
      exact .inr ⟨.inl hzero, rfl⟩
    · rcases Nat.lt_or_ge depth context.limits.maxDepth with hd | hd
      · rw [enter_of_lt hpos hd]
        exact .inl ⟨hpos, hd, rfl⟩
      · rw [enter_of_le hpos hd]
        exact .inr ⟨.inr hd, rfl⟩
  have hrem : ∀ s : State, s.budget.remaining ≤ m → (s.budget.spend 1).remaining ≤ m - 1 := by
    intro s hs
    rw [Budget.remaining_spend]
    omega
  constructor
  · intro s hs hne
    rcases hstart s hs with ⟨hpos, hd, heq⟩ | ⟨-, hres⟩
    · rw [heq] at hne ⊢
      obtain ⟨k, d, hg, hk, hd', hb⟩ := (hx (by omega) hd).sound (hrem s hs) hne
      rw [Budget.remaining_spend] at hk
      refine ⟨k + 1, d + 1, .intro hg, by omega, by omega, ?_⟩
      rw [hb, Budget.spend_spend, Nat.add_comm]
    · exact absurd hres hne
  · intro s o f' k d hs hm hk hd
    cases hm with
    | @intro _ _ _ k d hg =>
      -- What fits needs a step and a level, so that the node is started.
      rcases hstart s hs with ⟨hpos, hd', heq⟩ | ⟨hnot, -⟩
      · have hk' : k ≤ (s.budget.spend 1).remaining := by
          rw [Budget.remaining_spend]
          omega
        rw [heq, (hx (by omega) hd').complete (s := { s with budget := s.budget.spend 1 })
          (hrem s hs) hg hk' (by omega), Budget.spend_spend, Nat.add_comm]
      · omega
  · intro s o f' k d hs hm hlt
    cases hm with
    | @intro _ _ _ k d hg =>
      rcases hstart s hs with ⟨hpos, hd', heq⟩ | ⟨-, hres⟩
      · have hlt' : (s.budget.spend 1).remaining < k ∨
            context.limits.maxDepth - (depth + 1) < d := by
          rw [Budget.remaining_spend]
          omega
        rw [heq]
        exact (hx (by omega) hd').exceeds (hrem s hs) hg hlt'
      · exact hres

end ConstFold
