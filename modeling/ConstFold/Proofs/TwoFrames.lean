import ConstFold.Proofs.Lockstep

/-!
# One node in two frames

A node is evaluated twice, with the same budget but in different frames.  What the two
frames have to do with one another is up to a comparison.  Where it holds at every read
and is kept by every binding, both evaluations go in lockstep.

Only the node and the defaults of the program have to be watched for that.  The body of
a function has a frame of its own, which is the same both times, and so does the same.

## Main results

* `Comparison.ends_enter_self`, `Comparison.agree_fresh_self` — starting a node, and
  running a body, do not depend on the frame.
* `Comparison.agree_evalNode_twoFrames` — **a node goes in lockstep in two frames** if what
  it reads and binds itself does.
-/

namespace ConstFold

open Run

namespace Comparison

variable {c : Comparison}

/-- Whether a node is started does not depend on the frame. -/
theorem ends_enter_self (hbudgets : c.budgets = Eq) (hfailures : ∀ f, c.failures f f)
    (context : Context) (depth : Nat) {s t : State} (hst : c.States s t) :
    c.Ends c.States (enter context depth s) (enter context depth t) := by
  obtain ⟨b, f⟩ := s
  obtain ⟨b', f'⟩ := t
  obtain ⟨hb, hframes⟩ := hst
  have hself : ∀ b : Budget, c.budgets b b := by
    intro b
    rw [hbudgets]
  rw [hbudgets] at hb
  obtain rfl : b = b' := hb
  rcases Nat.eq_zero_or_pos b.remaining with hzero | hpos
  · rw [enter_of_remaining_eq_zero context depth hzero,
      enter_of_remaining_eq_zero context depth hzero]
    exact .interrupted (.failing (hfailures _)) ⟨hself b, hframes⟩
  · rcases Nat.lt_or_ge depth context.limits.maxDepth with hd | hd
    · rw [enter_of_lt hpos hd, enter_of_lt hpos hd]
      exact .value ⟨hself (b.spend 1), hframes⟩
    · rw [enter_of_le hpos hd, enter_of_le hpos hd]
      exact .interrupted (.failing (hfailures _)) ⟨hself (b.spend 1), hframes⟩

/-- In an activation, both are the same run. -/
theorem agree_fresh_self (hbudgets : c.budgets = Eq) (hfailures : ∀ f, c.failures f f)
    {α : Type} {m₁ m₂ : Nat} {x : Run α} (hx : Spends x) : c.fresh.Agree m₁ m₂ x x where
  spends_left := hx
  spends_right := hx
  ends := by
    intro s t _ _ hst
    have hb : s.budget = t.budget := by
      have h := hst.budgets
      rwa [show c.fresh.budgets = Eq from hbudgets] at h
    obtain rfl : s = t := States.same_eq ⟨hb, hst.frames⟩
    have hsame : same.Refines c.fresh := by
      refine ⟨fun h => ⟨?_, h.frames⟩, fun h => ?_, fun h => h.elim⟩
      · rw [show c.fresh.budgets = Eq from hbudgets]
        exact h.budgets
      · rw [show _ = _ from h]
        exact hfailures _
    exact (ends_same_self (x s)).mono hsame

/-- **A node goes in lockstep in two frames** if what it reads and binds itself does.  The
nodes watched are those with `S`: their parts, and the defaults of the program. -/
theorem agree_evalNode_twoFrames (hbudgets : c.budgets = Eq) (hfailures : ∀ f, c.failures f f)
    (context : Context) {S : Node → Prop} (hparts : ∀ n, S n → ∀ p ∈ n.parts, S p)
    (hdefaults : ∀ p, context.program.HasDefault p → S p)
    (hread : ∀ v k, S (.get v) → c.Agree k k (read v) (read v))
    (hbind : ∀ n v a k, S n → n.Assigns v →
      c.Agree k k (bindVariable v a) (bindVariable v a))
    (fuel depth : Nat) (n : Node) (hn : S n) :
    c.Agree fuel fuel (evalNode context fuel depth n) (evalNode context fuel depth n) := by
  induction fuel using Nat.strongRecOn generalizing depth n with
  | _ fuel ih =>
    refine agree_evalNode_of_evalForm (.refl _)
      (fun s t => ends_enter_self hbudgets hfailures context depth) ?_
    intro k k' hk hk₁ hk₂
    obtain rfl : k = k' := by omega
    have hevals : ∀ p p', p = p' ∧ S p →
        c.Agree k k (evalNode context k (depth + 1) p) (evalNode context k (depth + 1) p') := by
      rintro p _ ⟨rfl, hp⟩
      exact ih k hk (depth + 1) p hp
    refine agree_evalForm hevals ?_ ?_ ?_ ?_ (Node.alike_self fun p hp => ⟨rfl, hparts n hn p hp⟩)
    · rintro v rfl
      exact hread v k hn
    · exact fun v a hassigns => hbind n v a k hn hassigns
    · rintro callee as as' rfl hcall has
      cases hcall
      refine agree_evalForm_call (M := Eq) hevals ?_ ?_ rfl has
      · -- A body may read and bind what it likes, but in a frame of its own.
        rintro p _ rfl
        exact agree_fresh_self hbudgets hfailures (spends_evalNode context k (depth + 1) p)
      · exact Program.alike_self (fun p hp => ⟨rfl, hdefaults p hp⟩) (fun _ _ => rfl) callee
    · intro id q q' b b' hq hb
      have hmetered := metered_evalNode context k (depth + 1)
      exact agree_evalRounds hmetered hmetered (hevals q q' hq) (agree_evalOptional hevals hb) id
        k k (Nat.le_refl k) (Nat.le_refl k)

end Comparison

end ConstFold
