import ConstFold.Proofs.Adequacy
import ConstFold.Proofs.TwoFrames

/-!
# Quiet nodes

A node is quiet when nothing in it binds a variable.  If the defaults of the program are
quiet as well, the evaluation of a quiet node never changes the frame it starts in:
what binds variables is in the bodies of functions, which have frames of their own.
And if it succeeds in the empty frame it has read no variable, so that it would have
done the same in any other.

## Main definitions

* `Node.Within`, `Node.Quiet` — the nodes that occur in a node, and quiet nodes.
* `Comparison.anyFrame g` — a run in the empty frame and a run in `g`, until the first
  one reads a variable.

## Main results

* `Comparison.agree_evalNode_quiet` — quiet nodes go in lockstep in the two frames.
* `evaluates_of_fold_eq_ok` — **a quiet node that folds has its value in every frame.**
-/

namespace ConstFold

open Run

/-! ### What occurs in a node -/

/-- The node `m` is the other one or stands somewhere inside it. -/
inductive Node.Within (m : Node) : Node → Prop
  | self : Within m m
  | part {p n : Node} : p ∈ n.parts → Within m p → Within m n

/-- Nothing in the node binds a variable of the frame it is evaluated in. -/
def Node.Quiet (n : Node) : Prop := ∀ m v, Node.Within m n → ¬ m.Assigns v

/-- A node is quiet if it binds no variable itself and its parts are quiet. -/
theorem Node.quiet_iff {n : Node} :
    n.Quiet ↔ (∀ v, ¬ n.Assigns v) ∧ ∀ p ∈ n.parts, p.Quiet := by
  constructor
  · intro h
    exact ⟨fun v => h n v .self, fun p hp m v hm => h m v (.part hp hm)⟩
  · rintro ⟨hself, hparts⟩ m v hm
    cases hm with
    | self => exact hself v
    | part hp hm => exact hparts _ hp m v hm

namespace Comparison

/-- A run in the empty frame and one in the frame `g`.  The first fails where it reads a
variable, and there the second may go on. -/
def anyFrame (g : Frame) : Comparison where
  frames := fun f f' => f = .empty ∧ f' = g
  budgets := Eq
  failures := Eq
  apart := fun f _ _ => ∃ v, f = .unboundVariable v
  failures_self := fun _ => rfl
  apart_leads := fun h _ => h

/-- The empty frame has no variable to read. -/
theorem agree_read_anyFrame (g : Frame) {m₁ m₂ : Nat} (v : VariableId) :
    (anyFrame g).Agree m₁ m₂ (read v) (read v) where
  spends_left := spends_read v
  spends_right := spends_read v
  ends := by
    intro s t _ _ hst
    have hempty : s.frame = .empty := hst.frames.1
    have hfails : read v s = .error (.failing (.unboundVariable v)) s := by
      show ofExcept (s.frame.read v) s = _
      rw [hempty]
      rfl
    rw [hfails]
    exact .stopped ⟨v, rfl⟩

/-- **Quiet nodes go in lockstep in the empty frame and in any other**, as long as defaults
are quiet: these are evaluated in the frame of the call. -/
theorem agree_evalNode_quiet (g : Frame) (context : Context)
    (hdefaults : ∀ p, context.program.HasDefault p → p.Quiet) (fuel depth : Nat) (n : Node)
    (hn : n.Quiet) :
    (anyFrame g).Agree fuel fuel (evalNode context fuel depth n)
      (evalNode context fuel depth n) := by
  refine agree_evalNode_twoFrames (c := anyFrame g) rfl (fun _ => rfl) context ?_ hdefaults ?_ ?_
    fuel depth n hn
  · exact fun m hm => (Node.quiet_iff.1 hm).2
  · exact fun v _ _ => agree_read_anyFrame g v
  · -- A quiet node binds nothing, so that the frames stay what they are.
    exact fun m v a _ hm hassigns => absurd hassigns (hm m v .self)

end Comparison

/-- **A quiet node that folds has its value in every frame**, and leaves the frame as it is. -/
theorem evaluates_of_fold_eq_ok {limits : Limits} {program : Program} {operators : OperatorTable}
    {n : Node} {l : Literal} (hn : n.Quiet) (hdefaults : ∀ p, program.HasDefault p → p.Quiet)
    (hfold : fold ⟨limits, program, operators⟩ n = .ok l) (g : Frame) :
    ∃ k d, Evaluates program operators (.node n) g (.ok l.toValue) g k d := by
  have hagree := Comparison.agree_evalNode_quiet g ⟨limits, program, operators⟩ hdefaults
    limits.maxSteps 0 n hn
  have hends := hagree.ends (s := ⟨.full limits.maxSteps, .empty⟩)
    (t := ⟨.full limits.maxSteps, g⟩) (Nat.le_refl _) (Nat.le_refl _) ⟨rfl, rfl, rfl⟩
  have hroot : outcome (evalNode ⟨limits, program, operators⟩ limits.maxSteps 0 n
      ⟨.full limits.maxSteps, .empty⟩) = .ok l.toValue := by
    rw [fold_eq_foldCounted, foldCounted_eq] at hfold
    exact conclude_eq_ok_iff.1 hfold
  have hsound := (realizes_evalNode ⟨limits, program, operators⟩ limits.maxSteps 0 n).sound
    (s := ⟨.full limits.maxSteps, g⟩) (Nat.le_refl _)
  generalize evalNode ⟨limits, program, operators⟩ limits.maxSteps 0 n
    ⟨.full limits.maxSteps, .empty⟩ = r at hends hroot
  generalize evalNode ⟨limits, program, operators⟩ limits.maxSteps 0 n
    ⟨.full limits.maxSteps, g⟩ = r' at hends hsound
  -- The run in the empty frame gives a value, so the other one ends in the same way.
  cases hends with
  | @value a s t hst =>
    obtain rfl : a = l.toValue := Except.ok.inj hroot
    obtain ⟨k, d, h, -⟩ := hsound id
    have hframe : t.frame = g := hst.frames.2
    rw [final_ok, hframe] at h
    exact ⟨k, d, h⟩
  | interrupted => cases hroot
  | stopped => cases hroot

end ConstFold
