import ConstFold.Proofs.Quiet

/-!
# Putting a literal in place of a node

A host that has folded a node puts the literal in its place, at any of the places where
the node occurs: in other nodes, in the bodies of functions, in defaults.  Provided the
node and the defaults are quiet, this changes no result, except that what ran out of a
resource may do so no longer.  In particular one fold may be followed by another.

## Main definitions

* `Literal.constant` — a literal as a constant of the program.
* `Node.Replaced old new n n'` — `n'` is `n` with some occurrences of `old` replaced.
* `Comparison.thrifty` — a run and one that has as much of the budget left or more,
  until the first one runs out of a resource.

## Main results

* `Comparison.agree_evalNode_replaced` — the evaluation goes on alike after replacement.
* `foldCounted_replaced` — **folding is sound under substitution.**
-/

namespace ConstFold

open Run

/-- A literal as a constant of the program. -/
def Literal.constant : Literal → Constant
  | .int i => .int i
  | .bool b => .bool b
  | .text s => .text s

@[simp] theorem Literal.value_constant (l : Literal) : l.constant.value = .ok l.toValue := by
  cases l <;> rfl

/-- The second node is the first one with some occurrences of `old` replaced by `new`. -/
inductive Node.Replaced (old new : Node) : Node → Node → Prop
  /-- This occurrence is replaced. -/
  | here : Replaced old new old new
  /-- This node is kept, and its parts may be replaced. -/
  | inside {n n' : Node} : Node.Alike (Node.Replaced old new) n n' → Replaced old new n n'

namespace Comparison

/-- A run and one that has no fewer steps left.  The first may run out of a resource, and
then nothing is said of the second. -/
def thrifty : Comparison where
  frames := Eq
  budgets := fun b b' => b.limit = b'.limit ∧ b.remaining ≤ b'.remaining
  failures := fun f g => f = g ∧ f.isResource = false
  apart := fun f _ _ => f.isResource = true
  failures_self := fun hf => ⟨rfl, hf⟩
  apart_leads := fun h _ => h

theorem ends_of_resourceEnd {α : Type} {S : State → State → Prop}
    {r r' : EStateM.Result Interrupt State α} (h : ResourceEnd (outcome r)) :
    thrifty.Ends S r r' := by
  cases r with
  | ok a s => exact h.elim
  | error i s =>
    cases i with
    | failing f => exact .stopped h
    | returning a => exact h.elim
    | breaking target => exact h.elim
    | continuing target => exact h.elim

section

variable {limits : Limits} {program program' : Program} {operators : OperatorTable} {old : Node}
  {c : Constant} {a : Value}

/-- A node that the first run can start, the second can start as well. -/
theorem ends_enter_thrifty (depth : Nat) {s t : State} (hst : thrifty.States s t) :
    thrifty.Ends thrifty.States (enter ⟨limits, program, operators⟩ depth s)
      (enter ⟨limits, program', operators⟩ depth t) := by
  obtain ⟨⟨hlimit, hle⟩, hframes⟩ := hst
  rcases Nat.eq_zero_or_pos s.budget.remaining with hzero | hpos
  · rw [enter_of_remaining_eq_zero _ depth hzero]
    exact .stopped rfl
  · rcases Nat.lt_or_ge depth limits.maxDepth with hd | hd
    · rw [enter_of_lt hpos hd, enter_of_lt (Nat.lt_of_lt_of_le hpos hle) hd]
      exact .value ⟨⟨hlimit, Nat.sub_le_sub_right hle 1⟩, hframes⟩
    · rw [enter_of_le hpos hd]
      exact .stopped rfl

/-- A constant takes the place of a node that has its value in every frame. -/
theorem agree_evalNode_const
    (hvalue : ∀ g, ∃ k d, Evaluates program operators (.node old) g (.ok a) g k d)
    (hc : c.value = .ok a) (fuel₁ fuel₂ depth : Nat) :
    thrifty.Agree fuel₁ fuel₂ (evalNode ⟨limits, program, operators⟩ fuel₁ depth old)
      (evalNode ⟨limits, program', operators⟩ fuel₂ depth (.const c)) where
  spends_left := spends_evalNode _ fuel₁ depth old
  spends_right := spends_evalNode _ fuel₂ depth (.const c)
  ends := by
    intro s t hs ht hst
    obtain ⟨⟨hlimit, hle⟩, hframes⟩ := hst
    obtain ⟨k, d, h⟩ := hvalue s.frame
    have hrealizes := realizes_evalNode ⟨limits, program, operators⟩ fuel₁ depth old
    by_cases hfits : k ≤ s.budget.remaining ∧ d ≤ limits.maxDepth - depth
    · -- The node takes at least the step and the level that the constant takes.
      obtain ⟨hk, hd⟩ := hfits
      have hkpos := h.steps_pos
      have hdpos := h.nesting_pos
      have hleft := hrealizes.complete hs h hk hd
      have hpos : 0 < t.budget.remaining := by omega
      have hlt : depth < limits.maxDepth := by omega
      have hright : evalNode ⟨limits, program', operators⟩ fuel₂ depth (.const c) t =
          .ok a { t with budget := t.budget.spend 1 } := by
        rw [evalNode_eq_enter_bind _ depth (.const c) ht, bind_apply, enter_of_lt hpos hlt]
        show ofExcept c.value _ = _
        rw [hc]
        rfl
      rw [hleft, hright]
      refine .value ⟨⟨hlimit, ?_⟩, hframes⟩
      rw [Budget.remaining_spend, Budget.remaining_spend]
      omega
    · have hexceeds : s.budget.remaining < k ∨ limits.maxDepth - depth < d := by omega
      exact ends_of_resourceEnd (hrealizes.exceeds hs h hexceeds)

/-- The evaluation goes on alike after replacement, if the node that is replaced has the
value of the constant in every frame. -/
theorem agree_evalNode_replaced
    (hprogram : Program.Alike (Node.Replaced old (.const c)) (Node.Replaced old (.const c))
      program program')
    (hvalue : ∀ g, ∃ k d, Evaluates program operators (.node old) g (.ok a) g k d)
    (hc : c.value = .ok a) (fuel₁ fuel₂ depth : Nat) {n n' : Node}
    (h : Node.Replaced old (.const c) n n') :
    thrifty.Agree fuel₁ fuel₂ (evalNode ⟨limits, program, operators⟩ fuel₁ depth n)
      (evalNode ⟨limits, program', operators⟩ fuel₂ depth n') := by
  refine agree_evalNode (c := fun _ => thrifty) (fun _ => rfl) (fun _ => .refl _)
    (fun depth _ _ => ends_enter_thrifty depth) hprogram rfl ?_ fuel₁ fuel₂ depth n n' h
  intro p p' hp
  cases hp with
  | here => exact .inr fun fuel₁ fuel₂ depth => agree_evalNode_const hvalue hc fuel₁ fuel₂ depth
  | inside halike => exact .inl halike

end

end Comparison

/-- **Folding is sound under substitution.**  Let a node and the defaults of the program be
quiet, and let the node fold within some limits.  Then to put its literal in place of
occurrences of it, in a root and in the program, leaves every result as it was that
did not run out of a resource, and takes no more steps. -/
theorem foldCounted_replaced {program program' : Program} {operators : OperatorTable}
    {limits₀ limits : Limits} {n m m' : Node} {l : Literal} (hn : n.Quiet)
    (hdefaults : ∀ p, program.HasDefault p → p.Quiet)
    (hfold : fold ⟨limits₀, program, operators⟩ n = .ok l)
    (hprogram : Program.Alike (Node.Replaced n (.const l.constant))
      (Node.Replaced n (.const l.constant)) program program')
    (hroot : Node.Replaced n (.const l.constant) m m')
    (hresult : ∀ f, fold ⟨limits, program, operators⟩ m = .error f → f.isResource = false) :
    fold ⟨limits, program', operators⟩ m' = fold ⟨limits, program, operators⟩ m ∧
      (foldCounted ⟨limits, program', operators⟩ m').2 ≤
        (foldCounted ⟨limits, program, operators⟩ m).2 := by
  have hvalue := evaluates_of_fold_eq_ok hn hdefaults hfold
  have hagree : Comparison.thrifty.Agree limits.maxSteps limits.maxSteps
      (evalNode ⟨limits, program, operators⟩ limits.maxSteps 0 m)
      (evalNode ⟨limits, program', operators⟩ limits.maxSteps 0 m') :=
    Comparison.agree_evalNode_replaced hprogram hvalue l.value_constant _ _ 0 hroot
  rw [fold_eq_foldCounted] at hresult ⊢
  rw [fold_eq_foldCounted]
  rcases Comparison.foldCounted_cases ⟨limits, program, operators⟩ ⟨limits, program', operators⟩
    hagree (fun _ _ => And.left) ⟨⟨rfl, Nat.le_refl _⟩, rfl⟩ with
    ⟨r, b, b', hrun, hrun', ⟨hlimit, hle⟩, -⟩ | ⟨f, b, b', hrun, -, ha⟩
  · rw [hrun, hrun']
    refine ⟨rfl, ?_⟩
    simp only [Budget.used]
    rw [hlimit]
    exact Nat.sub_le_sub_left hle _
  · -- The first fold has run out of a resource, which it has not.
    rw [hrun] at hresult
    have hfalse := hresult f rfl
    rw [show f.isResource = true from ha] at hfalse
    cases hfalse

/-! ### An instance -/

/-- A function whose argument defaults to `n`, and which gives the product of it and `n`. -/
def productProgram (n : Node) : Program :=
  Bindings.empty.insert ⟨100⟩
    ⟨"f", [⟨⟨0⟩, some n⟩], some (.expression (.callBuiltin .intTimes [.get ⟨0⟩, n]))⟩

/-- The sum of `n` and a call of the function. -/
def productRoot (n : Node) : Node := .callBuiltin .intPlus [n, .call ⟨100⟩ []]

theorem replaced_productRoot (n n' : Node) :
    Node.Replaced n n' (productRoot n) (productRoot n') :=
  .inside (.call _ (.cons (.some .here) (.cons (.some (.inside (.call _ .nil))) .nil)))

theorem alike_productProgram (n n' : Node) :
    Program.Alike (Node.Replaced n n') (Node.Replaced n n') (productProgram n)
      (productProgram n') := by
  intro s
  rw [productProgram, productProgram, Bindings.get?_insert, Bindings.get?_insert]
  split
  · refine .some ⟨.cons ⟨rfl, .some .here⟩ .nil, .some (.expression (.inside ?_))⟩
    exact .call _ (.cons (.some (.inside (.get _))) (.cons (.some .here) .nil))
  · exact .none

theorem eq_of_hasDefault_productProgram {n p : Node} (h : (productProgram n).HasDefault p) :
    p = n := by
  obtain ⟨s, d, hd, q, hq, hp⟩ := h
  rw [productProgram, Bindings.get?_insert] at hd
  split at hd
  · cases hd
    rw [List.mem_singleton.1 hq] at hp
    cases hp
    rfl
  · cases hd

/-- The sum of one and two. -/
def smallSum : Node := .callBuiltin .intPlus [.int 1, .int 2]

theorem quiet_smallSum : smallSum.Quiet := by
  refine Node.quiet_iff.2 ⟨fun _ => id, fun p hp => ?_⟩
  have hconst : ∀ c, (Node.const c).Quiet := fun c =>
    Node.quiet_iff.2 ⟨fun _ => id, fun _ h => absurd h (List.not_mem_nil)⟩
  have hp : p ∈ [Node.int 1, Node.int 2] := hp
  rcases List.mem_pair.1 hp with rfl | rfl
  · exact hconst _
  · exact hconst _

/-- The literal three takes the place of a sum in a root, a default and a body. -/
theorem foldCounted_replaced_smallSum :
    fold ⟨⟨10, 10⟩, productProgram smallSum, .reserved⟩ smallSum = .ok (.int 3) ∧
      fold ⟨⟨20, 10⟩, productProgram smallSum, .reserved⟩ (productRoot smallSum) = .ok (.int 12) ∧
      fold ⟨⟨20, 10⟩, productProgram (.int 3), .reserved⟩ (productRoot (.int 3)) =
        .ok (.int 12) ∧
      (foldCounted ⟨⟨20, 10⟩, productProgram (.int 3), .reserved⟩ (productRoot (.int 3))).2 ≤
        (foldCounted ⟨⟨20, 10⟩, productProgram smallSum, .reserved⟩ (productRoot smallSum)).2 := by
  have hfold : fold ⟨⟨10, 10⟩, productProgram smallSum, .reserved⟩ smallSum = .ok (.int 3) := by
    decide +kernel
  have hroot : fold ⟨⟨20, 10⟩, productProgram smallSum, .reserved⟩ (productRoot smallSum) =
      .ok (.int 12) := by
    decide +kernel
  have hdefaults : ∀ p, (productProgram smallSum).HasDefault p → p.Quiet := by
    intro p hp
    rw [eq_of_hasDefault_productProgram hp]
    exact quiet_smallSum
  have h := foldCounted_replaced quiet_smallSum hdefaults hfold
    (alike_productProgram smallSum (.int 3)) (replaced_productRoot smallSum (.int 3))
    (fun f hf => by rw [hroot] at hf; cases hf)
  rw [hroot] at h
  exact ⟨hfold, hroot, h⟩

end ConstFold
