import ConstFold.Proofs.Lockstep

/-!
# The evaluator without its fuel

The fuel of an evaluation is there for the recursion and does not show.  Here it is left
out altogether: a node that is started does what its form says, with its parts evaluated
one level deeper by the evaluator itself, and a loop is a round after which it comes to
its rounds again.

## Main definitions

* `evaluateForm`, `evaluateRounds` — a node that is started, and the rounds of a loop.

## Main results

* `evaluate_eq_evalForm`, `evaluate_eq_enter_bind` — **a node that is started does what its
  form says.**
* `evaluateRounds_eq` — **a loop is a round and then the loop again.**
-/

namespace ConstFold

open Run

/-! ### Runs that are the same -/

/-- Runs that do the same within `m` steps agree. -/
theorem Comparison.agree_same {α : Type} {m : Nat} {x y : Run α} (hx : Spends x) (hy : Spends y)
    (h : ∀ s, s.budget.remaining ≤ m → x s = y s) : same.Agree m m x y where
  spends_left := hx
  spends_right := hy
  ends := by
    intro s t hs ht hst
    obtain rfl := hst.same_eq
    rw [h s hs]
    exact ends_same_self _

/-- Runs that agree do the same. -/
theorem Comparison.Agree.eq_of_same {α : Type} {m : Nat} {x y : Run α} (h : same.Agree m m x y)
    {s : State} (hs : s.budget.remaining ≤ m) : x s = y s :=
  (h.ends hs hs ⟨rfl, rfl⟩).same_eq

section Nodes

variable (context : Context) (depth : Nat)

theorem spends_evaluate (n : Node) : Spends (evaluate context depth n) :=
  fun s => spends_evalNode context s.budget.remaining depth n s

/-- The evaluator takes a step before anything else. -/
theorem metered_evaluate : Metered (evaluate context depth) where
  spends := spends_evaluate context depth
  advances := fun n s a t h =>
    (metered_evalNode context s.budget.remaining depth).advances n s a t h
  stalls := fun n _ hs => evalNode_of_remaining_eq_zero context _ depth n hs

theorem agree_evalNode_evaluate (m : Nat) (n : Node) :
    Comparison.same.Agree m m (evalNode context m depth n) (evaluate context depth n) :=
  Comparison.agree_same (spends_evalNode context m depth n) (spends_evaluate context depth n)
    fun _ hs => evalNode_eq_evaluate context depth n hs

/-- The form of a node does not see whether its parts are evaluated with the fuel of the node
or with as much as there are steps left. -/
theorem evalForm_evalNode_eq {m : Nat} (n : Node) {s : State} (hs : s.budget.remaining ≤ m) :
    evalForm context (evalNode context m depth) m n s =
      evalForm context (evaluate context depth) m n s := by
  have hparts : ∀ p p', p = p' → Comparison.same.Agree m m (evalNode context m depth p)
      (evaluate context depth p') := by
    rintro p _ rfl
    exact agree_evalNode_evaluate context depth m p
  have hagree : Comparison.same.Agree m m (evalForm context (evalNode context m depth) m n)
      (evalForm context (evaluate context depth) m n) := by
    refine Comparison.agree_evalForm hparts ?_ ?_ ?_ ?_ (Node.alike_self fun _ _ => rfl)
    · exact fun v _ => Comparison.agree_read rfl v
    · exact fun v a _ => Comparison.agree_bindVariable rfl v a
    · rintro callee as as' rfl hcall has
      cases hcall
      refine Comparison.agree_evalForm_call (M := Eq) hparts hparts ?_ rfl has
      exact Program.alike_self (fun _ _ => rfl) (fun _ _ => rfl) callee
    · intro id q q' b b' hq hb
      exact Comparison.agree_evalRounds (metered_evalNode context m depth)
        (metered_evaluate context depth) (hparts q q' hq)
        (Comparison.agree_evalOptional hparts hb) id m m (Nat.le_refl m) (Nat.le_refl m)
  exact hagree.eq_of_same hs

variable {context depth}

/-- **A node that is started does what its form says**, with its parts evaluated one level
deeper. -/
theorem evaluate_eq_evalForm (n : Node) {s : State} (hs : 0 < s.budget.remaining)
    (hd : depth < context.limits.maxDepth) :
    evaluate context depth n s =
      evalForm context (evaluate context (depth + 1)) (s.budget.remaining - 1) n
        { s with budget := s.budget.spend 1 } := by
  show evalNode context s.budget.remaining depth n s = _
  rw [evalNode_eq_enter_bind context depth n (Nat.le_refl _), bind_apply, enter_of_lt hs hd]
  exact evalForm_evalNode_eq context (depth + 1) n (Nat.le_refl _)

/-- A node at the largest nesting fails, after its step. -/
theorem evaluate_of_le (n : Node) {s : State} (hs : 0 < s.budget.remaining)
    (hd : context.limits.maxDepth ≤ depth) :
    evaluate context depth n s =
      .error (.failing (.depthExceeded context.limits.maxDepth))
        { s with budget := s.budget.spend 1 } := by
  show evalNode context s.budget.remaining depth n s = _
  rw [evalNode_eq_enter_bind context depth n (Nat.le_refl _), bind_apply, enter_of_le hs hd]

variable (context depth)

/-- What the form of a node says, with as much fuel as there are steps left. -/
def evaluateForm (n : Node) : Run Value := fun s =>
  evalForm context (evaluate context depth) s.budget.remaining n s

/-- A node is started and then does what its form says. -/
theorem evaluate_eq_enter_bind (n : Node) :
    evaluate context depth n =
      enter context depth >>= fun _ => evaluateForm context (depth + 1) n := by
  funext s
  rw [bind_apply]
  rcases Nat.eq_zero_or_pos s.budget.remaining with hs | hs
  · rw [(metered_evaluate context depth).stalls n s hs, enter_of_remaining_eq_zero context depth hs]
    rfl
  · rcases Nat.lt_or_ge depth context.limits.maxDepth with hd | hd
    · rw [evaluate_eq_evalForm n hs hd, enter_of_lt hs hd]
      rfl
    · rw [evaluate_of_le n hs hd, enter_of_le hs hd]

end Nodes

/-! ### Loops -/

/-- What follows a condition. -/
theorem evalTest_apply (eval : Node → Run Value) (q : Node) (again : Run Value) (s : State) :
    evalTest eval q again s =
      match truth (outcome (eval q s)) with
      | .ok true => again (final (eval q s))
      | .ok false => .ok .unit (final (eval q s))
      | .error i => .error i (final (eval q s)) := by
  rw [evalTest, bind_apply, evalCondition_apply]
  rcases truth (outcome (eval q s)) with i | _ | _ <;> rfl

section Loops

variable (context : Context) (depth : Nat) (id : LoopId) (q : Node) (b : Option Node)

/-- The rounds of a loop inside `depth` nodes. -/
def evaluateRounds : Run Value := fun s =>
  evalRounds (evaluate context depth) id q b s.budget.remaining s

theorem spends_evaluateRounds : Spends (evaluateRounds context depth id q b) :=
  fun s => spends_evalRounds (spends_evaluate context depth) id q b s.budget.remaining s

theorem agree_evaluate_self (m : Nat) (p p' : Node) (h : p = p') :
    Comparison.same.Agree m m (evaluate context depth p) (evaluate context depth p') := by
  subst h
  exact Comparison.agree_same (spends_evaluate context depth p) (spends_evaluate context depth p)
    fun _ _ => rfl

/-- Fuel beyond the steps left makes no difference to a loop. -/
theorem evalRounds_eq_evaluateRounds {k : Nat} {s : State} (hs : s.budget.remaining ≤ k) :
    evalRounds (evaluate context depth) id q b k s = evaluateRounds context depth id q b s := by
  have hself := agree_evaluate_self context depth k
  have hbody := Comparison.agree_evalOptional hself (option_rel_self (o := b) fun _ _ => rfl)
  have hagree := Comparison.agree_evalRounds (metered_evaluate context depth)
    (metered_evaluate context depth) (hself q q rfl) hbody id k s.budget.remaining
    (Nat.le_refl k) hs
  exact (hagree.ends hs (Nat.le_refl _) ⟨rfl, rfl⟩).same_eq

/-- **A loop is a round and then the loop again.** -/
theorem evaluateRounds_eq (s : State) :
    evaluateRounds context depth id q b s =
      evalRound (evaluate context depth) id q b (evaluateRounds context depth id q b) s := by
  have hself := agree_evaluate_self context depth s.budget.remaining
  have hbody := Comparison.agree_evalOptional hself (option_rel_self (o := b) fun _ _ => rfl)
  have hspends := spends_evalRounds (spends_evaluate context depth) id q b s.budget.remaining
  have hagain : Comparison.same.Agree s.budget.remaining s.budget.remaining
      (evalRounds (evaluate context depth) id q b s.budget.remaining)
      (evaluateRounds context depth id q b) :=
    Comparison.agree_same hspends (spends_evaluateRounds context depth id q b)
      fun _ hs => evalRounds_eq_evaluateRounds context depth id q b hs
  have hagree := Comparison.agree_evalRound (metered_evaluate context depth)
    (metered_evaluate context depth) (hself q q rfl) hbody id hspends
    (spends_evaluateRounds context depth id q b)
    fun j j' hj hj' => hagain.anti (Nat.le_of_lt hj) (Nat.le_of_lt hj')
  -- One round more of fuel is a round that can be taken off.
  rw [← evalRounds_eq_evaluateRounds context depth id q b (Nat.le_succ s.budget.remaining),
    evalRounds_succ]
  exact hagree.eq_of_same (Nat.le_refl _)

/-- A loop that checks first comes to its condition, and then to its rounds. -/
theorem evaluateForm_preTest :
    evaluateForm context depth (.loop id .preTest q b) =
      evalTest (evaluate context depth) q (evaluateRounds context depth id q b) := by
  funext s
  show evalTest (evaluate context depth) q
    (evalRounds (evaluate context depth) id q b s.budget.remaining) s = _
  have hleft : (final (evaluate context depth q s)).budget.remaining ≤ s.budget.remaining :=
    (spends_evaluate context depth q s).remaining_le
  rw [evalTest_apply, evalTest_apply, evalRounds_eq_evaluateRounds _ _ id q b hleft]

/-- The form of a node, with the rounds of a loop as the evaluator runs them. -/
theorem evaluateForm_eq (n : Node) :
    evaluateForm context depth n =
      evalFormWith (evalCall context (evaluate context depth)) (evaluateRounds context depth)
        (evaluate context depth) n := by
  cases n with
  | loop id kind q b =>
    cases kind with
    | preTest => exact evaluateForm_preTest context depth id q b
    | postTest => rfl
  | declare v initializer => cases initializer <;> rfl
  | typeOperation operator n => cases operator <;> rfl
  | _ => rfl

end Loops

end ConstFold
