import ConstFold.Proofs.Adequacy
import ConstFold.Proofs.Unfolding

/-!
# Loops unrolled

The two kinds of loop are each other's unrollings.  A loop that checks first is its
condition and then, if that holds, the loop that checks last; and that one is its body and
then, unless the body has left it, the loop that checks first.  Nothing is lost or gained on
the way: the steps of the two halves add up to those of the whole, since the node that is
taken off at one end is the node that is put on at the other.

This is stated twice: for the meaning of nodes, where there are no limits, and for the
evaluator within any limits, whether or not these are kept.

## Main results

* `evaluates_whileLoop_iff`, `evaluates_doWhile_iff` — the meanings.
* `evaluate_whileLoop_unrolled`, `evaluate_doWhile_unrolled` — the runs.
* `loop_unrolling` — **both, for each kind of loop in terms of the other.**
-/

namespace ConstFold

open Run

/-! ### What a loop makes of its parts -/

theorem truth_eq_ok_iff {o : Outcome} {p : Bool} : truth o = .ok p ↔ o = .ok (.bool p) := by
  cases o with
  | ok a => cases a <;> simp [truth, plain, Value.asBool]
  | error i => simp [truth]

/-- A loop goes on after a value and after a jump to its next round. -/
theorem roundEnd_eq_true_iff {id : LoopId} {o : Outcome} :
    roundEnd id o = .ok true ↔ (∃ a, o = .ok a) ∨ o = .error (.continuing id) := by
  cases o with
  | ok a => simp [roundEnd]
  | error i =>
    cases i with
    | returning a => simp [roundEnd]
    | failing cause => simp [roundEnd]
    | breaking target => by_cases h : target = id <;> simp [roundEnd, h]
    | continuing target => by_cases h : target = id <;> simp [roundEnd, h]

/-- It ends after a jump past its end. -/
theorem roundEnd_eq_false_iff {id : LoopId} {o : Outcome} :
    roundEnd id o = .ok false ↔ o = .error (.breaking id) := by
  cases o with
  | ok a => simp [roundEnd]
  | error i =>
    cases i with
    | returning a => simp [roundEnd]
    | failing cause => simp [roundEnd]
    | breaking target => by_cases h : target = id <;> simp [roundEnd, h]
    | continuing target => by_cases h : target = id <;> simp [roundEnd, h]

/-- Every other interrupt passes. -/
theorem roundEnd_eq_error_iff {id : LoopId} {o : Outcome} {i : Interrupt} :
    roundEnd id o = .error i ↔ o = .error i ∧ i ≠ .breaking id ∧ i ≠ .continuing id := by
  constructor
  · intro h
    cases o with
    | ok a => cases h
    | error j =>
      cases j with
      | returning a => cases h; simp
      | failing cause => cases h; simp
      | breaking target => by_cases ht : target = id <;> simp [roundEnd, ht] at h; simp [← h, ht]
      | continuing target => by_cases ht : target = id <;> simp [roundEnd, ht] at h; simp [← h, ht]
  · rintro ⟨rfl, hbreak, hcontinue⟩
    cases i with
    | returning a => rfl
    | failing cause => rfl
    | breaking target => simp_all [roundEnd]
    | continuing target => simp_all [roundEnd]

/-! ### Meanings -/

section Meanings

variable {program : Program} {operators : OperatorTable} {id : LoopId} {q : Node}
  {body : Option Node} {f f' : Frame} {o : Outcome} {k d : Nat}

/-- A loop that checks first is its condition, and then the loop that checks last. -/
theorem evaluates_whileLoop_iff :
    Evaluates program operators (.node (.whileLoop id q body)) f o f' k d ↔
      ∃ oq f₁ kq dq, Evaluates program operators (.node q) f oq f₁ kq dq ∧
        ((oq = .ok (.bool false) ∧ o = .ok .unit ∧ f' = f₁ ∧ k = kq + 1 ∧ d = dq + 1) ∨
          (oq = .ok (.bool true) ∧ ∃ k' d',
            Evaluates program operators (.node (.doWhile id body q)) f₁ o f' k' d' ∧
              k = kq + k' ∧ d = max (dq + 1) d') ∨
          ∃ i, truth oq = .error i ∧ o = .error i ∧ f' = f₁ ∧ k = kq + 1 ∧ d = dq + 1) := by
  constructor
  · intro hwhile
    obtain ⟨h⟩ := evaluates_node_iff.1 hwhile
    cases h with
    | preTest h =>
      cases h with
      | test_holds hq ht hr =>
        refine ⟨_, _, _, _, hq, .inr (.inl ⟨truth_eq_ok_iff.1 ht, _, _, .node (.postTest hr), ?_⟩)⟩
        omega
      | test_fails hq ht => exact ⟨_, _, _, _, hq, .inl ⟨truth_eq_ok_iff.1 ht, rfl, rfl, rfl, rfl⟩⟩
      | test_interrupted hq ht => exact ⟨_, _, _, _, hq, .inr (.inr ⟨_, ht, rfl, rfl, rfl, rfl⟩)⟩
  · rintro ⟨oq, f₁, kq, dq, hq, ⟨rfl, rfl, rfl, rfl, rfl⟩ | ⟨rfl, k', d', hdo, rfl, rfl⟩ |
      ⟨i, ht, rfl, rfl, rfl, rfl⟩⟩
    · exact .node (.preTest (.test_fails hq rfl))
    · -- The node that is taken off the one loop is put on the other.
      obtain ⟨h⟩ := evaluates_node_iff.1 hdo
      cases h with
      | postTest hr =>
        rw [← Nat.add_assoc, Nat.add_max_add_right]
        exact .node (.preTest (.test_holds hq rfl hr))
    · exact .node (.preTest (.test_interrupted hq ht))

/-- A loop that checks last is its body, and then the loop that checks first. -/
theorem evaluates_doWhile_iff :
    Evaluates program operators (.node (.doWhile id body q)) f o f' k d ↔
      ∃ ob f₁ kb db, Evaluates program operators (.optional body) f ob f₁ kb db ∧
        ((((∃ a, ob = .ok a) ∨ ob = .error (.continuing id)) ∧ ∃ k' d',
            Evaluates program operators (.node (.whileLoop id q body)) f₁ o f' k' d' ∧
              k = kb + k' ∧ d = max (db + 1) d') ∨
          (ob = .error (.breaking id) ∧ o = .ok .unit ∧ f' = f₁ ∧ k = kb + 1 ∧ d = db + 1) ∨
          ∃ i, (ob = .error i ∧ i ≠ .breaking id ∧ i ≠ .continuing id) ∧ o = .error i ∧
            f' = f₁ ∧ k = kb + 1 ∧ d = db + 1) := by
  constructor
  · intro hdo
    obtain ⟨h⟩ := evaluates_node_iff.1 hdo
    cases h with
    | postTest h =>
      cases h with
      | rounds_goOn hb hr ht =>
        refine ⟨_, _, _, _, hb, .inl ⟨roundEnd_eq_true_iff.1 hr, _, _, .node (.preTest ht), ?_⟩⟩
        omega
      | rounds_left hb hr =>
        exact ⟨_, _, _, _, hb, .inr (.inl ⟨roundEnd_eq_false_iff.1 hr, rfl, rfl, rfl, rfl⟩)⟩
      | rounds_interrupted hb hr =>
        exact ⟨_, _, _, _, hb, .inr (.inr ⟨_, roundEnd_eq_error_iff.1 hr, rfl, rfl, rfl, rfl⟩)⟩
  · rintro ⟨ob, f₁, kb, db, hb, ⟨hob, k', d', hwhile, rfl, rfl⟩ | ⟨hob, rfl, rfl, rfl, rfl⟩ |
      ⟨i, hob, rfl, rfl, rfl, rfl⟩⟩
    · obtain ⟨h⟩ := evaluates_node_iff.1 hwhile
      cases h with
      | preTest ht =>
        rw [← Nat.add_assoc, Nat.add_max_add_right]
        exact .node (.postTest (.rounds_goOn hb (roundEnd_eq_true_iff.2 hob) ht))
    · exact .node (.postTest (.rounds_left hb (roundEnd_eq_false_iff.2 hob)))
    · exact .node (.postTest (.rounds_interrupted hb (roundEnd_eq_error_iff.2 hob)))

/-- An absent body is the unit value at no cost. -/
theorem evaluates_absent_iff :
    Evaluates program operators (.optional none) f o f' k d ↔
      o = .ok .unit ∧ f' = f ∧ k = 0 ∧ d = 0 := by
  constructor
  · intro h
    cases h
    exact ⟨rfl, rfl, rfl, rfl⟩
  · rintro ⟨rfl, rfl, rfl, rfl⟩
    exact .absent

end Meanings

/-! ### Runs -/

/-- A budget of which a step and then `k` more are spent is one of which `k` are spent and
then a step. -/
theorem Budget.Leads.exists_step_back {b c : Budget} (hb : 0 < b.remaining)
    (h : (b.spend 1).Leads c) :
    ∃ k < b.remaining, c = b.spend (k + 1) ∧ 0 < (b.spend k).remaining ∧
      c = (b.spend k).spend 1 := by
  have hle := h.remaining_le
  rw [Budget.remaining_spend] at hle
  have hc : c = b.spend (b.remaining - 1 - c.remaining + 1) := by
    refine Budget.ext h.limit_eq ?_
    rw [Budget.remaining_spend]
    omega
  refine ⟨b.remaining - 1 - c.remaining, by omega, hc, ?_, ?_⟩
  · rw [Budget.remaining_spend]
    omega
  · rwa [Budget.spend_spend]

/-- What follows a body. -/
theorem evalRound_apply (eval : Node → Run Value) (id : LoopId) (q : Node) (body : Option Node)
    (again : Run Value) (s : State) :
    evalRound eval id q body again s =
      match roundEnd id (outcome (evalOptional eval body s)) with
      | .ok true => evalTest eval q again (final (evalOptional eval body s))
      | .ok false => .ok .unit (final (evalOptional eval body s))
      | .error i => .error i (final (evalOptional eval body s)) := by
  rw [evalRound_eq, bind_apply, interceptJump_apply]
  rcases roundEnd id (outcome (evalOptional eval body s)) with i | _ | _ <;> rfl

section Runs

variable {context : Context} {depth : Nat} (id : LoopId) (q : Node) (body : Option Node)
  {b : Budget} (hb : 0 < b.remaining) (hd : depth < context.limits.maxDepth) (f : Frame)

include hb hd

/-- A loop that checks first, once it is started, comes to its condition. -/
theorem evaluate_whileLoop :
    evaluate context depth (.whileLoop id q body) ⟨b, f⟩ =
      evalTest (evaluate context (depth + 1)) q (evaluateRounds context (depth + 1) id q body)
        ⟨b.spend 1, f⟩ := by
  rw [evaluate_eq_evalForm (s := ⟨b, f⟩) _ hb hd, ← evaluateForm_preTest]
  rfl

/-- A loop that checks last, once it is started, comes to its rounds. -/
theorem evaluate_doWhile :
    evaluate context depth (.doWhile id body q) ⟨b, f⟩ =
      evaluateRounds context (depth + 1) id q body ⟨b.spend 1, f⟩ :=
  evaluate_eq_evalForm (s := ⟨b, f⟩) _ hb hd

/-- A loop that checks first, unrolled.  The loop that checks last starts from where the
condition has ended, with the step that started the first loop given back. -/
theorem evaluate_whileLoop_unrolled :
    let r := evaluate context (depth + 1) q ⟨b.spend 1, f⟩
    let run := evaluate context depth (.whileLoop id q body) ⟨b, f⟩
    (outcome r = .ok (.bool false) → run = .ok .unit (final r)) ∧
      (outcome r = .ok (.bool true) → ∃ k < b.remaining, (final r).budget = b.spend (k + 1) ∧
        run = evaluate context depth (.doWhile id body q) ⟨b.spend k, (final r).frame⟩) ∧
      ∀ i, truth (outcome r) = .error i → run = .error i (final r) := by
  intro r run
  have hrun : run = _ := (evaluate_whileLoop id q body hb hd f).trans (evalTest_apply ..)
  have hleads : (b.spend 1).Leads (final r).budget :=
    spends_evaluate context (depth + 1) q ⟨b.spend 1, f⟩
  refine ⟨fun h => ?_, fun h => ?_, fun i h => ?_⟩
  · rw [hrun, truth_eq_ok_iff.2 h]
  · obtain ⟨k, hk, hspent, hpos, hback⟩ := hleads.exists_step_back hb
    refine ⟨k, hk, hspent, ?_⟩
    rw [hrun, truth_eq_ok_iff.2 h, evaluate_doWhile id q body hpos hd, ← hback]
  · rw [hrun, h]

/-- A loop that checks last, unrolled. -/
theorem evaluate_doWhile_unrolled :
    let r := evalOptional (evaluate context (depth + 1)) body ⟨b.spend 1, f⟩
    let run := evaluate context depth (.doWhile id body q) ⟨b, f⟩
    ((∃ a, outcome r = .ok a) ∨ outcome r = .error (.continuing id) →
        ∃ k < b.remaining, (final r).budget = b.spend (k + 1) ∧
          run = evaluate context depth (.whileLoop id q body) ⟨b.spend k, (final r).frame⟩) ∧
      (outcome r = .error (.breaking id) → run = .ok .unit (final r)) ∧
      ∀ i, outcome r = .error i → i ≠ .breaking id → i ≠ .continuing id →
        run = .error i (final r) := by
  intro r run
  have hrun : run = _ := ((evaluate_doWhile id q body hb hd f).trans (evaluateRounds_eq ..)).trans
    (evalRound_apply ..)
  have hleads : (b.spend 1).Leads (final r).budget :=
    spends_evalOptional (spends_evaluate context (depth + 1)) body ⟨b.spend 1, f⟩
  refine ⟨fun h => ?_, fun h => ?_, fun i h hbreak hcontinue => ?_⟩
  · obtain ⟨k, hk, hspent, hpos, hback⟩ := hleads.exists_step_back hb
    refine ⟨k, hk, hspent, ?_⟩
    rw [hrun, roundEnd_eq_true_iff.2 h, evaluate_whileLoop id q body hpos hd, ← hback]
  · rw [hrun, roundEnd_eq_false_iff.2 h]
  · rw [hrun, roundEnd_eq_error_iff.2 ⟨h, hbreak, hcontinue⟩]

end Runs

/-! ### Unrolling -/

/-- **The two kinds of loop are each other's unrollings.**  A loop that checks first is its
condition; then, if it holds, the loop that checks last from there; if it fails, the unit
value; and if it is interrupted, that interrupt, also if it names the loop.  A loop that
checks last is its body; then, after a value or a jump to the next round, the loop that
checks first from there; after a jump past the end, the unit value; and after any other
interrupt, that interrupt.  The steps add up, and the nesting is that of the deeper half.
The same holds of runs within limits, kept or not. -/
theorem loop_unrolling (program : Program) (operators : OperatorTable) (id : LoopId) (q : Node)
    (body : Option Node) (f : Frame) :
    (∀ o f' k d, Evaluates program operators (.node (.whileLoop id q body)) f o f' k d ↔
      ∃ oq f₁ kq dq, Evaluates program operators (.node q) f oq f₁ kq dq ∧
        ((oq = .ok (.bool false) ∧ o = .ok .unit ∧ f' = f₁ ∧ k = kq + 1 ∧ d = dq + 1) ∨
          (oq = .ok (.bool true) ∧ ∃ k' d',
            Evaluates program operators (.node (.doWhile id body q)) f₁ o f' k' d' ∧
              k = kq + k' ∧ d = max (dq + 1) d') ∨
          ∃ i, truth oq = .error i ∧ o = .error i ∧ f' = f₁ ∧ k = kq + 1 ∧ d = dq + 1)) ∧
    (∀ o f' k d, Evaluates program operators (.node (.doWhile id body q)) f o f' k d ↔
      ∃ ob f₁ kb db, Evaluates program operators (.optional body) f ob f₁ kb db ∧
        ((((∃ a, ob = .ok a) ∨ ob = .error (.continuing id)) ∧ ∃ k' d',
            Evaluates program operators (.node (.whileLoop id q body)) f₁ o f' k' d' ∧
              k = kb + k' ∧ d = max (db + 1) d') ∨
          (ob = .error (.breaking id) ∧ o = .ok .unit ∧ f' = f₁ ∧ k = kb + 1 ∧ d = db + 1) ∨
          ∃ i, (ob = .error i ∧ i ≠ .breaking id ∧ i ≠ .continuing id) ∧ o = .error i ∧
            f' = f₁ ∧ k = kb + 1 ∧ d = db + 1)) ∧
    (∀ o f' k d, Evaluates program operators (.optional none) f o f' k d ↔
      o = .ok .unit ∧ f' = f ∧ k = 0 ∧ d = 0) ∧
    ∀ (limits : Limits) (depth : Nat) (b : Budget), 0 < b.remaining → depth < limits.maxDepth →
      let part := evaluate ⟨limits, program, operators⟩ (depth + 1)
      let whileRun := fun b f =>
        evaluate ⟨limits, program, operators⟩ depth (.whileLoop id q body) ⟨b, f⟩
      let doRun := fun b f =>
        evaluate ⟨limits, program, operators⟩ depth (.doWhile id body q) ⟨b, f⟩
      let rq := part q ⟨b.spend 1, f⟩
      let rb := evalOptional part body ⟨b.spend 1, f⟩
      ((outcome rq = .ok (.bool false) → whileRun b f = .ok .unit (final rq)) ∧
        (outcome rq = .ok (.bool true) → ∃ k < b.remaining, (final rq).budget = b.spend (k + 1) ∧
          whileRun b f = doRun (b.spend k) (final rq).frame) ∧
        ∀ i, truth (outcome rq) = .error i → whileRun b f = .error i (final rq)) ∧
      ((∃ a, outcome rb = .ok a) ∨ outcome rb = .error (.continuing id) →
          ∃ k < b.remaining, (final rb).budget = b.spend (k + 1) ∧
            doRun b f = whileRun (b.spend k) (final rb).frame) ∧
        (outcome rb = .error (.breaking id) → doRun b f = .ok .unit (final rb)) ∧
        ∀ i, outcome rb = .error i → i ≠ .breaking id → i ≠ .continuing id →
          doRun b f = .error i (final rb) := by
  refine ⟨?_, ?_, ?_, fun limits depth b hb hd => ⟨?_, ?_⟩⟩
  · exact fun _ _ _ _ => evaluates_whileLoop_iff
  · exact fun _ _ _ _ => evaluates_doWhile_iff
  · exact fun _ _ _ _ => evaluates_absent_iff
  · exact evaluate_whileLoop_unrolled id q body hb hd f
  · exact evaluate_doWhile_unrolled id q body hb hd f

/-- A jump to the next round comes to the condition, and one that leaves the condition passes
although it names the loop. -/
example :
    (foldCounted ⟨⟨20, 10⟩, .empty, .reserved⟩
        (.doWhile ⟨0⟩ (some (.continueTo ⟨0⟩)) (.breakTo ⟨0⟩))) =
      (.error (.unsupported "control transfer outside of a function"), 3) := by
  decide +kernel

end ConstFold
