import ConstFold.Proofs.Lockstep
import ConstFold.Proofs.Realization
import ConstFold.Proofs.Semantics

/-!
# The evaluator does what nodes mean

Within limits the evaluator realizes the meaning of nodes: it gives the outcome and the
frame that are meant whenever the steps left and the levels left suffice, and fails for
want of one of them otherwise.  The proof follows the evaluator, not the derivations:
each form of node is put together from its parts in the same way on both sides.

That meanings are unique comes out of this, since the evaluator is a function.

## Main results

* `realizes_evalNode` — **the evaluator realizes the meaning of every node.**
* `Evaluates.unique` — outcome, frame, steps and nesting are determined.
* `evaluate_adequate` — both, for a node in any frame and within any limits.
-/

namespace ConstFold

open Run

/-! ### Meanings of forms in terms of their parts -/

section Inversion

variable {program : Program} {operators : OperatorTable} {f f' : Frame} {o : Outcome} {k d : Nat}

theorem evaluates_node_iff {n : Node} :
    Evaluates program operators (.node n) f o f' k d ↔
      Meaning.Entered (Evaluates program operators (.form n)) f o f' k d := by
  constructor
  · intro h
    cases h with
    | node h => exact .intro h
  · intro h
    cases h with
    | intro h => exact .node h

theorem evaluates_set_iff {v : VariableId} {n : Node} :
    Evaluates program operators (.form (.set v n)) f o f' k d ↔
      Meaning.Bind (Evaluates program operators (.node n))
        (fun a => .Instant fun f => (.ok .unit, f.insert v a)) f o f' k d := by
  refine Meaning.iff_bind_instant .set .set_interrupted fun h => ?_
  cases h with
  | set h => exact .value_instant h
  | set_interrupted h => exact .interrupted h

theorem evaluates_declare_iff {v : VariableId} {n : Node} :
    Evaluates program operators (.form (.declare v (some n))) f o f' k d ↔
      Meaning.Bind (Evaluates program operators (.node n))
        (fun a => .Instant fun f => (.ok .unit, f.insert v a)) f o f' k d := by
  refine Meaning.iff_bind_instant .declare .declare_interrupted fun h => ?_
  cases h with
  | declare h => exact .value_instant h
  | declare_interrupted h => exact .interrupted h

theorem evaluates_coercion_iff {n : Node} :
    Evaluates program operators (.form (.typeOperation .coercionToUnit n)) f o f' k d ↔
      Meaning.Bind (Evaluates program operators (.node n))
        (fun _ => .Instant fun f => (.ok .unit, f)) f o f' k d := by
  refine Meaning.iff_bind_instant .coercion .coercion_interrupted fun h => ?_
  cases h with
  | coercion h => exact .value_instant h
  | coercion_interrupted h => exact .interrupted h
  | typeOperation h => exact absurd rfl h

theorem evaluates_ret_iff {part : Option Node} :
    Evaluates program operators (.form (.ret part)) f o f' k d ↔
      Meaning.Bind (Evaluates program operators (.optional part))
        (fun a => .Instant fun f => (.error (.returning a), f)) f o f' k d := by
  refine Meaning.iff_bind_instant .ret .ret_interrupted fun h => ?_
  cases h with
  | ret h => exact .value_instant h
  | ret_interrupted h => exact .interrupted h

theorem evaluates_statements_cons_iff {last : Value} {n : Node} {ns : List Node} :
    Evaluates program operators (.statements last (n :: ns)) f o f' k d ↔
      Meaning.Bind (Evaluates program operators (.node n))
        (fun a => Evaluates program operators (.statements a ns)) f o f' k d := by
  refine Meaning.iff_bind .statements_cons .statements_interrupted fun h => ?_
  cases h with
  | statements_cons h hrest => exact .value h hrest rfl rfl
  | statements_interrupted h => exact .interrupted h

theorem evaluates_operands_cons_iff {c : Combinator} {done : List Value} {n : Node}
    {ns : List Node} :
    Evaluates program operators (.operands c done (n :: ns)) f o f' k d ↔
      Meaning.Bind (Evaluates program operators (.node n))
        (fun a => Evaluates program operators (.operands c (done ++ [a]) ns)) f o f' k d := by
  refine Meaning.iff_bind .operands_cons .operands_interrupted fun h => ?_
  cases h with
  | operands_cons h hrest => exact .value h hrest rfl rfl
  | operands_interrupted h => exact .interrupted h

theorem evaluates_slots_cons_iff {callee : SymbolId} {locals : Frame} {v : VariableId} {n : Node}
    {rest : List (VariableId × Node)} {body : Body} :
    Evaluates program operators (.slots callee locals ((v, n) :: rest) body) f o f' k d ↔
      Meaning.Bind (Evaluates program operators (.node n))
        (fun a => Evaluates program operators (.slots callee (locals.insert v a) rest body))
        f o f' k d := by
  refine Meaning.iff_bind .slots_cons .slots_interrupted fun h => ?_
  cases h with
  | slots_cons h hrest => exact .value h hrest rfl rfl
  | slots_interrupted h => exact .interrupted h

theorem evaluates_slots_nil_iff {callee : SymbolId} {locals : Frame} {body : Body} :
    Evaluates program operators (.slots callee locals [] body) f o f' k d ↔
      Meaning.Mapped (settled callee)
        (.Framed locals (Evaluates program operators body.task)) f o f' k d := by
  constructor
  · intro h
    cases h with
    | slots_nil h => exact .intro (.intro h) rfl
  · intro h
    cases h with
    | intro h ho =>
      cases h with
      | intro h =>
        rw [← ho]
        exact .slots_nil h

/-- The meaning of what ends with the unit value at once. -/
abbrev Meaning.unit : Meaning Value := .Instant fun f => (.ok .unit, f)

theorem evaluates_branches_cons_iff {q r : Node} {bs : List (Node × Node)} :
    Evaluates program operators (.branches ((q, r) :: bs)) f o f' k d ↔
      Meaning.Bind (.Mapped truth (Evaluates program operators (.node q)))
        (fun holds => if holds then Evaluates program operators (.node r)
          else Evaluates program operators (.branches bs)) f o f' k d := by
  refine Meaning.iff_bind ?_ ?_ ?_
  · intro holds f f₁ o f' k₁ k₂ d₁ d₂ hq hafter
    cases hq with
    | intro hq ht =>
      cases holds with
      | true => exact .branches_taken hq ht hafter
      | false => exact .branches_passed hq ht hafter
  · intro i f f' k d hq
    cases hq with
    | intro hq ht => exact .branches_interrupted hq ht
  · intro f o f' k d h
    cases h with
    | branches_taken hq ht hr => exact .value (.intro hq ht) hr rfl rfl
    | branches_passed hq ht hrest => exact .value (.intro hq ht) hrest rfl rfl
    | branches_interrupted hq ht => exact .interrupted (.intro hq ht)

theorem evaluates_test_iff {id : LoopId} {q : Node} {b : Option Node} :
    Evaluates program operators (.test id q b) f o f' k d ↔
      Meaning.Bind (.Mapped truth (Evaluates program operators (.node q)))
        (fun holds => if holds then Evaluates program operators (.rounds id q b)
          else .unit) f o f' k d := by
  refine Meaning.iff_bind ?_ ?_ ?_
  · intro holds f f₁ o f' k₁ k₂ d₁ d₂ hq hafter
    cases hq with
    | intro hq ht =>
      cases holds with
      | true => exact .test_holds hq ht hafter
      | false =>
        cases hafter with
        | intro =>
          rw [Nat.add_zero, Nat.max_zero]
          exact .test_fails hq ht
  · intro i f f' k d hq
    cases hq with
    | intro hq ht => exact .test_interrupted hq ht
  · intro f o f' k d h
    cases h with
    | test_holds hq ht hr => exact .value (.intro hq ht) hr rfl rfl
    | test_fails hq ht => exact .value (.intro hq ht) (.intro f') rfl (Nat.max_zero d).symm
    | test_interrupted hq ht => exact .interrupted (.intro hq ht)

theorem evaluates_rounds_iff {id : LoopId} {q : Node} {b : Option Node} :
    Evaluates program operators (.rounds id q b) f o f' k d ↔
      Meaning.Bind (.Mapped (roundEnd id) (Evaluates program operators (.optional b)))
        (fun goesOn => if goesOn then Evaluates program operators (.test id q b)
          else .unit) f o f' k d := by
  refine Meaning.iff_bind ?_ ?_ ?_
  · intro goesOn f f₁ o f' k₁ k₂ d₁ d₂ hb hafter
    cases hb with
    | intro hb hr =>
      cases goesOn with
      | true => exact .rounds_goOn hb hr hafter
      | false =>
        cases hafter with
        | intro =>
          rw [Nat.add_zero, Nat.max_zero]
          exact .rounds_left hb hr
  · intro i f f' k d hb
    cases hb with
    | intro hb hr => exact .rounds_interrupted hb hr
  · intro f o f' k d h
    cases h with
    | rounds_goOn hb hr ht => exact .value (.intro hb hr) ht rfl rfl
    | rounds_left hb hr => exact .value (.intro hb hr) (.intro f') rfl (Nat.max_zero d).symm
    | rounds_interrupted hb hr => exact .interrupted (.intro hb hr)

/-- What a call means once it is resolved. -/
def Meaning.call (program : Program) (operators : OperatorTable) (callee : SymbolId) :
    Except Failure Resolved → Meaning Value
  | .error cause => .Instant fun f => (.error (.failing cause), f)
  | .ok (.inlined slots body) => Evaluates program operators (.slots callee .empty slots body)
  | .ok (.strict combinator slots) => Evaluates program operators (.operands combinator [] slots)
  | .ok (.shortCircuit decides combine left right) =>
      .Bind (.Mapped truth (Evaluates program operators (.node left))) fun p =>
        if decides p then .Instant fun f => (.ok (.bool p), f)
        else .Mapped (fun o => (truth o).map fun q => .bool (combine p q))
          (Evaluates program operators (.node right))

/-- What a lazy operator means is what its rules say. -/
theorem Evaluates.of_shortCircuit {callee : SymbolId} {as : List (Option Node)}
    {decides : Bool → Bool} {combine : Bool → Bool → Bool} {left right : Node}
    (hr : resolve program operators callee as = .ok (.shortCircuit decides combine left right))
    (h : Meaning.call program operators callee (.ok (.shortCircuit decides combine left right))
      f o f' k d) :
    Evaluates program operators (.form (.call callee as)) f o f' k d := by
  cases h with
  | @value p _ _ _ _ _ _ _ _ _ _ hl hafter hk hd =>
    obtain ⟨hl, ht⟩ := hl
    rw [hk, hd]
    cases hp : decides p with
    | true =>
      rw [if_pos hp] at hafter
      cases hafter with
      | intro =>
        rw [Nat.add_zero, Nat.max_zero]
        exact .call_decided hr hl ht hp
    | false =>
      rw [if_neg (Bool.eq_false_iff.1 hp)] at hafter
      obtain ⟨hq, ho⟩ := hafter
      rw [← ho]
      exact .call_undecided hr hl ht hp hq
  | interrupted hl =>
    obtain ⟨hl, ht⟩ := hl
    exact .call_interrupted hr hl ht

theorem evaluates_call_iff {callee : SymbolId} {as : List (Option Node)} :
    Evaluates program operators (.form (.call callee as)) f o f' k d ↔
      Meaning.call program operators callee (resolve program operators callee as) f o f' k d := by
  constructor
  · intro h
    cases h with
    | call_unresolved hr =>
      rw [hr]
      exact .intro f
    | call_inlined hr h =>
      rw [hr]
      exact h
    | call_strict hr h =>
      rw [hr]
      exact h
    | call_decided hr hl ht hp =>
      rw [hr]
      refine .value (.intro hl ht) ?_ (Nat.add_zero k).symm (Nat.max_zero d).symm
      rw [if_pos hp]
      exact .intro f'
    | call_undecided hr hl ht hp hq =>
      rw [hr]
      refine .value (.intro hl ht) ?_ rfl rfl
      rw [if_neg (Bool.eq_false_iff.1 hp)]
      exact .intro hq rfl
    | call_interrupted hr hl ht =>
      rw [hr]
      exact .interrupted (.intro hl ht)
  · intro h
    cases hr : resolve program operators callee as with
    | error cause =>
      rw [hr] at h
      cases h with
      | intro => exact .call_unresolved hr
    | ok resolved =>
      rw [hr] at h
      cases resolved with
      | inlined slots body => exact .call_inlined hr h
      | strict combinator slots => exact .call_strict hr h
      | shortCircuit decides combine left right => exact .of_shortCircuit hr h

end Inversion

/-! ### Runs of forms -/

section Forms

variable {context : Context} {eval : Node → Run Value} {m room : Nat}
  (hparts : ∀ n, Realizes m room (eval n)
    (Evaluates context.program context.operators (.node n)))

include hparts

theorem realizes_evalCondition (q : Node) :
    Realizes m room (evalCondition eval q)
      (.Mapped truth (Evaluates context.program context.operators (.node q))) :=
  (hparts q).mapped (evalCondition_apply eval q) fun _ => resourceEnd_truth

theorem realizes_evalOptional (part : Option Node) :
    Realizes m room (evalOptional eval part)
      (Evaluates context.program context.operators (.optional part)) := by
  cases part with
  | none =>
    refine .of_instant (φ := fun f => (.ok .unit, f)) (fun _ => rfl) (fun _ => .absent) fun h => ?_
    cases h
    exact .intro _
  | some n =>
    refine (hparts n).of_iff fun {f o f' k d} => ⟨fun h => ?_, .present⟩
    cases h with
    | present h => exact h

theorem realizes_evalSequence (last : Value) (ns : List Node) :
    Realizes m room (evalSequence eval last ns)
      (Evaluates context.program context.operators (.statements last ns)) := by
  induction ns generalizing last with
  | nil =>
    refine .of_instant (φ := fun f => (.ok last, f)) (fun _ => rfl) (fun _ => .statements_nil)
      fun h => ?_
    cases h
    exact .intro _
  | cons n ns ih => exact ((hparts n).bind ih).of_iff evaluates_statements_cons_iff

theorem realizes_evalBranches (bs : List (Node × Node)) :
    Realizes m room (evalBranches eval bs)
      (Evaluates context.program context.operators (.branches bs)) := by
  induction bs with
  | nil =>
    refine .of_instant (φ := fun f => (.ok .unit, f)) (fun _ => rfl) (fun _ => .branches_nil)
      fun h => ?_
    cases h
    exact .intro _
  | cons b bs ih =>
    obtain ⟨q, r⟩ := b
    refine Realizes.of_iff ?_ evaluates_branches_cons_iff
    refine (realizes_evalCondition hparts q).bind fun holds => ?_
    cases holds with
    | true => exact hparts r
    | false => exact ih

/-- Operands are collected in a list on one side and one by one on the other. -/
theorem realizes_operands (c : Combinator) (done : List Value) (ns : List Node) :
    Realizes m room (evalAll eval ns >>= fun values => ofExcept (c.apply (done ++ values)))
      (Evaluates context.program context.operators (.operands c done ns)) := by
  induction ns generalizing done with
  | nil =>
    rw [evalAll_nil, pure_bind, List.append_nil]
    refine .of_instant (φ := fun f => (plain (c.apply done), f))
      (fun s => ofExcept_apply (c.apply done) s) (fun _ => .operands_nil) fun h => ?_
    cases h
    exact .intro _
  | cons n ns ih =>
    refine Realizes.of_iff ?_ evaluates_operands_cons_iff
    rw [evalAll_cons, bind_assoc]
    refine (hparts n).bind fun a => ?_
    -- The value goes to the end of those that are done, or to the front of the rest.
    have hrest := ih (done ++ [a])
    simp only [List.append_assoc, List.singleton_append] at hrest
    rw [bind_assoc]
    simp only [pure_bind]
    exact hrest

theorem realizes_evalBody (body : Body) :
    Realizes m room (evalBody eval body)
      (Evaluates context.program context.operators body.task) := by
  cases body with
  | block statements => exact realizes_evalSequence hparts .unit statements
  | expression node => exact hparts node

theorem realizes_slots (callee : SymbolId) (locals : Frame) (slots : List (VariableId × Node))
    (body : Body) :
    Realizes m room (evalSlots eval locals slots >>= fun frame =>
        settle callee (inFrame frame (evalBody eval body)))
      (Evaluates context.program context.operators (.slots callee locals slots body)) := by
  induction slots generalizing locals with
  | nil =>
    rw [evalSlots_nil, pure_bind]
    refine Realizes.of_iff ?_ evaluates_slots_nil_iff
    exact ((realizes_evalBody hparts body).framed locals).mapped (settle_apply callee _)
      fun _ => resourceEnd_settled callee
  | cons slot rest ih =>
    obtain ⟨v, n⟩ := slot
    refine Realizes.of_iff ?_ evaluates_slots_cons_iff
    rw [evalSlots_cons, bind_assoc]
    exact (hparts n).bind fun a => ih (locals.insert v a)

theorem realizes_call (fuel : Nat) (callee : SymbolId) (as : List (Option Node)) :
    Realizes m room (evalForm context eval fuel (.call callee as))
      (Evaluates context.program context.operators (.form (.call callee as))) := by
  refine Realizes.of_iff ?_ evaluates_call_iff
  show Realizes m room (ofExcept (resolve context.program context.operators callee as) >>=
    evalResolved eval callee) _
  cases resolve context.program context.operators callee as with
  | error cause => exact .instant fun _ => rfl
  | ok resolved =>
    rw [ofExcept_ok, pure_bind]
    cases resolved with
    | inlined slots body => exact realizes_slots hparts callee .empty slots body
    | strict combinator slots => exact realizes_operands hparts combinator [] slots
    | shortCircuit decides combine left right =>
      -- The right operand takes part only if the left one leaves the result open.
      refine (realizes_evalCondition hparts left).bind fun p => ?_
      cases decides p with
      | true => exact .instant fun _ => rfl
      | false =>
        refine (hparts right).mapped (fun s => ?_) fun _ => resourceEnd_map.trans resourceEnd_truth
        show (evalCondition eval right >>= fun q => pure (Value.bool (combine p q))) s = _
        rw [bind_apply, evalCondition_apply]
        cases truth (outcome (eval right s)) <;> rfl

theorem realizes_evalRound (hmetered : Metered eval) (id : LoopId) (q : Node) (b : Option Node)
    {again : Run Value} (hagain : ∀ j, j < m → Realizes j room again
      (Evaluates context.program context.operators (.rounds id q b))) :
    Realizes m room (evalRound eval id q b again)
      (Evaluates context.program context.operators (.rounds id q b)) := by
  have hbody := (realizes_evalOptional hparts b).mapped (interceptJump_apply id _)
    fun _ => resourceEnd_roundEnd id
  refine Realizes.of_iff (hbody.bind fun goesOn => ?_) evaluates_rounds_iff
  cases goesOn with
  | false => exact .instant fun _ => rfl
  | true =>
    refine Realizes.of_iff ?_ evaluates_test_iff
    refine (realizes_evalCondition hparts q).bind_advancing (hmetered.advances_evalCondition q)
      fun holds j hj => ?_
    cases holds with
    | true => exact hagain j hj
    | false => exact .instant fun _ => rfl

/-- A loop realizes its rounds.  Its fuel is at least the steps left, and a round that is
followed by another takes a step, so that the induction is on the fuel. -/
theorem realizes_evalRounds (hmetered : Metered eval) (id : LoopId) (q : Node) (b : Option Node)
    (fuel : Nat) (hfuel : fuel ≤ m) :
    Realizes fuel room (evalRounds eval id q b fuel)
      (Evaluates context.program context.operators (.rounds id q b)) := by
  induction fuel using Nat.strongRecOn with
  | _ fuel ih =>
    refine Realizes.of_eq ?_ fun s hs => evalRounds_eq_evalRound hmetered id q b hs
    have hless : ∀ n, Realizes fuel room (eval n) _ := fun n => (hparts n).anti hfuel
    refine realizes_evalRound hless hmetered id q b fun j hj => ?_
    exact (ih (fuel - 1) (by omega) (by omega)).anti (by omega)

theorem realizes_evalForm (hmetered : Metered eval) (n : Node) :
    Realizes m room (evalForm context eval m n)
      (Evaluates context.program context.operators (.form n)) := by
  cases n with
  | const c =>
    refine .of_instant (φ := fun f => (plain c.value, f)) (fun s => ofExcept_apply c.value s)
      (fun _ => .const) fun h => ?_
    cases h
    exact .intro _
  | get v =>
    refine .of_instant (φ := fun f => (plain (f.read v), f))
      (fun s => ofExcept_apply (s.frame.read v) s) (fun _ => .get) fun h => ?_
    cases h
    exact .intro _
  | set v n =>
    refine Realizes.of_iff ?_ evaluates_set_iff
    exact (hparts n).bind fun a => .instant fun _ => rfl
  | declare v initializer =>
    cases initializer with
    | none =>
      refine .of_instant (φ := fun f => (.ok .unit, f)) (fun _ => rfl) (fun _ => .declare_only)
        fun h => ?_
      cases h
      exact .intro _
    | some n =>
      refine Realizes.of_iff ?_ evaluates_declare_iff
      exact (hparts n).bind fun a => .instant fun _ => rfl
  | block ns =>
    refine (realizes_evalSequence hparts .unit ns).of_iff ⟨fun h => ?_, .block⟩
    cases h with
    | block h => exact h
  | call callee as => exact realizes_call hparts m callee as
  | ret part =>
    refine Realizes.of_iff ?_ evaluates_ret_iff
    exact (realizes_evalOptional hparts part).bind fun a => .instant fun _ => rfl
  | choose bs =>
    refine (realizes_evalBranches hparts bs).of_iff ⟨fun h => ?_, .choose⟩
    cases h with
    | choose h => exact h
  | loop id kind q b =>
    have hrounds := realizes_evalRounds hparts hmetered id q b m (Nat.le_refl m)
    cases kind with
    | preTest =>
      have htest : Realizes m room (evalTest eval q (evalRounds eval id q b m))
          (Evaluates context.program context.operators (.test id q b)) := by
        refine Realizes.of_iff ?_ evaluates_test_iff
        refine (realizes_evalCondition hparts q).bind fun holds => ?_
        cases holds with
        | true => exact hrounds
        | false => exact .instant fun _ => rfl
      refine htest.of_iff ⟨fun h => ?_, .preTest⟩
      cases h with
      | preTest h => exact h
    | postTest =>
      refine hrounds.of_iff ⟨fun h => ?_, .postTest⟩
      cases h with
      | postTest h => exact h
  | breakTo target =>
    refine .of_instant (φ := fun f => (.error (.breaking target), f)) (fun _ => rfl)
      (fun _ => .breakTo) fun h => ?_
    cases h
    exact .intro _
  | continueTo target =>
    refine .of_instant (φ := fun f => (.error (.continuing target), f)) (fun _ => rfl)
      (fun _ => .continueTo) fun h => ?_
    cases h
    exact .intro _
  | typeOperation operator n =>
    -- All operators but one are refused, before their argument is evaluated.
    by_cases hop : operator = .coercionToUnit
    · subst hop
      refine Realizes.of_iff ?_ evaluates_coercion_iff
      exact (hparts n).bind fun _ => .instant fun _ => rfl
    · have hform : evalForm context eval m (.typeOperation operator n) =
          fail (.unsupported operator.name) := by
        cases operator with
        | coercionToUnit => exact absurd rfl hop
        | _ => rfl
      rw [hform]
      refine .of_instant (φ := fun f => (.error (.failing (.unsupported operator.name)), f))
        (fun _ => rfl) (fun _ => .typeOperation hop) fun h => ?_
      cases h with
      | typeOperation _ => exact .intro _
      | coercion _ => exact absurd rfl hop
      | coercion_interrupted _ => exact absurd rfl hop

end Forms

/-! ### Nodes -/

/-- **The evaluator realizes the meaning of every node.** -/
theorem realizes_evalNode (context : Context) (fuel depth : Nat) (n : Node) :
    Realizes fuel (context.limits.maxDepth - depth) (evalNode context fuel depth n)
      (Evaluates context.program context.operators (.node n)) := by
  induction fuel using Nat.strongRecOn generalizing depth n with
  | _ fuel ih =>
    refine Realizes.of_iff ?_ evaluates_node_iff
    refine Realizes.of_eq ?_ fun s hs => evalNode_eq_enter_bind context depth n hs
    refine realizes_enter_bind fun hfuel _ => ?_
    exact realizes_evalForm (fun p => ih (fuel - 1) (by omega) (depth + 1) p)
      (metered_evalNode context (fuel - 1) (depth + 1)) n

section

variable {program : Program} {operators : OperatorTable} {n : Node} {f : Frame}

/-- A node takes at least one step. -/
theorem Evaluates.steps_pos {f' : Frame} {o : Outcome} {k d : Nat}
    (h : Evaluates program operators (.node n) f o f' k d) : 0 < k := by
  cases h with
  | node h => exact Nat.succ_pos _

/-- A node takes at least one level. -/
theorem Evaluates.nesting_pos {f' : Frame} {o : Outcome} {k d : Nat}
    (h : Evaluates program operators (.node n) f o f' k d) : 0 < d := by
  cases h with
  | node h => exact Nat.succ_pos _

/-- What is meant and fits into the limits is what the evaluator does. -/
theorem Evaluates.evaluate_eq {f' : Frame} {o : Outcome} {k d : Nat}
    (h : Evaluates program operators (.node n) f o f' k d) (limits : Limits) (depth : Nat)
    (b : Budget) (hk : k ≤ b.remaining) (hd : depth + d ≤ limits.maxDepth) :
    evaluate ⟨limits, program, operators⟩ depth n ⟨b, f⟩ = ending o ⟨b.spend k, f'⟩ := by
  have hrealizes := realizes_evalNode ⟨limits, program, operators⟩ b.remaining depth n
  have hroom : d ≤ limits.maxDepth - depth := by omega
  exact hrealizes.complete (s := ⟨b, f⟩) (Nat.le_refl _) h hk hroom

/-- What the evaluator does without running out of a resource is meant and fits. -/
theorem evaluates_of_not_resourceEnd {limits : Limits} {depth : Nat} {b : Budget}
    (hne : ¬ ResourceEnd (outcome (evaluate ⟨limits, program, operators⟩ depth n ⟨b, f⟩))) :
    ∃ o f' k d, Evaluates program operators (.node n) f o f' k d ∧ k ≤ b.remaining ∧
      depth + d ≤ limits.maxDepth := by
  have hrealizes := realizes_evalNode ⟨limits, program, operators⟩ b.remaining depth n
  obtain ⟨k, d, h, hk, hd, -⟩ := hrealizes.sound (s := ⟨b, f⟩) (Nat.le_refl _) hne
  have hpos := h.nesting_pos
  have hroom : d ≤ limits.maxDepth - depth := hd
  exact ⟨_, _, k, d, h, hk, by omega⟩

/-- The nesting is the least limit within which the node can be evaluated. -/
theorem Evaluates.nesting_le {f₁ f₂ : Frame} {o₁ o₂ : Outcome} {k₁ k₂ d₁ d₂ : Nat}
    (h₁ : Evaluates program operators (.node n) f o₁ f₁ k₁ d₁)
    (h₂ : Evaluates program operators (.node n) f o₂ f₂ k₂ d₂) : d₁ ≤ d₂ := by
  by_contra hlt
  -- With `d₂` levels the second fits, and the first, which needs more, does not.
  have hrealizes := realizes_evalNode ⟨⟨k₂, d₂⟩, program, operators⟩ k₂ 0 n
  have heq := hrealizes.complete (s := ⟨.full k₂, f⟩) (Nat.le_refl _) h₂ (Nat.le_refl _)
    (Nat.le_refl _)
  have hres := hrealizes.exceeds (s := ⟨.full k₂, f⟩) (Nat.le_refl _) h₁
    (.inr (Nat.not_le.1 hlt))
  rw [heq, outcome_ending] at hres
  exact h₂.not_resourceEnd trivial hres

/-- Outcome, frame and steps are determined, as they are what the evaluator gives within
limits that are wide enough, and so is the nesting. -/
theorem Evaluates.unique {f₁ f₂ : Frame} {o₁ o₂ : Outcome} {k₁ k₂ d₁ d₂ : Nat}
    (h₁ : Evaluates program operators (.node n) f o₁ f₁ k₁ d₁)
    (h₂ : Evaluates program operators (.node n) f o₂ f₂ k₂ d₂) :
    o₁ = o₂ ∧ f₁ = f₂ ∧ k₁ = k₂ ∧ d₁ = d₂ := by
  have heq₁ := h₁.evaluate_eq ⟨0, max d₁ d₂⟩ 0 (.full (max k₁ k₂)) (Nat.le_max_left _ _)
    (by rw [Nat.zero_add]; exact Nat.le_max_left _ _)
  have heq₂ := h₂.evaluate_eq ⟨0, max d₁ d₂⟩ 0 (.full (max k₁ k₂)) (Nat.le_max_right _ _)
    (by rw [Nat.zero_add]; exact Nat.le_max_right _ _)
  have hsame := heq₁.symm.trans heq₂
  have ho := congrArg outcome hsame
  have hfinal := congrArg final hsame
  rw [outcome_ending, outcome_ending] at ho
  rw [final_ending, final_ending, State.mk.injEq] at hfinal
  have hk := congrArg Budget.remaining hfinal.1
  rw [Budget.remaining_spend, Budget.remaining_spend, Budget.remaining_full] at hk
  exact ⟨ho, hfinal.2, by omega, Nat.le_antisymm (h₁.nesting_le h₂) (h₂.nesting_le h₁)⟩

end

/-- **The evaluator agrees with the meaning of nodes.**  A node in a frame has at most one
evaluation.  Within limits, the evaluator ends otherwise than for want of a resource
if and only if there is one whose steps are left and whose nesting fits, and then it
gives the outcome and the frame of that one and has spent its steps. -/
theorem evaluate_adequate (program : Program) (operators : OperatorTable) (n : Node) (f : Frame) :
    (∀ o₁ o₂ f₁ f₂ k₁ k₂ d₁ d₂, Evaluates program operators (.node n) f o₁ f₁ k₁ d₁ →
      Evaluates program operators (.node n) f o₂ f₂ k₂ d₂ →
      o₁ = o₂ ∧ f₁ = f₂ ∧ k₁ = k₂ ∧ d₁ = d₂) ∧
    ∀ (limits : Limits) (depth : Nat) (b : Budget),
      let r := evaluate ⟨limits, program, operators⟩ depth n ⟨b, f⟩
      (¬ ResourceEnd (outcome r) ↔
        ∃ o f' k d, Evaluates program operators (.node n) f o f' k d ∧ k ≤ b.remaining ∧
          depth + d ≤ limits.maxDepth) ∧
      ∀ o f' k d, Evaluates program operators (.node n) f o f' k d → k ≤ b.remaining →
        depth + d ≤ limits.maxDepth →
        outcome r = o ∧ (final r).frame = f' ∧ (final r).budget.limit = b.limit ∧
          (final r).budget.remaining = b.remaining - k := by
  refine ⟨fun _ _ _ _ _ _ _ _ h₁ h₂ => h₁.unique h₂, fun limits depth b => ⟨⟨?_, ?_⟩, ?_⟩⟩
  · exact evaluates_of_not_resourceEnd
  · rintro ⟨o, f', k, d, h, hk, hd⟩
    rw [h.evaluate_eq limits depth b hk hd, outcome_ending]
    exact h.not_resourceEnd trivial
  · intro o f' k d h hk hd
    rw [h.evaluate_eq limits depth b hk hd, outcome_ending, final_ending]
    exact ⟨rfl, rfl, rfl, rfl⟩

end ConstFold
