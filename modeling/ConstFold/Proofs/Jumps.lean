import ConstFold.Proofs.Adequacy

/-!
# Where returns and jumps come from

A return or jump that leaves a node is written there: in the node itself, and not in the
body of a loop that intercepts it, or in a default of the program.  Defaults count
because they are evaluated in the place of the call; what is written in the body of a
function does not leave the call.

So in a program whose defaults contain no such thing and whose functions are left only by
returns, no function exits abnormally, and a root that nothing leaves is never refused for
a return or jump of its own.

## Main definitions

* `Transfer.Names`, `Node.Intercepts`, `Node.Escapes` — the returns and jumps that can
  leave a node.
* `Program.DefaultEscapes` — those that can leave a default.
* `Task.Escapes` — the same for what is left to do of a node.

## Main results

* `resolve_mem` — the slots of a call are its arguments and defaults.
* `Evaluates.escapes` — **a return or jump that leaves a task is written in it or in a
  default.**
* `Evaluates.plainEnd` — if functions are left only by returns, every failure is plain.
* `evaluate_escapes` — both, of the evaluator.
-/

namespace ConstFold

open Run

/-! ### What can leave a node -/

/-- The jump is one to the loop. -/
def Transfer.Names : Transfer → LoopId → Prop
  | .ret, _ => False
  | .breakTo target, id => target = id
  | .continueTo target, id => target = id

/-- The node is a loop, and the jump out of its body is one to it. -/
def Node.Intercepts : Node → Transfer → Prop
  | .loop id _ _ _, t => t.Names id
  | _, _ => False

/-- The return or jump is written in the node, and nothing around it there intercepts it.
A loop intercepts what its body does, and not what its condition does. -/
inductive Node.Escapes : Node → Transfer → Prop
  | ret (value : Option Node) : Escapes (.ret value) .ret
  | breakTo (target : LoopId) : Escapes (.breakTo target) (.breakTo target)
  | continueTo (target : LoopId) : Escapes (.continueTo target) (.continueTo target)
  | part {n p : Node} {t : Transfer} :
      ¬ n.Intercepts t → p ∈ n.parts → Escapes p t → Escapes n t
  | condition {id : LoopId} {kind : LoopKind} {q : Node} {b : Option Node} {t : Transfer} :
      Escapes q t → Escapes (.loop id kind q b) t

/-- The return or jump can leave a default. -/
def Program.DefaultEscapes (program : Program) (t : Transfer) : Prop :=
  ∃ p, program.HasDefault p ∧ p.Escapes t

/-- The return or jump can leave what is to be done. -/
def Task.Escapes : Task → Transfer → Prop
  | .node n, t => n.Escapes t
  | .form n, t => n.Escapes t
  | .optional part, t => ∃ n ∈ part, n.Escapes t
  | .statements _ rest, t => ∃ n ∈ rest, n.Escapes t
  | .branches rest, t => ∃ b ∈ rest, b.1.Escapes t ∨ b.2.Escapes t
  | .test id q b, t => q.Escapes t ∨ ¬ t.Names id ∧ ∃ n ∈ b, n.Escapes t
  | .rounds id q b, t => q.Escapes t ∨ ¬ t.Names id ∧ ∃ n ∈ b, n.Escapes t
  | .operands _ _ rest, t => ∃ n ∈ rest, n.Escapes t
  | .slots _ _ rest _, t => ∃ slot ∈ rest, slot.2.Escapes t

/-- What leaves a loop leaves its condition, or its body and is no jump to the loop. -/
theorem Node.escapes_loop_iff {id : LoopId} {kind : LoopKind} {q : Node} {b : Option Node}
    {t : Transfer} :
    (Node.loop id kind q b).Escapes t ↔
      q.Escapes t ∨ ¬ t.Names id ∧ ∃ n ∈ b, n.Escapes t := by
  constructor
  · intro h
    cases h with
    | condition hq => exact .inl hq
    | @part _ p _ hnames hp h =>
      rcases List.mem_cons.1 hp with rfl | hp
      · exact .inl h
      · exact .inr ⟨hnames, p, Option.mem_toList.1 hp, h⟩
  · rintro (hq | ⟨hnames, n, hn, h⟩)
    · exact .condition hq
    · exact .part hnames (List.mem_cons_of_mem _ (Option.mem_toList.2 hn)) h

/-- Nothing leaves a constant. -/
theorem Node.not_escapes_const {c : Constant} {t : Transfer} : ¬ (Node.const c).Escapes t := by
  intro h
  cases h with
  | part _ hp _ => cases hp

theorem Node.escapes_choose {bs : List (Node × Node)} {t : Transfer}
    (h : ∃ b ∈ bs, b.1.Escapes t ∨ b.2.Escapes t) : (Node.choose bs).Escapes t := by
  obtain ⟨b, hb, h⟩ := h
  rcases h with h | h
  · exact .part id (List.mem_flatMap.2 ⟨b, hb, by simp⟩) h
  · exact .part id (List.mem_flatMap.2 ⟨b, hb, by simp⟩) h

/-- What leaves the task of a body leaves one of its nodes. -/
theorem Body.exists_escapes {b : Body} {t : Transfer} (h : b.task.Escapes t) :
    ∃ n ∈ b.nodes, n.Escapes t := by
  cases b with
  | block statements => exact h
  | expression node => exact ⟨node, List.mem_singleton_self node, h⟩

/-! ### Outcomes -/

@[simp] theorem transferOf_plain {α : Type} (e : Except Failure α) :
    transferOf (plain e) = none := by
  cases e <;> rfl

@[simp] theorem transferOf_truth (o : Outcome) : transferOf (truth o) = transferOf o := by
  cases o with
  | ok a => exact transferOf_plain a.asBool
  | error i => rfl

/-- What leaves a condition has left its node. -/
theorem transferOf_of_truth_eq_error {o : Outcome} {i : Interrupt} {t : Transfer}
    (h : truth o = .error i) (ht : i.transfer? = some t) : transferOf o = some t := by
  rw [← transferOf_truth, h]
  exact ht

@[simp] theorem transferOf_map {α β : Type} (g : α → β) (o : Except Interrupt α) :
    transferOf (o.map g) = transferOf o := by
  cases o <;> rfl

/-- Nothing but a failure or a value leaves a call. -/
@[simp] theorem transferOf_settled (callee : SymbolId) (o : Outcome) :
    transferOf (settled callee o) = none := by
  cases o with
  | ok a => rfl
  | error i => cases i <;> rfl

/-- What leaves a round has left the body, and is no jump to the loop. -/
theorem eq_error_of_roundEnd_eq_error {id : LoopId} {o : Outcome} {i : Interrupt}
    (h : roundEnd id o = .error i) :
    o = .error i ∧ ∀ t, i.transfer? = some t → ¬ t.Names id := by
  cases o with
  | ok a => cases h
  | error j =>
    cases j with
    | returning a =>
      cases h
      exact ⟨rfl, by rintro _ ⟨⟩ hnames; exact hnames⟩
    | failing cause =>
      cases h
      exact ⟨rfl, by rintro _ ⟨⟩⟩
    | breaking target =>
      by_cases htarget : target = id
      · simp [roundEnd, htarget] at h
      · simp only [roundEnd, htarget, if_false] at h
        cases h
        exact ⟨rfl, by rintro _ ⟨⟩; exact htarget⟩
    | continuing target =>
      by_cases htarget : target = id
      · simp [roundEnd, htarget] at h
      · simp only [roundEnd, htarget, if_false] at h
        cases h
        exact ⟨rfl, by rintro _ ⟨⟩; exact htarget⟩

/-! ### Calls -/

/-- The nodes that a resolved call evaluates in the caller's frame. -/
def Resolved.slotNodes : Resolved → List Node
  | .inlined slots _ => slots.map Prod.snd
  | .shortCircuit _ _ left right => [left, right]
  | .strict _ slots => slots

/-- The nodes that a resolved call evaluates in a frame of its own. -/
def Resolved.bodyNodes : Resolved → List Node
  | .inlined _ body => body.nodes
  | _ => []

/-- The nodes of resolved calls that are like themselves have the relations to themselves. -/
theorem Resolved.Alike.self_nodes {N M : Node → Node → Prop} {r : Resolved}
    (h : Resolved.Alike N M r r) :
    (∀ n ∈ r.slotNodes, N n n) ∧ ∀ n ∈ r.bodyNodes, M n n := by
  cases r with
  | inlined slots body =>
    cases h with
    | inlined hslots hbody =>
      refine ⟨fun n hn => ?_, fun n hn => ?_⟩
      · obtain ⟨slot, hslot, rfl⟩ := List.mem_map.1 hn
        cases List.forall₂_same.1 hslots slot hslot with
        | intro _ h => exact h
      · cases body with
        | block statements =>
          cases hbody with
          | block hns => exact List.forall₂_same.1 hns n hn
        | expression node =>
          cases hbody with
          | expression h =>
            rw [List.mem_singleton.1 hn]
            exact h
  | shortCircuit decides combine left right =>
    cases h with
    | shortCircuit _ _ hl hr =>
      refine ⟨fun n hn => ?_, fun n hn => absurd hn List.not_mem_nil⟩
      rcases List.mem_pair.1 hn with rfl | rfl
      · exact hl
      · exact hr
  | strict combinator slots =>
    cases h with
    | strict _ hslots =>
      exact ⟨List.forall₂_same.1 hslots, fun n hn => absurd hn List.not_mem_nil⟩

/-- The slots of a call are arguments and defaults, and the body is one of the program. -/
theorem resolve_mem {program : Program} {operators : OperatorTable} {callee : SymbolId}
    {as : List (Option Node)} {r : Resolved} (h : resolve program operators callee as = .ok r) :
    (∀ n ∈ r.slotNodes, some n ∈ as ∨ program.HasDefault n) ∧
      ∀ n ∈ r.bodyNodes, program.InBody n := by
  have hprogram : Program.Alike (fun n _ => some n ∈ as ∨ program.HasDefault n)
      (fun n _ => program.InBody n) program program :=
    Program.alike_self (fun _ hn => .inr hn) fun _ hn => hn
  have hmatch := resolve_alike operators callee (hprogram callee)
    (List.forall₂_same.2 fun a ha => option_rel_self fun n hn => .inl (Option.mem_def.1 hn ▸ ha))
  rw [h] at hmatch
  cases hmatch with
  | ok halike => exact halike.self_nodes

/-- What leaves a slot of a call leaves the call, or a default. -/
theorem Node.escapes_call {program : Program} {operators : OperatorTable} {callee : SymbolId}
    {as : List (Option Node)} {r : Resolved} (h : resolve program operators callee as = .ok r)
    {n : Node} (hn : n ∈ r.slotNodes) {t : Transfer} (ht : n.Escapes t) :
    (Node.call callee as).Escapes t ∨ program.DefaultEscapes t := by
  rcases (resolve_mem h).1 n hn with hmem | hdefault
  · exact .inl (.part id (List.reduceOption_mem_iff.2 hmem) ht)
  · exact .inr ⟨n, hdefault, ht⟩

/-! ### Evaluations -/

section

variable {program : Program} {operators : OperatorTable} {task : Task} {f f' : Frame}
  {o : Outcome} {k d : Nat}

/-- **A return or jump that leaves a task is written in it or in a default.** -/
theorem Evaluates.escapes (h : Evaluates program operators task f o f' k d) {t : Transfer}
    (ht : transferOf o = some t) : task.Escapes t ∨ program.DefaultEscapes t := by
  induction h with
  | const | get | operands_nil =>
    rw [transferOf_plain] at ht
    cases ht
  | slots_nil _ _ =>
    rw [transferOf_settled] at ht
    cases ht
  | set | declare | declare_only | call_unresolved | call_decided | coercion | typeOperation
  | absent | statements_nil | branches_nil | test_fails | rounds_left => cases ht
  | ret _ _ =>
    cases ht
    exact .inl (.ret _)
  | breakTo =>
    cases ht
    exact .inl (.breakTo _)
  | continueTo =>
    cases ht
    exact .inl (.continueTo _)
  | node _ ih => exact ih ht
  -- The node goes on as its part does, which is left by the same.
  | set_interrupted _ ih | declare_interrupted _ ih | coercion_interrupted _ ih =>
    exact (ih ht).imp_left (.part id (List.mem_singleton_self _))
  | block _ ih => exact (ih ht).imp_left fun ⟨n, hn, h⟩ => .part id hn h
  | ret_interrupted _ ih =>
    exact (ih ht).imp_left fun ⟨n, hn, h⟩ => .part id (Option.mem_toList.2 hn) h
  | choose _ ih => exact (ih ht).imp_left Node.escapes_choose
  | preTest _ ih | postTest _ ih => exact (ih ht).imp_left Node.escapes_loop_iff.2
  | present _ ih => exact (ih ht).imp_left fun h => ⟨_, rfl, h⟩
  | statements_cons _ _ _ ih | operands_cons _ _ _ ih =>
    exact (ih ht).imp_left fun ⟨n, hn, h⟩ => ⟨n, List.mem_cons_of_mem _ hn, h⟩
  | statements_interrupted _ ih | operands_interrupted _ ih =>
    exact (ih ht).imp_left fun h => ⟨_, List.mem_cons_self, h⟩
  | slots_cons _ _ _ ih =>
    exact (ih ht).imp_left fun ⟨slot, hslot, h⟩ => ⟨slot, List.mem_cons_of_mem _ hslot, h⟩
  | slots_interrupted _ ih => exact (ih ht).imp_left fun h => ⟨_, List.mem_cons_self, h⟩
  | branches_taken _ _ _ _ ih =>
    exact (ih ht).imp_left fun h => ⟨_, List.mem_cons_self, .inr h⟩
  | branches_passed _ _ _ _ ih =>
    exact (ih ht).imp_left fun ⟨b, hb, h⟩ => ⟨b, List.mem_cons_of_mem _ hb, h⟩
  | branches_interrupted _ hq ih =>
    have ht := transferOf_of_truth_eq_error hq ht
    exact (ih ht).imp_left fun h => ⟨_, List.mem_cons_self, .inl h⟩
  | test_holds _ _ _ _ ih | rounds_goOn _ _ _ _ ih => exact ih ht
  | test_interrupted _ hq ih =>
    have ht := transferOf_of_truth_eq_error hq ht
    exact (ih ht).imp_left .inl
  | rounds_interrupted _ hb ih =>
    obtain ⟨rfl, hnames⟩ := eq_error_of_roundEnd_eq_error hb
    exact (ih ht).imp_left fun h => .inr ⟨hnames _ ht, h⟩
  -- A call evaluates its slots, some of which may be defaults.
  | call_inlined hr _ ih =>
    rcases ih ht with ⟨slot, hslot, h⟩ | h
    · exact Node.escapes_call hr (List.mem_map_of_mem hslot) h
    · exact .inr h
  | call_strict hr _ ih =>
    rcases ih ht with ⟨n, hn, h⟩ | h
    · exact Node.escapes_call hr hn h
    · exact .inr h
  | call_undecided hr _ _ _ _ _ ih =>
    rw [transferOf_map, transferOf_truth] at ht
    rcases ih ht with h | h
    · exact Node.escapes_call hr (List.mem_pair.2 (.inr rfl)) h
    · exact .inr h
  | call_interrupted hr _ hq ih =>
    rcases ih (transferOf_of_truth_eq_error hq ht) with h | h
    · exact Node.escapes_call hr (List.mem_pair.2 (.inl rfl)) h
    · exact .inr h

/-! ### Failures -/

/-- The interrupt is no failure, or a plain one. -/
def Interrupt.IsPlain : Interrupt → Prop
  | .failing cause => cause.isPlain = true
  | _ => True

/-- The evaluation does not end in a failure, or in a plain one. -/
def PlainEnd {α : Type} : Except Interrupt α → Prop
  | .ok _ => True
  | .error i => i.IsPlain

theorem plainEnd_plain {α : Type} {P : α → Prop} {e : Except Failure α} (h : Yields P e) :
    PlainEnd (plain e) := by
  cases h with
  | ok _ => trivial
  | error hf => exact hf

theorem plainEnd_truth (h : PlainEnd o) : PlainEnd (truth o) := by
  cases o with
  | ok a => exact plainEnd_plain a.yields_asBool
  | error i => exact h

theorem plainEnd_map {α β : Type} {g : α → β} {o : Except Interrupt α} (h : PlainEnd o) :
    PlainEnd (o.map g) := by
  cases o with
  | ok a => trivial
  | error i => exact h

/-- A function that is left only by returns does not exit abnormally. -/
theorem plainEnd_settled (callee : SymbolId) (h : PlainEnd o)
    (hret : ∀ t, transferOf o = some t → t = .ret) : PlainEnd (settled callee o) := by
  cases o with
  | ok a => trivial
  | error i =>
    cases i with
    | returning a => trivial
    | failing cause => exact h
    | breaking target => cases hret _ rfl
    | continuing target => cases hret _ rfl

/-- A task as there is one in a run: its operator is plain, and its body is one of the
program. -/
def Task.OccursIn (program : Program) : Task → Prop
  | .operands combinator _ _ => combinator.IsPlain
  | .slots _ _ _ body => ∀ n ∈ body.nodes, program.InBody n
  | _ => True

theorem Body.occursIn_task (program : Program) (b : Body) : b.task.OccursIn program := by
  cases b <;> trivial

/-- If nothing leaves a default and functions are left only by returns, every failure is
plain. -/
theorem Evaluates.plainEnd (hdefaults : ∀ t, ¬ program.DefaultEscapes t)
    (hbodies : ∀ n, program.InBody n → ∀ t, n.Escapes t → t = .ret)
    (h : Evaluates program operators task f o f' k d) (htask : task.OccursIn program) :
    PlainEnd o := by
  induction h with
  | const => exact plainEnd_plain (Constant.yields_value _)
  | get => exact plainEnd_plain (Frame.yields_read _ _)
  | operands_nil => exact plainEnd_plain (htask _)
  | call_unresolved hr => exact (resolve_yields program operators _ _).isPlain_of_eq_error hr
  | @typeOperation operator n f hne =>
    show (Failure.unsupported operator.name).isPlain = true
    cases operator <;> rfl
  | set | declare | declare_only | call_decided | ret | breakTo | continueTo | coercion
  | absent | statements_nil | branches_nil | test_fails | rounds_left => trivial
  | node _ ih | set_interrupted _ ih | declare_interrupted _ ih | block _ ih
  | ret_interrupted _ ih | choose _ ih | preTest _ ih | postTest _ ih
  | coercion_interrupted _ ih | present _ ih | statements_interrupted _ ih
  | operands_interrupted _ ih | slots_interrupted _ ih => exact ih trivial
  | statements_cons _ _ _ ih => exact ih trivial
  | operands_cons _ _ _ ih | slots_cons _ _ _ ih => exact ih htask
  | branches_taken _ _ _ _ ih | branches_passed _ _ _ _ ih | test_holds _ _ _ _ ih
  | rounds_goOn _ _ _ _ ih => exact ih trivial
  | call_inlined hr _ ih => exact ih (resolve_mem hr).2
  | call_strict hr _ ih => exact ih ((resolve_yields program operators _ _).of_eq_ok hr)
  | call_undecided _ _ _ _ _ _ ih => exact plainEnd_map (plainEnd_truth (ih trivial))
  | call_interrupted _ _ hq ih | branches_interrupted _ hq ih | test_interrupted _ hq ih =>
    have hplain := plainEnd_truth (ih trivial)
    rw [hq] at hplain
    exact hplain
  | rounds_interrupted _ hb ih =>
    obtain ⟨rfl, -⟩ := eq_error_of_roundEnd_eq_error hb
    exact ih trivial
  | @slots_nil callee locals body f f' o k d hbody ih =>
    refine plainEnd_settled callee (ih (body.occursIn_task program)) fun t ht => ?_
    rcases hbody.escapes ht with h | h
    · obtain ⟨n, hn, h⟩ := Body.exists_escapes h
      exact hbodies n (htask n hn) t h
    · exact absurd h (hdefaults t)

end

/-! ### The evaluator -/

section

variable {program : Program} {operators : OperatorTable} {limits : Limits} {depth : Nat}
  {n : Node} {s : State}

/-- What the evaluator does without running out of a resource is meant. -/
theorem evaluates_outcome
    (h : ¬ ResourceEnd (outcome (evaluate ⟨limits, program, operators⟩ depth n s))) :
    ∃ f' k d, Evaluates program operators (.node n) s.frame
      (outcome (evaluate ⟨limits, program, operators⟩ depth n s)) f' k d := by
  obtain ⟨o, f', k, d, hmeant, hk, hd⟩ := evaluates_of_not_resourceEnd (b := s.budget) h
  have heq := hmeant.evaluate_eq limits depth s.budget hk hd
  exact ⟨f', k, d, by rwa [show evaluate _ depth n s = _ from heq, outcome_ending]⟩

/-- A return or jump that leaves a node is written in it or in a default. -/
theorem escapes_of_transferOf_evaluate {t : Transfer}
    (h : transferOf (outcome (evaluate ⟨limits, program, operators⟩ depth n s)) = some t) :
    n.Escapes t ∨ program.DefaultEscapes t := by
  have hne : ¬ ResourceEnd (outcome (evaluate ⟨limits, program, operators⟩ depth n s)) := by
    revert h
    generalize outcome (evaluate ⟨limits, program, operators⟩ depth n s) = o
    intro h hres
    cases o with
    | ok a => exact hres
    | error i =>
      cases i with
      | failing cause => cases h
      | _ => exact hres
  obtain ⟨f', k, d, hmeant⟩ := evaluates_outcome hne
  exact hmeant.escapes h

/-- If nothing leaves a default and functions are left only by returns, a failure is plain
or that of a limit. -/
theorem isPlain_or_isResource_of_failing (hdefaults : ∀ t, ¬ program.DefaultEscapes t)
    (hbodies : ∀ p, program.InBody p → ∀ t, p.Escapes t → t = .ret) {cause : Failure}
    (h : outcome (evaluate ⟨limits, program, operators⟩ depth n s) = .error (.failing cause)) :
    cause.isPlain = true ∨ cause.isResource = true := by
  by_cases hres : ResourceEnd (outcome (evaluate ⟨limits, program, operators⟩ depth n s))
  · rw [h] at hres
    exact .inr hres
  · obtain ⟨f', k, d, hmeant⟩ := evaluates_outcome hres
    have hplain := hmeant.plainEnd hdefaults hbodies trivial
    rw [h] at hplain
    exact .inl hplain

end

/-- **Returns and jumps are where they are written.**  Whatever the limits and the state, a
return or jump that leaves a node can leave it as it is written, or can leave a default.
So if nothing can leave a default and functions can be left only by returns, no function
exits abnormally, and a root that nothing can leave is not refused for a return or jump. -/
theorem evaluate_escapes (program : Program) (operators : OperatorTable) :
    (∀ limits depth n s t,
      transferOf (outcome (evaluate ⟨limits, program, operators⟩ depth n s)) = some t →
        n.Escapes t ∨ program.DefaultEscapes t) ∧
    ((∀ t, ¬ program.DefaultEscapes t) →
      (∀ p, program.InBody p → ∀ t, p.Escapes t → t = .ret) →
      (∀ limits depth n s callee,
        outcome (evaluate ⟨limits, program, operators⟩ depth n s) ≠
          .error (.failing (.abnormalExit callee))) ∧
      (∀ limits b root callee,
        ((Evaluator.mk ⟨limits, program, operators⟩ b).fold root).1 ≠
          .error (.abnormalExit callee)) ∧
      ∀ limits b root, (∀ t, ¬ root.Escapes t) →
        ((Evaluator.mk ⟨limits, program, operators⟩ b).fold root).1 ≠
          .error (.unsupported "control transfer outside of a function")) := by
  refine ⟨fun _ _ _ _ _ => escapes_of_transferOf_evaluate, fun hdefaults hbodies => ?_⟩
  have hnormal : ∀ limits depth n s callee,
      outcome (evaluate ⟨limits, program, operators⟩ depth n s) ≠
        .error (.failing (.abnormalExit callee)) := by
    intro limits depth n s callee h
    rcases isPlain_or_isResource_of_failing hdefaults hbodies h with hplain | hres
    · cases hplain
    · cases hres
  refine ⟨hnormal, ?_, ?_⟩
  · intro limits b root callee h
    rw [Evaluator.fold_eq] at h
    rcases conclude_eq_error h with ho | ⟨-, hunit⟩ | ⟨-, hrefused⟩
    · exact hnormal _ _ _ _ _ ho
    · cases hunit
    · cases hrefused
  · intro limits b root hroot h
    rw [Evaluator.fold_eq] at h
    rcases conclude_eq_error h with ho | ⟨-, hunit⟩ | ⟨⟨t, ht⟩, -⟩
    · rcases isPlain_or_isResource_of_failing hdefaults hbodies ho with hplain | hres
      · cases hplain
      · cases hres
    · cases hunit
    · rcases escapes_of_transferOf_evaluate ht with hescapes | hescapes
      · exact hroot t hescapes
      · exact hdefaults t hescapes

/-! ### An instance -/

/-- A function that jumps out of its loop, and then returns its argument. -/
def leavingProgram : Program :=
  Bindings.empty.insert ⟨100⟩ ⟨"leaving", [⟨⟨5⟩, some (.int 3)⟩],
    some (.block [.whileLoop ⟨0⟩ (.bool true) (some (.breakTo ⟨0⟩)), .ret (some (.get ⟨5⟩))])⟩

/-- The function is called in a loop that jumps to its next round, of which there is none. -/
def leavingRoot : Node :=
  .block [.doWhile ⟨0⟩ (some (.block [.call ⟨100⟩ [], .continueTo ⟨0⟩])) (.bool false),
    .call ⟨100⟩ []]

theorem get?_leavingProgram {s : SymbolId} {d : Declaration}
    (h : leavingProgram.get? s = some d) :
    d = ⟨"leaving", [⟨⟨5⟩, some (.int 3)⟩],
      some (.block [.whileLoop ⟨0⟩ (.bool true) (some (.breakTo ⟨0⟩)),
        .ret (some (.get ⟨5⟩))])⟩ := by
  rw [leavingProgram, Bindings.get?_insert] at h
  split at h
  · exact (Option.some.inj h).symm
  · cases h

theorem not_defaultEscapes_leavingProgram (t : Transfer) :
    ¬ leavingProgram.DefaultEscapes t := by
  rintro ⟨p, ⟨s, d, hd, q, hq, hp⟩, h⟩
  rw [get?_leavingProgram hd] at hq
  rw [List.mem_singleton.1 hq] at hp
  cases hp
  exact Node.not_escapes_const h

theorem eq_ret_of_inBody_leavingProgram {p : Node} (hp : leavingProgram.InBody p) {t : Transfer}
    (h : p.Escapes t) : t = .ret := by
  obtain ⟨s, d, hd, b, hb, hp⟩ := hp
  rw [get?_leavingProgram hd] at hb
  cases hb
  rcases List.mem_pair.1 hp with rfl | rfl
  · -- The jump is one to the loop in whose body it is.
    rcases Node.escapes_loop_iff.1 h with h | ⟨hnames, n, hn, h⟩
    · exact absurd h Node.not_escapes_const
    · cases hn
      cases h with
      | breakTo => exact absurd rfl hnames
      | part _ hp _ => cases hp
  · cases h with
    | ret => rfl
    | part _ hp h =>
      rw [List.mem_singleton.1 hp] at h
      cases h with
      | part _ hp _ => cases hp

theorem not_escapes_leavingRoot (t : Transfer) : ¬ leavingRoot.Escapes t := by
  have hcall : ¬ (Node.call ⟨100⟩ []).Escapes t := by
    intro h
    cases h with
    | part _ hp _ => cases hp
  intro h
  cases h with
  | part _ hp h =>
    rcases List.mem_pair.1 hp with rfl | rfl
    · rcases Node.escapes_loop_iff.1 h with h | ⟨hnames, n, hn, h⟩
      · exact Node.not_escapes_const h
      · cases hn
        cases h with
        | part _ hp h =>
          rcases List.mem_pair.1 hp with rfl | rfl
          · exact hcall h
          · cases h with
            | continueTo => exact hnames rfl
            | part _ hp _ => cases hp
    · exact hcall h

/-- A jump by itself leaves its node; those of the function and of the root do not. -/
theorem evaluate_escapes_leaving :
    let run := fun limits depth n s => evaluate ⟨limits, leavingProgram, .reserved⟩ depth n s
    transferOf (outcome (run ⟨5, 5⟩ 0 (.breakTo ⟨0⟩) ⟨.full 5, .empty⟩)) =
        some (.breakTo ⟨0⟩) ∧
      ((Node.breakTo ⟨0⟩).Escapes (.breakTo ⟨0⟩) ∨
        leavingProgram.DefaultEscapes (.breakTo ⟨0⟩)) ∧
      (∀ t, ¬ leavingProgram.DefaultEscapes t) ∧
      (∀ p, leavingProgram.InBody p → ∀ t, p.Escapes t → t = .ret) ∧
      (∀ t, ¬ leavingRoot.Escapes t) ∧
      fold ⟨⟨30, 10⟩, leavingProgram, .reserved⟩ leavingRoot = .ok (.int 3) ∧
      (∀ limits depth n s callee,
        outcome (run limits depth n s) ≠ .error (.failing (.abnormalExit callee))) ∧
      ∀ limits b, ((Evaluator.mk ⟨limits, leavingProgram, .reserved⟩ b).fold leavingRoot).1 ≠
        .error (.unsupported "control transfer outside of a function") := by
  intro run
  have htransfer : transferOf (outcome (run ⟨5, 5⟩ 0 (.breakTo ⟨0⟩) ⟨.full 5, .empty⟩)) =
      some (.breakTo ⟨0⟩) := by
    decide +kernel
  have hbodies : ∀ p, leavingProgram.InBody p → ∀ t, p.Escapes t → t = .ret :=
    fun p hp t h => eq_ret_of_inBody_leavingProgram hp h
  obtain ⟨hescapes, hclosed⟩ := evaluate_escapes leavingProgram .reserved
  obtain ⟨hnormal, -, hroot⟩ := hclosed not_defaultEscapes_leavingProgram hbodies
  exact ⟨htransfer, hescapes _ _ _ _ _ htransfer, not_defaultEscapes_leavingProgram, hbodies,
    not_escapes_leavingRoot, by decide +kernel, hnormal,
    fun limits b => hroot limits b leavingRoot not_escapes_leavingRoot⟩

end ConstFold
