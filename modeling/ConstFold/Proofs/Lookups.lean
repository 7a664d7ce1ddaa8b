import ConstFold.Proofs.Quiet

/-!
# What a fold looks up

A fold looks symbols up in two tables, the program and the operators.  It looks up only
symbols that it can come upon: those called in the root, and then those called in the
defaults and bodies of what it has found.  Of a declaration it does not use the name, and
it asks for an operator only where there is no body.  Tables that agree in that much give
the same folds.

A call of a symbol that neither table provides for is refused before anything else is
done, and nothing intercepts the failure.  So a fold that does not end in it has met no
such symbol, and would have gone on in the same way if the symbol had been provided for.

## Main definitions

* `Node.Calls`, `Declaration.Calls` — the symbols called in a node and in a declaration.
* `Program.Reaches` — the symbols a fold can come upon, as the least set that is
  `Program.Closed` and contains what the root calls.
* `Declaration.content`, `Program.HasBody` — what a call goes by.
* `TablesAgree S` — tables that do not differ for calls of symbols with `S`.
* `Program.Dead` — the symbols that neither table provides for.
* `Comparison.untilDead` — a run, until it calls such a symbol, and another one.

## Main results

* `resolve_eq_of_content_eq` — a call is resolved by the content of one declaration, and
  without a body by one operator.
* `evaluate_eq_of_closed` — tables that agree on a closed set evaluate alike.
* `foldCounted_local` — **a fold depends only on what it can come upon.**
* `foldCounted_extended` — **to extend the tables changes no fold that was answered.**
-/

namespace ConstFold

open Run

/-! ### Symbols that are called -/

/-- The symbol is called somewhere in the node. -/
def Node.Calls (n : Node) (s : SymbolId) : Prop := ∃ as, Node.Within (.call s as) n

/-- What is called in a part is called in the node. -/
theorem Node.Calls.of_part {n p : Node} {s : SymbolId} (hp : p ∈ n.parts) (h : p.Calls s) :
    n.Calls s := by
  obtain ⟨as, hcall⟩ := h
  exact ⟨as, .part hp hcall⟩

/-- A symbol is called in a node if the node calls it itself or it is called in a part. -/
theorem Node.calls_iff {n : Node} {s : SymbolId} :
    n.Calls s ↔ (∃ as, n = .call s as) ∨ ∃ p ∈ n.parts, p.Calls s := by
  constructor
  · rintro ⟨as, _ | ⟨hp, hcall⟩⟩
    · exact .inl ⟨as, rfl⟩
    · exact .inr ⟨_, hp, as, hcall⟩
  · rintro (⟨as, rfl⟩ | ⟨p, hp, h⟩)
    · exact ⟨as, .self⟩
    · exact h.of_part hp

/-- A node without parts calls at most what it is a call of. -/
theorem Node.eq_call_of_calls {n : Node} {s : SymbolId} (hparts : n.parts = [])
    (h : n.Calls s) : ∃ as, n = .call s as := by
  rcases Node.calls_iff.1 h with hself | ⟨p, hp, -⟩
  · exact hself
  · rw [hparts] at hp
    cases hp

/-- The symbol is called somewhere in a default or in the body. -/
def Declaration.Calls (d : Declaration) (s : SymbolId) : Prop :=
  (∃ q ∈ d.parameters, ∃ n, q.default? = some n ∧ n.Calls s) ∨
    ∃ b, d.body? = some b ∧ ∃ n ∈ b.nodes, n.Calls s

/-- The symbols a fold of the node can come upon. -/
inductive Program.Reaches (program : Program) (n : Node) : SymbolId → Prop
  | root {s : SymbolId} : n.Calls s → Reaches program n s
  | step {s t : SymbolId} {d : Declaration} :
      Reaches program n s → program.get? s = some d → d.Calls t → Reaches program n t

/-- What is called in the declarations of symbols with `S` has `S` as well. -/
def Program.Closed (program : Program) (S : SymbolId → Prop) : Prop :=
  ∀ s d t, S s → program.get? s = some d → d.Calls t → S t

theorem Program.closed_reaches (program : Program) (n : Node) :
    program.Closed (program.Reaches n) :=
  fun _ _ _ hs hd ht => .step hs hd ht

/-- The symbols that can be come upon are the least closed set with what the root calls. -/
theorem Program.Reaches.of_closed {program : Program} {n : Node} {S : SymbolId → Prop}
    (hclosed : program.Closed S) (hroot : ∀ s, n.Calls s → S s) {s : SymbolId}
    (h : program.Reaches n s) : S s := by
  induction h with
  | root hs => exact hroot _ hs
  | step _ hd ht ih => exact hclosed _ _ _ ih hd ht

/-! ### What a call goes by -/

/-- All of a declaration but its name. -/
def Declaration.content (d : Declaration) : List Parameter × Option Body :=
  (d.parameters, d.body?)

/-- The symbol is declared with a body. -/
def Program.HasBody (program : Program) (s : SymbolId) : Prop :=
  ∃ d b, program.get? s = some d ∧ d.body? = some b

theorem resolveOperator_congr {operators operators' : OperatorTable} {s : SymbolId}
    (h : operators.get? s = operators'.get? s) (ps : Option (List Parameter))
    (as : List (Option Node)) :
    resolveOperator operators s ps as = resolveOperator operators' s ps as := by
  unfold resolveOperator
  rw [h]

/-- A call is resolved by the content of the declaration of its target, and by the operator
of its target where there is no body. -/
theorem resolve_eq_of_content_eq {program program' : Program}
    {operators operators' : OperatorTable} {s : SymbolId}
    (hcontent : (program.get? s).map Declaration.content =
      (program'.get? s).map Declaration.content)
    (hoperator : ¬ program.HasBody s → operators.get? s = operators'.get? s)
    (as : List (Option Node)) :
    resolve program operators s as = resolve program' operators' s as := by
  unfold resolve
  cases hd : program.get? s with
  | none =>
    rw [hd] at hcontent
    have hd' : program'.get? s = none := Option.map_eq_none_iff.1 hcontent.symm
    have hnot : ¬ program.HasBody s := by
      rintro ⟨d, b, hd', -⟩
      rw [hd] at hd'
      cases hd'
    rw [hd']
    exact resolveOperator_congr (hoperator hnot) none as
  | some d =>
    rw [hd] at hcontent
    obtain ⟨d', hd', heq⟩ := Option.map_eq_some_iff.1 hcontent.symm
    obtain ⟨name, ps, body⟩ := d
    obtain ⟨name', ps', body'⟩ := d'
    cases heq
    rw [hd']
    cases body with
    | none =>
      have hnot : ¬ program.HasBody s := by
        rintro ⟨d, b, hd', hb⟩
        rw [hd] at hd'
        cases hd'
        cases hb
      exact resolveOperator_congr (hoperator hnot) (some ps) as
    | some b => rfl

/-! ### Tables that agree on what can be come upon -/

/-- Tables that agree on the symbols with `S`, as far as calls go: in the declarations up to
their names, and in the operators of symbols without a body. -/
structure TablesAgree (S : SymbolId → Prop) (program₁ : Program) (operators₁ : OperatorTable)
    (program₂ : Program) (operators₂ : OperatorTable) : Prop where
  content : ∀ s, S s → (program₁.get? s).map Declaration.content =
    (program₂.get? s).map Declaration.content
  operator : ∀ s, S s → ¬ program₁.HasBody s → operators₁.get? s = operators₂.get? s

section

variable {program₁ program₂ : Program} {operators₁ operators₂ : OperatorTable}
  {S : SymbolId → Prop}

/-- A declaration of a closed set is like itself over nodes that call only symbols of the
set. -/
theorem Program.Closed.alike_self (hclosed : program₁.Closed S) {s : SymbolId} (hs : S s) :
    Option.Rel (Declaration.Alike (fun m m' => m = m' ∧ ∀ t, m.Calls t → S t)
      fun m m' => m = m' ∧ ∀ t, m.Calls t → S t) (program₁.get? s) (program₁.get? s) := by
  cases hd : program₁.get? s with
  | none => exact .none
  | some d =>
    refine .some (Declaration.alike_self (fun q hq m hm => ⟨rfl, fun t ht => ?_⟩)
      fun b hb m hm => ⟨rfl, fun t ht => ?_⟩)
    · exact hclosed s d t hs hd (.inl ⟨q, hq, m, hm, ht⟩)
    · exact hclosed s d t hs hd (.inr ⟨b, hb, m, hm, ht⟩)

/-- To start a node takes only the limits, and no table. -/
theorem Comparison.ends_enter_of_limits {c : Comparison} (hbudgets : c.budgets = Eq)
    (hfailures : ∀ f, c.failures f f) {limits : Limits} {depth : Nat} (s t : State)
    (hst : c.States s t) :
    c.Ends c.States (enter ⟨limits, program₁, operators₁⟩ depth s)
      (enter ⟨limits, program₂, operators₂⟩ depth t) :=
  ends_enter_self hbudgets hfailures ⟨limits, program₁, operators₁⟩ depth hst

/-- Two evaluators go in lockstep on nodes that call only symbols on which their tables
agree, provided that these lead to no others. -/
theorem Comparison.agree_evalNode_of_closed (hclosed : program₁.Closed S)
    (htables : TablesAgree S program₁ operators₁ program₂ operators₂) (limits : Limits)
    (fuel₁ fuel₂ depth : Nat) (n : Node) (hn : ∀ s, n.Calls s → S s) :
    same.Agree fuel₁ fuel₂ (evalNode ⟨limits, program₁, operators₁⟩ fuel₁ depth n)
      (evalNode ⟨limits, program₂, operators₂⟩ fuel₂ depth n) := by
  refine agree_evalNode_of_calls (c := fun _ => same)
    (N := fun m m' => m = m' ∧ ∀ s, m.Calls s → S s) (fun _ => rfl) (fun _ => .refl _)
    (fun _ => ends_enter_of_limits rfl (fun _ => rfl)) ?_ ?_ fuel₁ fuel₂ depth n n ⟨rfl, hn⟩
  · rintro callee as as' ⟨heq, hcalls⟩ has
    have hcallee : S callee := hcalls callee ⟨as, .self⟩
    cases heq
    rw [← resolve_eq_of_content_eq (htables.content callee hcallee)
      (htables.operator callee hcallee) as]
    exact .inl (resolve_alike operators₁ callee (hclosed.alike_self hcallee) has)
  · rintro m _ ⟨rfl, hm⟩
    exact .inl (Node.alike_self fun p hp => ⟨rfl, fun s hs => hm s (hs.of_part hp)⟩)

/-- Tables that agree on a closed set evaluate alike what calls nothing else. -/
theorem evaluate_eq_of_closed (hclosed : program₁.Closed S)
    (htables : TablesAgree S program₁ operators₁ program₂ operators₂) (limits : Limits)
    (depth : Nat) (n : Node) (hn : ∀ s, n.Calls s → S s) :
    evaluate ⟨limits, program₁, operators₁⟩ depth n =
      evaluate ⟨limits, program₂, operators₂⟩ depth n := by
  funext s
  have hagree := Comparison.agree_evalNode_of_closed hclosed htables limits
    s.budget.remaining s.budget.remaining depth n hn
  exact (hagree.ends (Nat.le_refl _) (Nat.le_refl _) ⟨rfl, rfl⟩).same_eq

end

/-- **A fold depends only on what it can come upon.**  If the declarations of two programs
agree on the symbols that a root reaches, up to their names, and two operator tables agree
on those of them that have no body, then the root folds to the same result in as many
steps.  In particular an operator does not count where there is a body. -/
theorem foldCounted_local (program₁ : Program) (operators₁ : OperatorTable) (n : Node)
    (limits : Limits) :
    (∀ (program₂ : Program) (operators₂ : OperatorTable),
      TablesAgree (program₁.Reaches n) program₁ operators₁ program₂ operators₂ →
      foldCounted ⟨limits, program₁, operators₁⟩ n =
        foldCounted ⟨limits, program₂, operators₂⟩ n) ∧
    ∀ s builtin, program₁.HasBody s →
      foldCounted ⟨limits, program₁, operators₁⟩ n =
        foldCounted ⟨limits, program₁, operators₁.insert s builtin⟩ n := by
  have hlocal : ∀ (program₂ : Program) (operators₂ : OperatorTable),
      TablesAgree (program₁.Reaches n) program₁ operators₁ program₂ operators₂ →
      foldCounted ⟨limits, program₁, operators₁⟩ n =
        foldCounted ⟨limits, program₂, operators₂⟩ n := by
    intro program₂ operators₂ htables
    have heq := evaluate_eq_of_closed (program₁.closed_reaches n) htables limits 0 n
      fun _ => .root
    have hroot : (Evaluator.start ⟨limits, program₁, operators₁⟩).evalRoot n =
        (Evaluator.start ⟨limits, program₂, operators₂⟩).evalRoot n :=
      congrFun heq ⟨.full limits.maxSteps, .empty⟩
    rw [foldCounted_eq, foldCounted_eq, hroot]
  refine ⟨hlocal, fun s builtin hbody => hlocal _ _ ⟨fun _ _ => rfl, fun t _ hnot => ?_⟩⟩
  have hne : t ≠ s := by
    rintro rfl
    exact hnot hbody
  rw [Bindings.get?_insert_of_ne operators₁ builtin hne]

/-- A function whose argument is by default the value of another one. -/
def chainedProgram : Program :=
  (Bindings.empty.insert ⟨100⟩ ⟨"next", [⟨⟨0⟩, some (.call ⟨101⟩ [])⟩],
    some (.expression (.callBuiltin .intPlus [.get ⟨0⟩, .int 1]))⟩).insert ⟨101⟩
    ⟨"two", [], some (.block [.ret (some (.int 2))])⟩

/-- The same two functions with other names, and a third one in the place of a difference. -/
def renamedProgram : Program :=
  ((Bindings.empty.insert ⟨101⟩ ⟨"", [], some (.block [.ret (some (.int 2))])⟩).insert
    Builtin.intMinus.symbol ⟨"minus", [], some (.expression (.int 0))⟩).insert ⟨100⟩
    ⟨"successor", [⟨⟨0⟩, some (.call ⟨101⟩ [])⟩],
      some (.expression (.callBuiltin .intPlus [.get ⟨0⟩, .int 1]))⟩

/-- Of the operators only the sum, and one that is not asked for. -/
def sparseOperators : OperatorTable :=
  (Bindings.empty.insert ⟨100⟩ .boolNot).insert Builtin.intPlus.symbol .intPlus

/-- What the first function comes upon. -/
def Chained (s : SymbolId) : Prop := s = ⟨100⟩ ∨ s = ⟨101⟩ ∨ s = Builtin.intPlus.symbol

theorem closed_chained : chainedProgram.Closed Chained := by
  intro s d t _ hd ht
  rw [chainedProgram, Bindings.get?_insert, Bindings.get?_insert] at hd
  split at hd
  · cases hd
    rcases ht with ⟨q, hq, -⟩ | ⟨b, hb, n, hn, h⟩
    · cases hq
    · cases hb
      rw [List.mem_singleton.1 hn] at h
      rcases Node.calls_iff.1 h with ⟨as, h⟩ | ⟨p, hp, h⟩
      · cases h
      · rw [List.mem_singleton.1 hp] at h
        obtain ⟨as, h⟩ := Node.eq_call_of_calls rfl h
        cases h
  · split at hd
    · cases hd
      rcases ht with ⟨q, hq, n, hn, h⟩ | ⟨b, hb, n, hn, h⟩
      · rw [List.mem_singleton.1 hq] at hn
        cases hn
        obtain ⟨as, h⟩ := Node.eq_call_of_calls rfl h
        cases h
        exact .inr (.inl rfl)
      · cases hb
        rw [List.mem_singleton.1 hn] at h
        rcases Node.calls_iff.1 h with ⟨as, h⟩ | ⟨p, hp, h⟩
        · cases h
          exact .inr (.inr rfl)
        · have hp : p ∈ [Node.get ⟨0⟩, Node.int 1] := hp
          rcases List.mem_pair.1 hp with rfl | rfl
          · obtain ⟨as, h⟩ := Node.eq_call_of_calls rfl h
            cases h
          · obtain ⟨as, h⟩ := Node.eq_call_of_calls rfl h
            cases h
    · cases hd

/-- The names, the third function and the operators that are missing or in the way make no
difference. -/
theorem foldCounted_local_chained :
    TablesAgree (chainedProgram.Reaches (.call ⟨100⟩ [])) chainedProgram .reserved renamedProgram
        sparseOperators ∧
      foldCounted ⟨⟨20, 10⟩, chainedProgram, .reserved⟩ (.call ⟨100⟩ []) = (.ok (.int 3), 7) ∧
      foldCounted ⟨⟨20, 10⟩, renamedProgram, sparseOperators⟩ (.call ⟨100⟩ []) =
        (.ok (.int 3), 7) := by
  have hroot : ∀ s, (Node.call ⟨100⟩ []).Calls s → Chained s := by
    intro s h
    obtain ⟨as, h⟩ := Node.eq_call_of_calls rfl h
    cases h
    exact .inl rfl
  have htables : TablesAgree (chainedProgram.Reaches (.call ⟨100⟩ [])) chainedProgram .reserved
      renamedProgram sparseOperators := by
    constructor
    · intro s h
      rcases h.of_closed closed_chained hroot with rfl | rfl | rfl
      · rfl
      · rfl
      · rfl
    · intro s h hnot
      rcases h.of_closed closed_chained hroot with rfl | rfl | rfl
      · exact absurd ⟨_, _, rfl, rfl⟩ hnot
      · exact absurd ⟨_, _, rfl, rfl⟩ hnot
      · decide
  have hfold : foldCounted ⟨⟨20, 10⟩, chainedProgram, .reserved⟩ (.call ⟨100⟩ []) =
      (.ok (.int 3), 7) := by
    decide +kernel
  have hlocal := (foldCounted_local chainedProgram .reserved (.call ⟨100⟩ []) ⟨20, 10⟩).1 _ _ htables
  exact ⟨htables, hfold, hlocal.symm.trans hfold⟩

/-! ### Symbols that are not provided for -/

/-- The symbol has neither a body nor an operator. -/
def Program.Dead (program : Program) (operators : OperatorTable) (s : SymbolId) : Prop :=
  ¬ program.HasBody s ∧ operators.get? s = none

/-- A call of such a symbol is refused whatever its arguments are. -/
theorem Program.Dead.resolve_eq {program : Program} {operators : OperatorTable} {s : SymbolId}
    (h : program.Dead operators s) (as : List (Option Node)) :
    resolve program operators s as = .error (.unknownCallee s) := by
  obtain ⟨hbody, hoperator⟩ := h
  have hrefused : ∀ ps, resolveOperator operators s ps as = .error (.unknownCallee s) := by
    intro ps
    unfold resolveOperator
    rw [hoperator]
  unfold resolve
  cases hd : program.get? s with
  | none => exact hrefused none
  | some d =>
    obtain ⟨name, ps, body⟩ := d
    cases body with
    | none => exact hrefused (some ps)
    | some b => exact absurd ⟨_, b, hd, rfl⟩ hbody

namespace Comparison

/-- A run, until it calls a symbol that is not provided for, and another one. -/
def untilDead (program : Program) (operators : OperatorTable) : Comparison where
  frames := Eq
  budgets := Eq
  failures := Eq
  apart := fun f _ _ => ∃ s, program.Dead operators s ∧ f = .unknownCallee s
  failures_self := fun _ => rfl
  apart_leads := fun h _ => h

/-- What is provided for is used alike if the other tables provide for it alike. -/
theorem agree_evalNode_untilDead {program program' : Program}
    {operators operators' : OperatorTable}
    (htables : ∀ s, ¬ program.Dead operators s →
      program'.get? s = program.get? s ∧ operators'.get? s = operators.get? s)
    (limits : Limits) (fuel₁ fuel₂ depth : Nat) (n : Node) :
    (untilDead program operators).Agree fuel₁ fuel₂
      (evalNode ⟨limits, program, operators⟩ fuel₁ depth n)
      (evalNode ⟨limits, program', operators'⟩ fuel₂ depth n) := by
  refine agree_evalNode_of_calls (c := fun _ => untilDead program operators) (N := Eq)
    (fun _ => rfl) (fun _ => .refl _) (fun _ => ends_enter_of_limits rfl (fun _ => rfl)) ?_ ?_
    fuel₁ fuel₂ depth n n rfl
  · rintro callee as as' heq has
    cases heq
    by_cases hdead : program.Dead operators callee
    · -- The first run gives up here, before it has come to an argument.
      exact .inr ⟨_, hdead.resolve_eq as, fun _ _ _ => ⟨callee, hdead, rfl⟩⟩
    · obtain ⟨hprogram, hoperators⟩ := htables callee hdead
      rw [resolve_eq_of_content_eq (congrArg _ hprogram) (fun _ => hoperators) as]
      have hself : Program.Alike Eq Eq program program :=
        Program.alike_self (fun _ _ => rfl) fun _ _ => rfl
      exact .inl (resolve_alike operators callee (hself callee) has)
  · rintro m _ rfl
    exact .inl (Node.alike_self fun _ _ => rfl)

end Comparison

/-- **To extend the tables changes no fold that was answered.**  Unless a fold ends in the
refusal of a symbol that is not provided for, it comes out the same, after as many steps,
in all tables that coincide with the given ones on the symbols that are. -/
theorem foldCounted_extended {program program' : Program} {operators operators' : OperatorTable}
    {limits : Limits} {n : Node}
    (htables : ∀ s, ¬ program.Dead operators s →
      program'.get? s = program.get? s ∧ operators'.get? s = operators.get? s)
    (hresult : ∀ s, program.Dead operators s →
      fold ⟨limits, program, operators⟩ n ≠ .error (.unknownCallee s)) :
    foldCounted ⟨limits, program', operators'⟩ n = foldCounted ⟨limits, program, operators⟩ n := by
  have hagree := Comparison.agree_evalNode_untilDead htables limits limits.maxSteps
    limits.maxSteps 0 n
  rcases Comparison.foldCounted_cases ⟨limits, program, operators⟩ ⟨limits, program', operators'⟩
    hagree (fun _ _ => id) ⟨rfl, rfl⟩ with
    ⟨r, b, b', hrun, hrun', hbudgets, -⟩ | ⟨f, b, b', hrun, -, s, hdead, hf⟩
  · rw [hrun, hrun', show b = b' from hbudgets]
  · -- The fold has given up on a symbol, which it has not.
    refine absurd ?_ (hresult s hdead)
    rw [fold_eq_foldCounted, hrun, hf]
    rfl

/-- A function whose body is not at hand. -/
def externalProgram : Program := Bindings.empty.insert ⟨200⟩ ⟨"external", [], none⟩

/-- A disjunction that is settled before the function would be called. -/
def settledRoot : Node := .callBuiltin .orElse [.bool true, .call ⟨200⟩ []]

/-- The function may be given a body, and be registered as an operator. -/
theorem foldCounted_extended_external :
    externalProgram.Dead .reserved ⟨200⟩ ∧
      foldCounted ⟨⟨9, 9⟩, externalProgram, .reserved⟩ settledRoot = (.ok (.bool true), 2) ∧
      foldCounted ⟨⟨9, 9⟩, externalProgram.insert ⟨200⟩ ⟨"", [], some (.block [.breakTo ⟨0⟩])⟩,
        OperatorTable.reserved.insert ⟨200⟩ .boolNot⟩ settledRoot = (.ok (.bool true), 2) := by
  have hdead : externalProgram.Dead .reserved ⟨200⟩ := by
    refine ⟨?_, by decide⟩
    rintro ⟨d, b, hd, hb⟩
    rw [externalProgram, Bindings.get?_insert_self] at hd
    cases hd
    cases hb
  have hfold : foldCounted ⟨⟨9, 9⟩, externalProgram, .reserved⟩ settledRoot =
      (.ok (.bool true), 2) := by
    decide +kernel
  have htables : ∀ s, ¬ externalProgram.Dead .reserved s →
      (externalProgram.insert ⟨200⟩ ⟨"", [], some (.block [.breakTo ⟨0⟩])⟩).get? s =
        externalProgram.get? s ∧
      (OperatorTable.reserved.insert ⟨200⟩ .boolNot).get? s = OperatorTable.reserved.get? s := by
    intro s hs
    have hne : s ≠ ⟨200⟩ := by
      rintro rfl
      exact hs hdead
    exact ⟨Bindings.get?_insert_of_ne _ _ hne, Bindings.get?_insert_of_ne _ _ hne⟩
  have hresult : ∀ s, externalProgram.Dead .reserved s →
      fold ⟨⟨9, 9⟩, externalProgram, .reserved⟩ settledRoot ≠ .error (.unknownCallee s) := by
    intro s _ h
    rw [fold_eq_foldCounted, hfold] at h
    cases h
  exact ⟨hdead, hfold, (foldCounted_extended htables hresult).trans hfold⟩

end ConstFold
