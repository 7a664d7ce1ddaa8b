import ConstFold.Proofs.Calls
import ConstFold.Proofs.Conditionals
import ConstFold.Proofs.Lookups

/-!
# Specialized functions

A function that is called with constants can be called without arguments instead: the body of a
function of its own declares the parameters with these constants and goes on as the body does.  A
parameter is bound in the callee's frame by the call, and a variable is bound there by its
declaration, so that both ways lead to the same frame.  A declaration is a step of its own, besides
the one for its constant.

## Main definitions

* `Declaration.specialized` — the function without parameters.
* `Program.Lacks` — symbols that do not occur in a program.
* `Instantiates` — constants bound one after the other, and then the body.

## Main results

* `evaluates_slots_const_iff`, `evaluates_declarations_iff` — both ways to bind constants.
* `specialized_call` — **a call with constants agrees with the call of the specialized function,
  which takes a step more for each constant.**
-/

namespace ConstFold

open Run

/-! ### Specialization -/

/-- The constants that have a value. -/
def Constant.isEvaluable : Constant → Bool
  | .int _ | .bool _ | .text _ => true
  | _ => false

theorem Constant.exists_value {c : Constant} (h : c.isEvaluable = true) :
    ∃ a, c.value = .ok a := by
  cases c with
  | int i => exact ⟨.int i, rfl⟩
  | bool p => exact ⟨.bool p, rfl⟩
  | text s => exact ⟨.text s, rfl⟩
  | _ => cases h

/-- The declarations of variables, each with its constant. -/
def declarations (bs : List (VariableId × Constant)) : List Node :=
  bs.map fun b => .declare b.1 (some (.const b.2))

namespace Declaration

/-- The variables of the parameters, each with the constant for it. -/
def instantiated (d : Declaration) (cs : List Constant) : List (VariableId × Constant) :=
  (d.parameters.map (·.variableId)).zip cs

/-- The function without parameters, which declares them with constants before it goes on as the
body does. -/
def specialized (d : Declaration) (name : String) (body : Body) (cs : List Constant) :
    Declaration :=
  ⟨name, [], some (.block (declarations (d.instantiated cs) ++ body.nodes))⟩

end Declaration

/-- The symbol is neither declared nor called in the program. -/
structure Program.Lacks (program : Program) (s : SymbolId) : Prop where
  undeclared : program.get? s = none
  uncalled : ∀ t d, program.get? t = some d → ¬ d.Calls s

/-- The variables are bound to their constants in turn, up to one that has no value; if there is
none, the body is run.  With the outcome stand the number of constants that were evaluated, and the
steps of the body. -/
inductive Instantiates (program : Program) (operators : OperatorTable) (body : Body) :
    Frame → List (VariableId × Constant) → Outcome → Nat → Nat → Prop
  /-- The body runs in the frame of the constants. -/
  | run {locals f' o k d} : Evaluates program operators body.task locals o f' k d →
      Instantiates program operators body locals [] o 0 k
  /-- A constant is bound. -/
  | bound {locals v c a bs o m k} : c.value = .ok a →
      Instantiates program operators body (locals.insert v a) bs o m k →
      Instantiates program operators body locals ((v, c) :: bs) o (m + 1) k
  /-- A constant is refused. -/
  | refused {locals v c cause bs} : c.value = .error cause →
      Instantiates program operators body locals ((v, c) :: bs) (.error (.failing cause)) 1 0

section Binding

variable {program : Program} {operators : OperatorTable} {body : Body}
  {bs : List (VariableId × Constant)} {callee : SymbolId} {f f' locals : Frame} {o : Outcome}
  {m k d : Nat}

/-- If every constant has a value, all are evaluated. -/
theorem Instantiates.count_eq (h : Instantiates program operators body locals bs o m k)
    (hbs : ∀ b ∈ bs, b.2.isEvaluable = true) : m = bs.length := by
  induction h with
  | run => rfl
  | bound _ _ ih => exact congrArg (· + 1) (ih fun b hb => hbs b (.tail _ hb))
  | refused hc =>
    obtain ⟨a, ha⟩ := Constant.exists_value (hbs _ (.head _))
    cases ha.symm.trans hc

/-- What binds constants in turn, at `e` steps for each, and then comes to the body instantiates
it.  The induction is on the variables that are left to bind. -/
theorem iff_instantiates {e : Nat} {T : Frame → List (VariableId × Constant) → Nat → Prop}
    {E : Outcome → Prop}
    (hnil : ∀ locals k, T locals [] k ↔
      ∃ o f' d, Evaluates program operators body.task locals o f' k d ∧ E o)
    (hbound : ∀ locals v c a bs k, c.value = .ok a →
      (T locals ((v, c) :: bs) k ↔ ∃ k', T (locals.insert v a) bs k' ∧ k = k' + e))
    (hrefused : ∀ locals v c cause bs k, c.value = .error cause →
      (T locals ((v, c) :: bs) k ↔ E (.error (.failing cause)) ∧ k = e)) :
    T locals bs k ↔
      ∃ o m k', Instantiates program operators body locals bs o m k' ∧ E o ∧ k = k' + e * m := by
  induction bs generalizing locals k with
  | nil =>
    rw [hnil]
    constructor
    · rintro ⟨o, f', d, hbody, ho⟩
      exact ⟨o, 0, k, .run hbody, ho, rfl⟩
    · rintro ⟨o, m, k', h, ho, rfl⟩
      cases h with
      | run hbody => exact ⟨o, _, _, hbody, ho⟩
  | cons b bs ih =>
    obtain ⟨v, c⟩ := b
    cases hc : c.value with
    | ok a =>
      rw [hbound locals v c a bs k hc]
      constructor
      · rintro ⟨k₁, hrest, rfl⟩
        obtain ⟨o, m, k', hinst, ho, rfl⟩ := ih.1 hrest
        exact ⟨o, m + 1, k', .bound hc hinst, ho, by rw [Nat.mul_succ, Nat.add_assoc]⟩
      · rintro ⟨o, m, k', h, ho, rfl⟩
        cases h with
        | refused hc' => cases hc.symm.trans hc'
        | bound hc' hinst =>
          cases hc.symm.trans hc'
          exact ⟨_, ih.2 ⟨o, _, k', hinst, ho, rfl⟩, by rw [Nat.mul_succ, Nat.add_assoc]⟩
    | error cause =>
      rw [hrefused locals v c cause bs k hc]
      constructor
      · rintro ⟨ho, rfl⟩
        exact ⟨_, 1, 0, .refused hc, ho, by rw [Nat.mul_one, Nat.zero_add]⟩
      · rintro ⟨o, m, k', h, ho, rfl⟩
        cases h with
        | bound hc' _ => cases hc.symm.trans hc'
        | refused hc' =>
          cases hc.symm.trans hc'
          exact ⟨ho, by rw [Nat.mul_one, Nat.zero_add]⟩

/-! ### Constants as arguments -/

theorem evaluates_const_of_ok {c : Constant} {a : Value} (hc : c.value = .ok a) :
    Evaluates program operators (.node (.const c)) f o f' k d ↔
      o = .ok a ∧ f' = f ∧ k = 1 ∧ d = 1 := by
  rw [evaluates_const_iff, hc]
  rfl

theorem evaluates_const_of_error {c : Constant} {cause : Failure} (hc : c.value = .error cause) :
    Evaluates program operators (.node (.const c)) f o f' k d ↔
      o = .error (.failing cause) ∧ f' = f ∧ k = 1 ∧ d = 1 := by
  rw [evaluates_const_iff, hc]
  rfl

/-- Constants as arguments are bound at one step each, and the caller's frame is left as it
was. -/
theorem evaluates_slots_const_iff :
    (∃ d, Evaluates program operators (.slots callee locals
      (bs.map fun b => (b.1, .const b.2)) body) f o f' k d) ↔
      ∃ o' m k', Instantiates program operators body locals bs o' m k' ∧
        (o = settled callee o' ∧ f' = f) ∧ k = k' + 1 * m := by
  refine iff_instantiates (T := fun locals bs k => ∃ d, Evaluates program operators (.slots callee
    locals (bs.map fun b => (b.1, .const b.2)) body) f o f' k d) ?_ ?_ ?_
  · intro locals k
    constructor
    · rintro ⟨d, h⟩
      cases h with
      | slots_nil hbody => exact ⟨_, _, _, hbody, rfl, rfl⟩
    · rintro ⟨o', _, d, hbody, rfl, rfl⟩
      exact ⟨d, .slots_nil hbody⟩
  · intro locals v c a bs k hc
    constructor
    · rintro ⟨d, h⟩
      cases h with
      | slots_cons hconst hrest =>
        obtain ⟨ho, rfl, rfl, -⟩ := (evaluates_const_of_ok hc).1 hconst
        cases ho
        exact ⟨_, ⟨_, hrest⟩, Nat.add_comm _ _⟩
      | slots_interrupted hconst => cases ((evaluates_const_of_ok hc).1 hconst).1
    · rintro ⟨k', ⟨d', hrest⟩, rfl⟩
      rw [Nat.add_comm]
      exact ⟨_, .slots_cons ((evaluates_const_of_ok hc).2 ⟨rfl, rfl, rfl, rfl⟩) hrest⟩
  · intro locals v c cause bs k hc
    constructor
    · rintro ⟨d, h⟩
      cases h with
      | slots_cons hconst _ => cases ((evaluates_const_of_error hc).1 hconst).1
      | slots_interrupted hconst =>
        obtain ⟨ho, rfl, rfl, -⟩ := (evaluates_const_of_error hc).1 hconst
        exact ⟨⟨ho, rfl⟩, rfl⟩
    · rintro ⟨⟨rfl, rfl⟩, rfl⟩
      exact ⟨_, .slots_interrupted ((evaluates_const_of_error hc).2 ⟨rfl, rfl, rfl, rfl⟩)⟩

/-! ### Constants as declarations -/

theorem evaluates_declare_const_of_ok {v : VariableId} {c : Constant} {a : Value}
    (hc : c.value = .ok a) :
    Evaluates program operators (.node (.declare v (some (.const c)))) f o f' k d ↔
      o = .ok .unit ∧ f' = f.insert v a ∧ k = 2 ∧ d = 2 := by
  constructor
  · intro h
    obtain ⟨hform⟩ := evaluates_node_iff.1 h
    cases hform with
    | declare hconst =>
      obtain ⟨ho, rfl, rfl, rfl⟩ := (evaluates_const_of_ok hc).1 hconst
      cases ho
      exact ⟨rfl, rfl, rfl, rfl⟩
    | declare_interrupted hconst => cases ((evaluates_const_of_ok hc).1 hconst).1
  · rintro ⟨rfl, rfl, rfl, rfl⟩
    exact .node (.declare ((evaluates_const_of_ok hc).2 ⟨rfl, rfl, rfl, rfl⟩))

theorem evaluates_declare_const_of_error {v : VariableId} {c : Constant} {cause : Failure}
    (hc : c.value = .error cause) :
    Evaluates program operators (.node (.declare v (some (.const c)))) f o f' k d ↔
      o = .error (.failing cause) ∧ f' = f ∧ k = 2 ∧ d = 2 := by
  constructor
  · intro h
    obtain ⟨hform⟩ := evaluates_node_iff.1 h
    cases hform with
    | declare hconst => cases ((evaluates_const_of_error hc).1 hconst).1
    | declare_interrupted hconst =>
      obtain ⟨ho, rfl, rfl, rfl⟩ := (evaluates_const_of_error hc).1 hconst
      exact ⟨ho, rfl, rfl, rfl⟩
  · rintro ⟨rfl, rfl, rfl, rfl⟩
    exact .node (.declare_interrupted ((evaluates_const_of_error hc).2 ⟨rfl, rfl, rfl, rfl⟩))

/-- The statements of a body do what the body does. -/
theorem evaluates_nodes_iff :
    Evaluates program operators (.statements .unit body.nodes) f o f' k d ↔
      Evaluates program operators body.task f o f' k d := by
  cases body with
  | block statements => exact Iff.rfl
  | expression n =>
    constructor
    · intro h
      cases h with
      | statements_interrupted h => exact h
      | statements_cons h hnil =>
        cases hnil
        rw [Nat.add_zero, Nat.max_zero]
        exact h
    · intro h
      cases o with
      | error i => exact .statements_interrupted h
      | ok a =>
        have hcons : Evaluates program operators (.statements .unit [n]) f (.ok a) f' _ _ :=
          .statements_cons h .statements_nil
        rwa [Nat.add_zero, Nat.max_zero] at hcons

/-- Constants as declarations are bound at two steps each. -/
theorem evaluates_declarations_iff :
    (∃ f' d, Evaluates program operators (.statements .unit (declarations bs ++ body.nodes))
      locals o f' k d) ↔
      ∃ o' m k', Instantiates program operators body locals bs o' m k' ∧ o = o' ∧
        k = k' + 2 * m := by
  refine iff_instantiates (T := fun locals bs k => ∃ f' d, Evaluates program operators
    (.statements .unit (declarations bs ++ body.nodes)) locals o f' k d) ?_ ?_ ?_
  · intro locals k
    constructor
    · rintro ⟨f', d, h⟩
      exact ⟨o, f', d, evaluates_nodes_iff.1 h, rfl⟩
    · rintro ⟨_, f', d, hbody, rfl⟩
      exact ⟨f', d, evaluates_nodes_iff.2 hbody⟩
  · intro locals v c a bs k hc
    constructor
    · rintro ⟨f', d, h⟩
      cases h with
      | statements_cons hdeclare hrest =>
        obtain ⟨ho, rfl, rfl, -⟩ := (evaluates_declare_const_of_ok hc).1 hdeclare
        -- A declaration has the unit value, which is also what statements start from.
        cases ho
        exact ⟨_, ⟨_, _, hrest⟩, Nat.add_comm _ _⟩
      | statements_interrupted hdeclare =>
        cases ((evaluates_declare_const_of_ok hc).1 hdeclare).1
    · rintro ⟨k', ⟨f', d', hrest⟩, rfl⟩
      rw [Nat.add_comm]
      exact ⟨_, _, .statements_cons
        ((evaluates_declare_const_of_ok hc).2 ⟨rfl, rfl, rfl, rfl⟩) hrest⟩
  · intro locals v c cause bs k hc
    constructor
    · rintro ⟨f', d, h⟩
      cases h with
      | statements_cons hdeclare _ => cases ((evaluates_declare_const_of_error hc).1 hdeclare).1
      | statements_interrupted hdeclare =>
        obtain ⟨ho, -, rfl, -⟩ := (evaluates_declare_const_of_error hc).1 hdeclare
        exact ⟨ho, rfl⟩
    · rintro ⟨rfl, rfl⟩
      exact ⟨_, _, .statements_interrupted
        ((evaluates_declare_const_of_error hc).2 ⟨rfl, rfl, rfl, rfl⟩)⟩

end Binding

/-! ### Calls -/

section Calls

variable {program : Program} {operators : OperatorTable} {s : SymbolId} {body : Body}
  {f f' : Frame} {o : Outcome} {k d : Nat}

/-- A call that supplies every argument is resolved to the body with these arguments. -/
theorem resolve_callAll {decl : Declaration} {nodes : List Node}
    (hs : program.get? s = some decl) (hbody : decl.body? = some body)
    (hlength : nodes.length = decl.parameters.length) :
    resolve program operators s (nodes.map some) =
      .ok (.inlined ((decl.parameters.map (·.variableId)).zip nodes) body) := by
  have hbody? : program.body? s = some body := by rw [Program.body?, hs]; exact hbody
  have hparameters : program.parameters? s = some decl.parameters := by
    rw [Program.parameters?, hs]
    rfl
  have hfits : (nodes.map some).length ≤ slotCount (some decl.parameters) (nodes.map some) := by
    rw [List.length_map, hlength]
    exact Nat.le_refl _
  have hslots : callSlots s (some decl.parameters) (nodes.map some) = .ok nodes := by
    rw [callSlots_eq_fillSlots s hfits]
    refine fillSlots_map_some s 0 ?_
    rw [length_slotDefaults]
    exact hlength
  rw [resolve_of_body hbody?, hparameters, hslots]
  rfl

/-- A call of a function takes a step and a level more than its slots and its body. -/
theorem evaluates_inlined_iff {as : List (Option Node)} {slots : List (VariableId × Node)}
    (h : resolve program operators s as = .ok (.inlined slots body)) :
    Evaluates program operators (.node (.call s as)) f o f' k d ↔
      ∃ k' d', Evaluates program operators (.slots s .empty slots body) f o f' k' d' ∧
        k = k' + 1 ∧ d = d' + 1 := by
  constructor
  · intro hcall
    obtain ⟨hform⟩ := evaluates_node_iff.1 hcall
    rw [evaluates_call_iff, h] at hform
    exact ⟨_, _, hform, rfl, rfl⟩
  · rintro ⟨k', d', hslots, rfl, rfl⟩
    exact .node (.call_inlined h hslots)

/-- A call with constants takes a step for itself and one for each constant. -/
theorem evaluates_call_const_iff {decl : Declaration} {cs : List Constant}
    (hs : program.get? s = some decl) (hbody : decl.body? = some body)
    (hcs : cs.length = decl.parameters.length) :
    (∃ d, Evaluates program operators (.node (.callAll s (cs.map .const))) f o f' k d) ↔
      ∃ o' m k', Instantiates program operators body .empty (decl.instantiated cs) o' m k' ∧
        o = settled s o' ∧ f' = f ∧ k = k' + m + 1 := by
  have hslots : (decl.parameters.map (·.variableId)).zip (cs.map Node.const) =
      (decl.instantiated cs).map fun b => (b.1, .const b.2) := List.zip_map_right ..
  have hresolve : resolve program operators s ((cs.map .const).map some) = _ :=
    resolve_callAll hs hbody ((List.length_map Node.const).trans hcs)
  rw [hslots] at hresolve
  constructor
  · rintro ⟨d, h⟩
    obtain ⟨k₁, d₁, h₁, rfl, -⟩ := (evaluates_inlined_iff hresolve).1 h
    obtain ⟨o', m, k', hinst, ⟨ho, hf⟩, rfl⟩ := evaluates_slots_const_iff.1 ⟨d₁, h₁⟩
    exact ⟨o', m, k', hinst, ho, hf, by rw [Nat.one_mul]⟩
  · rintro ⟨o', m, k', hinst, ho, hf, rfl⟩
    obtain ⟨d₁, h₁⟩ := evaluates_slots_const_iff.2 ⟨o', m, k', hinst, ⟨ho, hf⟩, rfl⟩
    exact ⟨_, (evaluates_inlined_iff hresolve).2 ⟨_, _, h₁, by rw [Nat.one_mul], rfl⟩⟩

/-- A call of a specialized function takes a step for itself and two for each constant. -/
theorem evaluates_call_specialized_iff {decl : Declaration} {name : String} {cs : List Constant}
    (hs : program.get? s = some (decl.specialized name body cs)) :
    (∃ d, Evaluates program operators (.node (.callAll s [])) f o f' k d) ↔
      ∃ o' m k', Instantiates program operators body .empty (decl.instantiated cs) o' m k' ∧
        o = settled s o' ∧ f' = f ∧ k = k' + 2 * m + 1 := by
  have hresolve : resolve program operators s (List.map some []) = _ :=
    resolve_callAll hs rfl rfl
  constructor
  · rintro ⟨d, h⟩
    obtain ⟨k₁, d₁, h₁, rfl, -⟩ := (evaluates_inlined_iff hresolve).1 h
    cases h₁ with
    | slots_nil hstatements =>
      obtain ⟨o', m, k', hinst, rfl, rfl⟩ := evaluates_declarations_iff.1 ⟨_, _, hstatements⟩
      exact ⟨_, m, k', hinst, rfl, rfl, rfl⟩
  · rintro ⟨o', m, k', hinst, rfl, rfl, rfl⟩
    obtain ⟨f₁, d₁, hstatements⟩ := evaluates_declarations_iff.2 ⟨o', m, k', hinst, rfl, rfl⟩
    exact ⟨_, (evaluates_inlined_iff hresolve).2 ⟨_, _, .slots_nil hstatements, rfl, rfl⟩⟩

end Calls

/-! ### The extended program -/

/-- Calls of two functions with the same outcome of the body come to the same, unless the body is
left by a jump. -/
theorem settled_eq_settled {o : Outcome} (h : ∀ t, o ≠ .error (.breaking t) ∧
    o ≠ .error (.continuing t)) (s s' : SymbolId) : settled s o = settled s' o := by
  cases o with
  | ok a => rfl
  | error i =>
    cases i with
    | breaking t => exact absurd rfl (h t).1
    | continuing t => exact absurd rfl (h t).2
    | _ => rfl

/-- A program does what it did before a declaration is added of a symbol that does not occur. -/
theorem evaluate_insert_of_lacks {program : Program} {s : SymbolId} (hs : program.Lacks s)
    (operators : OperatorTable) (decl : Declaration) (limits : Limits) (depth : Nat) {n : Node}
    (hn : ¬ n.Calls s) :
    evaluate ⟨limits, program.insert s decl, operators⟩ depth n =
      evaluate ⟨limits, program, operators⟩ depth n := by
  refine (evaluate_eq_of_closed (S := (· ≠ s)) ?_ ⟨?_, fun _ _ _ => rfl⟩ limits depth n ?_).symm
  · rintro t d u - ht hu rfl
    exact hs.uncalled t d ht hu
  · intro t ht
    rw [Bindings.get?_insert_of_ne program decl ht]
  · rintro t ht rfl
    exact hn ht

/-- A call with constants calls nothing else. -/
theorem not_calls_callAll_const {s t : SymbolId} (h : t ≠ s) (cs : List Constant) :
    ¬ (Node.callAll s (cs.map .const)).Calls t := by
  rw [Node.calls_iff]
  rintro (⟨as, has⟩ | ⟨p, hp, hcalls⟩)
  · cases has
    exact h rfl
  · have hmem : p ∈ cs.map Node.const := by simpa using List.reduceOption_mem_iff.1 hp
    obtain ⟨c, -, rfl⟩ := List.mem_map.1 hmem
    obtain ⟨as, has⟩ := Node.eq_call_of_calls rfl hcalls
    cases has

/-- **A call with constants agrees with the call of the specialized function, which takes a step
more for each constant.**  In the program with the specialized function, the one has an evaluation
if the other has.  Within limits that suffice for both, both leave the caller's frame as it was,
and both settle the same outcome of the body, or of the first constant that has no value.  So the
outcomes are the same, unless the body is left by a jump, which is an abnormal exit of the function
that was called.  The specialized function takes a step more for each constant that is evaluated,
and these are all of them if all have values.  The call with constants does what it did before the
program was extended. -/
theorem specialized_call {program : Program} (operators : OperatorTable) {s s' : SymbolId}
    {decl : Declaration} {body : Body} {cs : List Constant} (hs : program.get? s = some decl)
    (hbody : decl.body? = some body) (hcs : cs.length = decl.parameters.length)
    (hs' : program.Lacks s') (name : String) (caller : Frame) :
    let extended := program.insert s' (decl.specialized name body cs)
    let general := Node.callAll s (cs.map .const)
    let special := Node.callAll s' []
    ((∃ o f k d, Evaluates extended operators (.node general) caller o f k d) ↔
      ∃ o f k d, Evaluates extended operators (.node special) caller o f k d) ∧
    ∀ (limits : Limits) (depth : Nat) (budget : Budget),
      let r := evaluate ⟨limits, extended, operators⟩ depth general ⟨budget, caller⟩
      let r' := evaluate ⟨limits, extended, operators⟩ depth special ⟨budget, caller⟩
      (¬ ResourceEnd (outcome r) → ¬ ResourceEnd (outcome r') →
        (final r).frame = caller ∧ (final r').frame = caller ∧
        (∃ o m k, Instantiates extended operators body .empty (decl.instantiated cs) o m k) ∧
        ∀ o m k, Instantiates extended operators body .empty (decl.instantiated cs) o m k →
          ((∃ t, o = .error (.breaking t) ∨ o = .error (.continuing t)) →
            outcome r = .error (.failing (.abnormalExit s)) ∧
              outcome r' = .error (.failing (.abnormalExit s'))) ∧
          ((∀ t, o ≠ .error (.breaking t) ∧ o ≠ .error (.continuing t)) →
            outcome r' = outcome r) ∧
          (final r).budget.used = budget.used + (k + m + 1) ∧
          (final r').budget.used = (final r).budget.used + m ∧
          ((∀ c ∈ cs, c.isEvaluable = true) → m = cs.length)) ∧
      evaluate ⟨limits, program, operators⟩ depth general ⟨budget, caller⟩ = r := by
  intro extended general special
  -- The function that is specialized is declared, so that the extension leaves it in force.
  have hne : s ≠ s' := by
    rintro rfl
    cases hs.symm.trans hs'.undeclared
  have hgeneral : ∀ {o f k},
      (∃ d, Evaluates extended operators (.node general) caller o f k d) ↔ _ :=
    evaluates_call_const_iff ((Bindings.get?_insert_of_ne program _ hne).trans hs) hbody hcs
  have hspecial : ∀ {o f k},
      (∃ d, Evaluates extended operators (.node special) caller o f k d) ↔ _ :=
    evaluates_call_specialized_iff (Bindings.get?_insert_self program s' _)
  refine ⟨⟨?_, ?_⟩, fun limits depth budget => ?_⟩
  · rintro ⟨_, _, _, d, h⟩
    obtain ⟨o, m, k, hinst, -⟩ := hgeneral.1 ⟨d, h⟩
    obtain ⟨d', h'⟩ := hspecial.2 ⟨o, m, k, hinst, rfl, rfl, rfl⟩
    exact ⟨_, _, _, d', h'⟩
  · rintro ⟨_, _, _, d, h⟩
    obtain ⟨o, m, k, hinst, -⟩ := hspecial.1 ⟨d, h⟩
    obtain ⟨d', h'⟩ := hgeneral.2 ⟨o, m, k, hinst, rfl, rfl, rfl⟩
    exact ⟨_, _, _, d', h'⟩
  intro r r'
  refine ⟨fun hr hr' => ?_, ?_⟩
  · -- Whatever the constants and the body come to, both runs settle it.
    have hruns : ∀ o m k, Instantiates extended operators body .empty (decl.instantiated cs) o m k →
        (outcome r = settled s o ∧ (final r).frame = caller ∧
          (final r).budget.used = budget.used + (k + m + 1)) ∧
        (outcome r' = settled s' o ∧ (final r').frame = caller ∧
          (final r').budget.used = budget.used + (k + 2 * m + 1)) := by
      intro o m k hinst
      obtain ⟨d, hmeant⟩ := hgeneral.2 ⟨o, m, k, hinst, rfl, rfl, rfl⟩
      obtain ⟨d', hmeant'⟩ := hspecial.2 ⟨o, m, k, hinst, rfl, rfl, rfl⟩
      exact ⟨hmeant.run_eq hr, hmeant'.run_eq hr'⟩
    obtain ⟨_, _, _, d, hmeant, -, -⟩ := evaluates_of_not_resourceEnd hr
    obtain ⟨o₁, m₁, k₁, hinst₁, -⟩ := hgeneral.1 ⟨d, hmeant⟩
    obtain ⟨⟨-, hf, -⟩, -, hf', -⟩ := hruns o₁ m₁ k₁ hinst₁
    refine ⟨hf, hf', ⟨o₁, m₁, k₁, hinst₁⟩, fun o m k hinst => ?_⟩
    obtain ⟨⟨ho, -, hused⟩, ho', -, hused'⟩ := hruns o m k hinst
    refine ⟨?_, ?_, hused, ?_, ?_⟩
    · rintro ⟨t, rfl | rfl⟩
      · exact ⟨ho, ho'⟩
      · exact ⟨ho, ho'⟩
    · intro hjump
      rw [ho, ho', settled_eq_settled hjump s s']
    · rw [hused, hused']
      omega
    · intro hevaluable
      have hlength : (decl.instantiated cs).length = cs.length := by
        rw [Declaration.instantiated, List.length_zip, List.length_map, hcs, Nat.min_self]
      rw [← hlength]
      exact hinst.count_eq fun b hb => hevaluable b.2 (List.of_mem_zip hb).2
  · exact congrFun (evaluate_insert_of_lacks hs' operators _ limits depth
      (not_calls_callAll_const hne.symm cs)).symm ⟨budget, caller⟩

/-- A function that gives its second argument. -/
def secondDeclaration : Declaration :=
  ⟨"second", [⟨⟨0⟩, none⟩, ⟨⟨1⟩, some (.int 5)⟩], some (.expression (.get ⟨1⟩))⟩

/-- The program of that function alone. -/
def secondProgram : Program := Bindings.empty.insert ⟨100⟩ secondDeclaration

theorem lacks_secondProgram : secondProgram.Lacks ⟨101⟩ where
  undeclared := rfl
  uncalled := by
    intro t d ht
    rw [secondProgram, Bindings.get?_insert] at ht
    split at ht
    · cases ht
      rintro (⟨q, hq, n, hn, hcalls⟩ | ⟨b, hb, n, hn, hcalls⟩)
      · -- Of the defaults there is one, a constant.
        rcases List.mem_pair.1 hq with rfl | rfl
        · cases hn
        · cases hn
          obtain ⟨as, has⟩ := Node.eq_call_of_calls rfl hcalls
          cases has
      · cases hb
        obtain rfl := List.mem_singleton.1 hn
        obtain ⟨as, has⟩ := Node.eq_call_of_calls rfl hcalls
        cases has
    · cases ht

/-- With two constants the specialized function takes two steps more. -/
theorem specialized_call_second :
    let cs : List Constant := [.bool true, .int 3]
    let body : Body := .expression (.get ⟨1⟩)
    let extended := secondProgram.insert ⟨101⟩ (secondDeclaration.specialized "third" body cs)
    let r := evaluate ⟨⟨9, 3⟩, extended, .reserved⟩ 0 (.callAll ⟨100⟩ (cs.map .const))
      ⟨.full 9, .empty⟩
    let r' := evaluate ⟨⟨9, 3⟩, extended, .reserved⟩ 0 (.callAll ⟨101⟩ []) ⟨.full 9, .empty⟩
    secondProgram.get? ⟨100⟩ = some secondDeclaration ∧ secondDeclaration.body? = some body ∧
      cs.length = secondDeclaration.parameters.length ∧ secondProgram.Lacks ⟨101⟩ ∧
      (final r').budget.used = (final r).budget.used + 2 := by
  intro cs body extended r r'
  have hcs : cs.length = secondDeclaration.parameters.length := rfl
  refine ⟨rfl, rfl, hcs, lacks_secondProgram, ?_⟩
  have hboth := specialized_call .reserved (s := ⟨100⟩) rfl rfl hcs lacks_secondProgram "third"
    .empty
  obtain ⟨-, -, ⟨o, m, k, hinst⟩, hall⟩ := (hboth.2 ⟨9, 3⟩ 0 (.full 9)).1 nofun nofun
  obtain ⟨-, -, -, hused, hm⟩ := hall o m k hinst
  rw [hm (by decide)] at hused
  exact hused

end ConstFold
