import ConstFold.Resolution
import Mathlib.Data.List.Forall2
import Mathlib.Data.List.ReduceOption

/-!
# Trees of the same form

Two nodes are alike over a relation `N` when they have the same form and carry the
same data, and their parts are related by `N`.  The notion carries over to bodies,
declarations and programs, and resolution respects it: calls with related arguments
resolve alike in programs that are alike.

Two relations occur in a program.  A default is evaluated in the caller's frame and
so belongs with the parts of the call, while a body is evaluated in a frame of its
own; the former are related by `N` and the latter by `M`.

## Main definitions

* `Node.parts`, `Node.Alike` — the parts of a node, and nodes of one form.
* `Body.Alike`, `Declaration.Alike`, `Program.Alike`, `Resolved.Alike` — the same of
  what nodes occur in.
* `Matches R` — two plain results, both of them values related by `R` or both the
  same failure of the program.

## Main results

* `Node.alike_self` — a node is like itself over a relation its parts have to themselves.
* `resolve_alike` — **resolution respects likeness.**
-/

namespace ConstFold

variable {N M : Node → Node → Prop}

/-! ### Nodes -/

/-- The parts of a node that are nodes themselves, in order. -/
def Node.parts : Node → List Node
  | .const _ => []
  | .get _ => []
  | .set _ value => [value]
  | .declare _ initializer => initializer.toList
  | .block statements => statements
  | .call _ arguments => arguments.reduceOption
  | .ret value => value.toList
  | .choose branches => branches.flatMap fun b => [b.1, b.2]
  | .loop _ _ condition body => condition :: body.toList
  | .breakTo _ => []
  | .continueTo _ => []
  | .typeOperation _ argument => [argument]

/-- Whether a node binds a variable once its part is evaluated. -/
def Node.Assigns : Node → VariableId → Prop
  | .set v _, w => v = w
  | .declare v (some _), w => v = w
  | _, _ => False

/-- Nodes of one form, with the same data and with parts related by `N`. -/
inductive Node.Alike (N : Node → Node → Prop) : Node → Node → Prop where
  | const (constant : Constant) : Alike N (.const constant) (.const constant)
  | get (v : VariableId) : Alike N (.get v) (.get v)
  | set (v : VariableId) {n n' : Node} : N n n' → Alike N (.set v n) (.set v n')
  | declare (v : VariableId) {i i' : Option Node} :
      Option.Rel N i i' → Alike N (.declare v i) (.declare v i')
  | block {ns ns' : List Node} : List.Forall₂ N ns ns' → Alike N (.block ns) (.block ns')
  | call (callee : SymbolId) {as as' : List (Option Node)} :
      List.Forall₂ (Option.Rel N) as as' → Alike N (.call callee as) (.call callee as')
  | ret {v v' : Option Node} : Option.Rel N v v' → Alike N (.ret v) (.ret v')
  | choose {bs bs' : List (Node × Node)} :
      List.Forall₂ (Prod.RProd N N) bs bs' → Alike N (.choose bs) (.choose bs')
  | loop (id : LoopId) (kind : LoopKind) {q q' : Node} {b b' : Option Node} :
      N q q' → Option.Rel N b b' → Alike N (.loop id kind q b) (.loop id kind q' b')
  | breakTo (target : LoopId) : Alike N (.breakTo target) (.breakTo target)
  | continueTo (target : LoopId) : Alike N (.continueTo target) (.continueTo target)
  | typeOperation (operator : TypeOperator) {n n' : Node} :
      N n n' → Alike N (.typeOperation operator n) (.typeOperation operator n')

/-- An optional node is related to itself if the node in it is. -/
theorem option_rel_self {o : Option Node} (h : ∀ n ∈ o, N n n) : Option.Rel N o o := by
  cases o with
  | none => exact .none
  | some n => exact .some (h n rfl)

/-- A node is like itself over a relation its parts have to themselves. -/
theorem Node.alike_self {n : Node} (h : ∀ p ∈ n.parts, N p p) : Alike N n n := by
  cases n with
  | const constant => exact .const constant
  | get v => exact .get v
  | set v value => exact .set v (h value (List.mem_singleton_self value))
  | declare v initializer =>
    exact .declare v (option_rel_self fun n hn => h n (Option.mem_toList.2 hn))
  | block statements => exact .block (List.forall₂_same.2 h)
  | call callee arguments =>
    -- An omitted argument is no part, and is like itself without more.
    refine .call callee (List.forall₂_same.2 fun a ha => option_rel_self fun n hn => ?_)
    exact h n (List.reduceOption_mem_iff.2 (Option.mem_def.1 hn ▸ ha))
  | ret value => exact .ret (option_rel_self fun n hn => h n (Option.mem_toList.2 hn))
  | choose branches =>
    refine .choose (List.forall₂_same.2 fun b hb => ?_)
    exact .intro (h b.1 (List.mem_flatMap.2 ⟨b, hb, by simp⟩))
      (h b.2 (List.mem_flatMap.2 ⟨b, hb, by simp⟩))
  | loop id kind condition body =>
    refine .loop id kind (h condition (List.mem_cons_self ..)) (option_rel_self fun n hn => ?_)
    exact h n (List.mem_cons_of_mem _ (Option.mem_toList.2 hn))
  | breakTo target => exact .breakTo target
  | continueTo target => exact .continueTo target
  | typeOperation operator argument =>
    exact .typeOperation operator (h argument (List.mem_singleton_self argument))

/-! ### Programs -/

/-- Bodies of one form, with nodes related by `M`. -/
inductive Body.Alike (M : Node → Node → Prop) : Body → Body → Prop where
  | block {ns ns' : List Node} : List.Forall₂ M ns ns' → Alike M (.block ns) (.block ns')
  | expression {n n' : Node} : M n n' → Alike M (.expression n) (.expression n')

/-- The nodes a body consists of. -/
def Body.nodes : Body → List Node
  | .block statements => statements
  | .expression node => [node]

/-- Parameters with the same variable, and with defaults related by `N`. -/
structure Parameter.Alike (N : Node → Node → Prop) (p p' : Parameter) : Prop where
  variableId_eq : p.variableId = p'.variableId
  default_rel : Option.Rel N p.default? p'.default?

/-- Declarations with parameters and bodies that are alike.  Their names may differ. -/
structure Declaration.Alike (N M : Node → Node → Prop) (d d' : Declaration) : Prop where
  parameters : List.Forall₂ (Parameter.Alike N) d.parameters d'.parameters
  body : Option.Rel (Body.Alike M) d.body? d'.body?

/-- Programs that declare the same symbols, with declarations that are alike. -/
def Program.Alike (N M : Node → Node → Prop) (p p' : Program) : Prop :=
  ∀ s, Option.Rel (Declaration.Alike N M) (p.get? s) (p'.get? s)

/-- A default of a declaration in force. -/
def Program.HasDefault (p : Program) (n : Node) : Prop :=
  ∃ s d, p.get? s = some d ∧ ∃ q ∈ d.parameters, q.default? = some n

/-- A node of the body of a declaration in force. -/
def Program.InBody (p : Program) (n : Node) : Prop :=
  ∃ s d, p.get? s = some d ∧ ∃ b, d.body? = some b ∧ n ∈ b.nodes

/-- A body is like itself over a relation its nodes have to themselves. -/
theorem Body.alike_self {b : Body} (h : ∀ n ∈ b.nodes, M n n) : Body.Alike M b b := by
  cases b with
  | block statements => exact .block (List.forall₂_same.2 h)
  | expression node => exact .expression (h node (List.mem_singleton_self node))

/-- A declaration is like itself over relations its defaults and the nodes of its body have to
themselves. -/
theorem Declaration.alike_self {d : Declaration}
    (hN : ∀ q ∈ d.parameters, ∀ n, q.default? = some n → N n n)
    (hM : ∀ b, d.body? = some b → ∀ n ∈ b.nodes, M n n) : Declaration.Alike N M d d where
  parameters := List.forall₂_same.2 fun q hq => ⟨rfl, option_rel_self fun n hn => hN q hq n hn⟩
  body := by
    cases hb : d.body? with
    | none => exact .none
    | some b => exact .some (Body.alike_self (hM b hb))

/-- A program is like itself over relations its defaults and the nodes of its bodies have to
themselves. -/
theorem Program.alike_self {p : Program} (hN : ∀ n, p.HasDefault n → N n n)
    (hM : ∀ n, p.InBody n → M n n) : Program.Alike N M p p := by
  intro s
  cases hd : p.get? s with
  | none => exact .none
  | some d =>
    refine .some (Declaration.alike_self (fun q hq n hn => ?_) fun b hb n hn => ?_)
    · exact hN n ⟨s, d, hd, q, hq, hn⟩
    · exact hM n ⟨s, d, hd, b, hb, hn⟩

/-! ### Resolution -/

/-- Two plain results that are values related by `R`, or the same failure. -/
inductive Matches {α β : Type} (R : α → β → Prop) : Except Failure α → Except Failure β → Prop
  | ok {a : α} {b : β} : R a b → Matches R (.ok a) (.ok b)
  | error (f : Failure) : Matches R (.error f) (.error f)

/-- Results in two steps match if their first steps do and the second ones do. -/
theorem Matches.bind {α β γ δ : Type} {R : α → β → Prop} {S : γ → δ → Prop}
    {x : Except Failure α} {y : Except Failure β} {f : α → Except Failure γ}
    {g : β → Except Failure δ} (h : Matches R x y) (hf : ∀ {a b}, R a b → Matches S (f a) (g b)) :
    Matches S (x >>= f) (y >>= g) := by
  cases h with
  | ok hab => exact hf hab
  | error e => exact .error e

/-- Resolved calls of one form, with slots related by `N` and bodies by `M`. -/
inductive Resolved.Alike (N M : Node → Node → Prop) : Resolved → Resolved → Prop where
  | inlined {slots slots' : List (VariableId × Node)} {b b' : Body} :
      List.Forall₂ (Prod.RProd Eq N) slots slots' → Body.Alike M b b' →
      Alike N M (.inlined slots b) (.inlined slots' b')
  | shortCircuit (decides : Bool → Bool) (combine : Bool → Bool → Bool) {l l' r r' : Node} :
      N l l' → N r r' →
      Alike N M (.shortCircuit decides combine l r) (.shortCircuit decides combine l' r')
  | strict (c : Combinator) {slots slots' : List Node} :
      List.Forall₂ N slots slots' → Alike N M (.strict c slots) (.strict c slots')

/-- Of related alternatives, the first that is there is related to the first that is there. -/
theorem option_rel_or {a a' b b' : Option Node} (ha : Option.Rel N a a')
    (hb : Option.Rel N b b') : Option.Rel N (a.or b) (a'.or b') := by
  cases ha with
  | none => exact hb
  | some h => exact .some h

/-- Related arguments and defaults fill the slots with related nodes. -/
theorem fillSlots_alike (callee : SymbolId) (index : Nat) {ds ds' as as' : List (Option Node)}
    (hd : List.Forall₂ (Option.Rel N) ds ds') (ha : List.Forall₂ (Option.Rel N) as as') :
    Matches (List.Forall₂ N) (fillSlots callee index ds as) (fillSlots callee index ds' as') := by
  induction hd generalizing index as as' with
  | nil => exact .ok .nil
  | @cons d d' ds ds' hd _ ih =>
    -- Where an argument is omitted, or where there are no more, the default stands in.
    have hhead : Option.Rel N (as.head?.join.or d) (as'.head?.join.or d') := by
      cases ha with
      | nil => exact hd
      | cons h _ => exact option_rel_or h hd
    have htail : List.Forall₂ (Option.Rel N) as.tail as'.tail := by
      cases ha with
      | nil => exact .nil
      | cons _ h => exact h
    unfold fillSlots
    revert hhead
    generalize as.head?.join.or d = slot
    generalize as'.head?.join.or d' = slot'
    intro hhead
    cases hhead with
    | none => exact .error _
    | some h => exact (ih (index + 1) htail).bind fun hrest => .ok (.cons h hrest)

/-- Calls of a declared function fill their slots alike. -/
theorem declaredSlots_alike (callee : SymbolId) {ps ps' : List Parameter}
    {as as' : List (Option Node)} (hp : List.Forall₂ (Parameter.Alike N) ps ps')
    (ha : List.Forall₂ (Option.Rel N) as as') :
    Matches (List.Forall₂ N) (declaredSlots callee ps as) (declaredSlots callee ps' as') := by
  unfold declaredSlots
  rw [hp.length_eq, ha.length_eq]
  split
  · exact .error _
  · refine fillSlots_alike callee 0 ?_ ha
    rw [List.forall₂_map_left_iff, List.forall₂_map_right_iff]
    exact hp.imp fun _ _ h => h.default_rel

/-- Calls of an undeclared operator fill their slots alike. -/
theorem suppliedSlots_alike (callee : SymbolId) {as as' : List (Option Node)}
    (ha : List.Forall₂ (Option.Rel N) as as') :
    Matches (List.Forall₂ N) (suppliedSlots callee as) (suppliedSlots callee as') := by
  refine fillSlots_alike callee 0 ?_ ha
  rw [List.forall₂_map_left_iff, List.forall₂_map_right_iff]
  exact ha.imp fun _ _ _ => .none

/-- The check of an operator's slots sees only their number. -/
theorem Combinator.resolve_alike (c : Combinator) {slots slots' : List Node}
    (h : List.Forall₂ N slots slots') :
    Matches (Resolved.Alike N M) (c.resolve slots) (c.resolve slots') := by
  have hstrict : Matches (Resolved.Alike N M)
      (if slots.length = c.arity then .ok (.strict c slots)
        else .error (.arityMismatch c.arity slots.length))
      (if slots'.length = c.arity then .ok (.strict c slots')
        else .error (.arityMismatch c.arity slots'.length)) := by
    rw [h.length_eq]
    split
    · exact .ok (.strict c h)
    · exact .error _
  cases c with
  | shortCircuit decides combine =>
    -- Exactly two slots make a lazy call; any other number falls through to the check.
    cases h with
    | nil => exact hstrict
    | cons hl h =>
      cases h with
      | nil => exact hstrict
      | cons hr h =>
        cases h with
        | nil => exact .ok (.shortCircuit decides combine hl hr)
        | cons _ _ => exact hstrict
  | _ => exact hstrict

theorem resolveOperator_alike (operators : OperatorTable) (callee : SymbolId)
    {ps ps' : Option (List Parameter)} {as as' : List (Option Node)}
    (hp : Option.Rel (List.Forall₂ (Parameter.Alike N)) ps ps')
    (ha : List.Forall₂ (Option.Rel N) as as') :
    Matches (Resolved.Alike N M) (resolveOperator operators callee ps as)
      (resolveOperator operators callee ps' as') := by
  unfold resolveOperator
  cases operators.get? callee with
  | none => exact .error _
  | some b =>
    cases hp with
    | none => exact (suppliedSlots_alike callee ha).bind fun h => b.combinator.resolve_alike h
    | some hp =>
      exact (declaredSlots_alike callee hp ha).bind fun h => b.combinator.resolve_alike h

/-- Parameters that are alike take related slots under the same variables. -/
theorem zip_variables_alike {ps ps' : List Parameter} {slots slots' : List Node}
    (hp : List.Forall₂ (Parameter.Alike N) ps ps') (h : List.Forall₂ N slots slots') :
    List.Forall₂ (Prod.RProd Eq N) ((ps.map (·.variableId)).zip slots)
      ((ps'.map (·.variableId)).zip slots') := by
  induction hp generalizing slots slots' with
  | nil => exact .nil
  | cons hp _ ih =>
    cases h with
    | nil => exact .nil
    | cons hn h => exact .cons (.intro hp.variableId_eq hn) (ih h)

/-- **Resolution respects likeness**: calls with related arguments resolve alike in
programs that are alike. -/
theorem resolve_alike {p p' : Program} (operators : OperatorTable) (callee : SymbolId)
    {as as' : List (Option Node)}
    (hp : Option.Rel (Declaration.Alike N M) (p.get? callee) (p'.get? callee))
    (ha : List.Forall₂ (Option.Rel N) as as') :
    Matches (Resolved.Alike N M) (resolve p operators callee as)
      (resolve p' operators callee as') := by
  unfold resolve
  revert hp
  generalize p.get? callee = d
  generalize p'.get? callee = d'
  intro hp
  cases hp with
  | none => exact resolveOperator_alike operators callee .none ha
  | @some d d' h =>
    obtain ⟨name, ps, body⟩ := d
    obtain ⟨name', ps', body'⟩ := d'
    have hps : List.Forall₂ (Parameter.Alike N) ps ps' := h.parameters
    have hbody : Option.Rel (Body.Alike M) body body' := h.body
    cases hbody with
    | none => exact resolveOperator_alike operators callee (.some hps) ha
    | some hb =>
      -- A body takes precedence over an operator of the same symbol.
      refine (declaredSlots_alike callee hps ha).bind fun hslots => .ok (.inlined ?_ hb)
      exact zip_variables_alike hps hslots

end ConstFold
