import ConstFold.Evaluation.Node
import Mathlib.Data.List.Nodup
import Mathlib.Logic.Embedding.Basic

/-!
# New identities for old

A renaming gives each variable, loop and symbol a new identity, distinct ones to distinct
ones.  It is carried through everything that identities occur in: nodes, programs,
operator tables, frames, and the failures that name one.  Lookups and the resolution of
calls commute with it, as they only ever ask whether two identities are the same.

## Main definitions

* `Renaming` — three injective functions, one for each kind of identity.
* `Bindings.relabel` — a map with other keys and values.
* `Node.rename`, `Body.rename`, `Declaration.rename`, `Program.rename`,
  `OperatorTable.rename`, `Frame.rename`, `Failure.rename`, `Resolved.rename` — the
  renaming of each of these.
* `renamedResult` — the renaming of a plain result.

## Main results

* `Bindings.get?_relabel`, `Bindings.relabel_insert` — lookup and binding after relabelling.
* `Builtin.renamedResult_apply` — operators fail without naming an identity.
* `resolve_rename` — **the resolution of calls commutes with renaming.**
-/

namespace ConstFold

/-- New identities, distinct for distinct old ones. -/
structure Renaming where
  /-- The new variables. -/
  variableId : VariableId ↪ VariableId
  /-- The new loops. -/
  loopId : LoopId ↪ LoopId
  /-- The new symbols. -/
  symbolId : SymbolId ↪ SymbolId

/-! ### Maps with other keys -/

namespace Bindings

universe u v

variable {κ κ' : Type u} {α β : Type v}

/-- The map with its keys sent through `e` and its values through `g`. -/
def relabel (e : κ ↪ κ') (g : α → β) (m : Bindings κ α) : Bindings κ' β where
  entries := m.entries.map (Prod.map e g)
  nodup := by
    have hkeys : (m.entries.map (Prod.map e g)).map Prod.fst = (m.entries.map Prod.fst).map e := by
      rw [List.map_map, List.map_map]
      rfl
    rw [hkeys]
    exact List.Nodup.map e.injective m.nodup

variable (e : κ ↪ κ') (g : α → β)

variable [DecidableEq κ] [DecidableEq κ']

theorem lookup_map (k : κ) (l : List (κ × α)) :
    (l.map (Prod.map e g)).lookup (e k) = (l.lookup k).map g := by
  induction l with
  | nil => rfl
  | cons entry rest ih =>
    rw [List.map_cons, lookup_cons_eq_ite, lookup_cons_eq_ite, ih]
    by_cases h : k = entry.1
    · simp [h]
    · have he : e k ≠ e entry.1 := fun he => h (e.injective he)
      simp [h, he]

/-- A new key has the new value of the old key. -/
@[simp] theorem get?_relabel (m : Bindings κ α) (k : κ) :
    (m.relabel e g).get? (e k) = (m.get? k).map g :=
  lookup_map e g k m.entries

theorem map_put (k : κ) (a : α) (l : List (κ × α)) :
    (put k a l).map (Prod.map e g) = put (e k) (g a) (l.map (Prod.map e g)) := by
  induction l with
  | nil => rfl
  | cons entry rest ih =>
    rw [put_cons, List.map_cons, put_cons]
    by_cases h : entry.1 = k
    · simp [h]
    · have he : e entry.1 ≠ e k := fun he => h (e.injective he)
      simp [h, he, ih]

/-- To bind a key and relabel is to relabel and bind the new key. -/
@[simp] theorem relabel_insert (m : Bindings κ α) (k : κ) (a : α) :
    (m.insert k a).relabel e g = (m.relabel e g).insert (e k) (g a) :=
  Bindings.ext (map_put e g k a m.entries)

end Bindings

/-! ### Nodes -/

variable (ρ : Renaming)

mutual

/-- The node with its identities renamed. -/
def Node.rename (ρ : Renaming) : Node → Node
  | .const constant => .const constant
  | .get v => .get (ρ.variableId v)
  | .set v value => .set (ρ.variableId v) (value.rename ρ)
  | .declare v initializer => .declare (ρ.variableId v) (renameOption ρ initializer)
  | .block statements => .block (renameAll ρ statements)
  | .call callee arguments => .call (ρ.symbolId callee) (renameArguments ρ arguments)
  | .ret value => .ret (renameOption ρ value)
  | .choose branches => .choose (renameBranches ρ branches)
  | .loop id kind condition body =>
      .loop (ρ.loopId id) kind (condition.rename ρ) (renameOption ρ body)
  | .breakTo target => .breakTo (ρ.loopId target)
  | .continueTo target => .continueTo (ρ.loopId target)
  | .typeOperation operator argument => .typeOperation operator (argument.rename ρ)

/-- An optional node, renamed. -/
def Node.renameOption (ρ : Renaming) : Option Node → Option Node
  | none => none
  | some node => some (node.rename ρ)

/-- Nodes in order, renamed. -/
def Node.renameAll (ρ : Renaming) : List Node → List Node
  | [] => []
  | node :: rest => node.rename ρ :: renameAll ρ rest

/-- The arguments of a call, renamed. -/
def Node.renameArguments (ρ : Renaming) : List (Option Node) → List (Option Node)
  | [] => []
  | argument :: rest => renameOption ρ argument :: renameArguments ρ rest

/-- The branches of a conditional, renamed. -/
def Node.renameBranches (ρ : Renaming) : List (Node × Node) → List (Node × Node)
  | [] => []
  | (condition, result) :: rest =>
      (condition.rename ρ, result.rename ρ) :: renameBranches ρ rest

end

namespace Node

theorem renameOption_eq_map (o : Option Node) : renameOption ρ o = o.map (rename ρ) := by
  cases o <;> rfl

theorem renameAll_eq_map (ns : List Node) : renameAll ρ ns = ns.map (rename ρ) := by
  induction ns with
  | nil => rfl
  | cons n ns ih => rw [renameAll, ih, List.map_cons]

theorem renameArguments_eq_map (as : List (Option Node)) :
    renameArguments ρ as = as.map (Option.map (rename ρ)) := by
  induction as with
  | nil => rfl
  | cons a as ih => rw [renameArguments, ih, renameOption_eq_map, List.map_cons]

theorem renameBranches_eq_map (bs : List (Node × Node)) :
    renameBranches ρ bs = bs.map (Prod.map (rename ρ) (rename ρ)) := by
  induction bs with
  | nil => rfl
  | cons b bs ih => rw [renameBranches, ih, List.map_cons, Prod.map]

end Node

/-! ### Programs and frames -/

/-- The body of a function, renamed. -/
def Body.rename : Body → Body
  | .block statements => .block (statements.map (Node.rename ρ))
  | .expression node => .expression (node.rename ρ)

/-- A parameter, renamed. -/
def Parameter.rename (p : Parameter) : Parameter :=
  ⟨ρ.variableId p.variableId, p.default?.map (Node.rename ρ)⟩

/-- A declaration, renamed; its name is no identity. -/
def Declaration.rename (d : Declaration) : Declaration :=
  ⟨d.name, d.parameters.map (Parameter.rename ρ), d.body?.map (Body.rename ρ)⟩

/-- The declarations, renamed, under the new symbols. -/
def Program.rename (p : Program) : Program := p.relabel ρ.symbolId (Declaration.rename ρ)

/-- The operators under the new symbols. -/
def OperatorTable.rename (t : OperatorTable) : OperatorTable := t.relabel ρ.symbolId id

/-- The values under the new variables. -/
def Frame.rename (f : Frame) : Frame := f.relabel ρ.variableId id

/-! ### Failures and plain results -/

/-- A failure with the identity that it names, if it names one, renamed. -/
def Failure.rename : Failure → Failure
  | .unboundVariable v => .unboundVariable (ρ.variableId v)
  | .unknownCallee callee => .unknownCallee (ρ.symbolId callee)
  | .missingArgument callee index => .missingArgument (ρ.symbolId callee) index
  | .abnormalExit callee => .abnormalExit (ρ.symbolId callee)
  | f => f

section

variable {α β γ δ : Type}

/-- A plain result, with its value sent through `g` or its failure renamed. -/
def renamedResult (g : α → β) : Except Failure α → Except Failure β
  | .ok a => .ok (g a)
  | .error f => .error (f.rename ρ)

/-- To rename a result whose value is kept is to rename its failure. -/
theorem renamedResult_id (e : Except Failure α) :
    renamedResult ρ id e = e.mapError (Failure.rename ρ) := by
  cases e <;> rfl

/-- Results in two steps are renamed step by step. -/
theorem renamedResult_bind {g : α → β} {h : γ → δ} {f : α → Except Failure γ}
    {f' : β → Except Failure δ} (hf : ∀ a, f' (g a) = renamedResult ρ h (f a))
    (x : Except Failure α) :
    (renamedResult ρ g x >>= f') = renamedResult ρ h (x >>= f) := by
  cases x with
  | ok a => exact hf a
  | error e => rfl

/-- The same where the first step names no identity. -/
theorem renamedResult_bind_self {h : γ → δ} {f : α → Except Failure γ} {f' : α → Except Failure δ}
    {x : Except Failure α} (hx : renamedResult ρ id x = x)
    (hf : ∀ a, f' a = renamedResult ρ h (f a)) : (x >>= f') = renamedResult ρ h (x >>= f) := by
  have hbind := renamedResult_bind (g := id) ρ hf x
  rwa [hx] at hbind

end

/-! ### Variables, values and operators -/

/-- The new variable is read from the renamed frame as the old one from the old frame. -/
theorem Frame.read_rename (f : Frame) (v : VariableId) :
    Frame.read (f.rename ρ) (ρ.variableId v) = renamedResult ρ id (f.read v) := by
  unfold Frame.read Frame.rename
  rw [Bindings.get?_relabel]
  cases f.get? v <;> rfl

theorem Frame.rename_insert (f : Frame) (v : VariableId) (a : Value) :
    Frame.rename ρ (f.insert v a) = (f.rename ρ).insert (ρ.variableId v) a :=
  Bindings.relabel_insert _ _ _ _ _

theorem Value.renamedResult_asInt (v : Value) : renamedResult ρ id v.asInt = v.asInt := by
  cases v <;> rfl

theorem Value.renamedResult_asBool (v : Value) : renamedResult ρ id v.asBool = v.asBool := by
  cases v <;> rfl

theorem Value.renamedResult_asText (v : Value) : renamedResult ρ id v.asText = v.asText := by
  cases v <;> rfl

theorem Constant.renamedResult_value (c : Constant) : renamedResult ρ id c.value = c.value := by
  cases c <;> rfl

/-- A combinator names no identity in its failures, provided that the function inside does
not. -/
theorem Combinator.renamedResult_apply {c : Combinator}
    (h : ∀ f, c = .intBinary f → ∀ i j, renamedResult ρ id (f i j) = f i j) (args : List Value) :
    renamedResult ρ id (c.apply args) = c.apply args := by
  have hint := Value.renamedResult_asInt ρ
  have hbool := Value.renamedResult_asBool ρ
  have htext := Value.renamedResult_asText ρ
  symm
  unfold Combinator.apply
  -- One case for each form with its arguments; the last is a wrong number of them.
  split
  · exact renamedResult_bind_self ρ (hint _) fun _ => rfl
  · next f a b =>
    refine renamedResult_bind_self ρ (hint _) fun i => ?_
    refine renamedResult_bind_self ρ (hint _) fun j => ?_
    exact renamedResult_bind_self ρ (h f rfl i j) fun _ => rfl
  · exact renamedResult_bind_self ρ (hint _) fun _ =>
      renamedResult_bind_self ρ (hint _) fun _ => rfl
  · exact renamedResult_bind_self ρ (hbool _) fun _ => rfl
  · exact renamedResult_bind_self ρ (hbool _) fun _ =>
      renamedResult_bind_self ρ (hbool _) fun _ => rfl
  · exact renamedResult_bind_self ρ (htext _) fun _ =>
      renamedResult_bind_self ρ (htext _) fun _ => rfl
  · rfl

/-- Operators fail without naming an identity. -/
theorem Builtin.renamedResult_apply (b : Builtin) (args : List Value) :
    renamedResult ρ id (b.combinator.apply args) = b.combinator.apply args := by
  refine Combinator.renamedResult_apply ρ (fun f hf i j => ?_) args
  -- The operators whose function can fail are the two that divide.
  cases b <;> cases hf
  case intDiv =>
    unfold quotient
    split <;> rfl
  case intRem =>
    unfold remainder
    split <;> rfl
  all_goals rfl

/-! ### Resolution -/

/-- A resolved call, renamed. -/
def Resolved.rename : Resolved → Resolved
  | .inlined slots body =>
      .inlined (slots.map (Prod.map ρ.variableId (Node.rename ρ))) (body.rename ρ)
  | .shortCircuit decides combine left right =>
      .shortCircuit decides combine (left.rename ρ) (right.rename ρ)
  | .strict combinator slots => .strict combinator (slots.map (Node.rename ρ))

theorem fillSlots_rename (callee : SymbolId) (index : Nat) (ds as : List (Option Node)) :
    fillSlots (ρ.symbolId callee) index (ds.map (Option.map (Node.rename ρ)))
        (as.map (Option.map (Node.rename ρ))) =
      renamedResult ρ (List.map (Node.rename ρ)) (fillSlots callee index ds as) := by
  induction ds generalizing index as with
  | nil => rfl
  | cons d ds ih =>
    have hslot : (as.map (Option.map (Node.rename ρ))).head?.join.or (d.map (Node.rename ρ)) =
        (as.head?.join.or d).map (Node.rename ρ) := by
      cases as with
      | nil => rfl
      | cons a rest => cases a <;> rfl
    rw [List.map_cons]
    unfold fillSlots
    rw [hslot, ← List.map_tail, ih (index + 1) as.tail]
    cases as.head?.join.or d with
    | none => rfl
    | some node =>
      exact renamedResult_bind (g := List.map (Node.rename ρ)) (f := fun rest => .ok (node :: rest))
        ρ (fun _ => rfl) _

theorem declaredSlots_rename (callee : SymbolId) (ps : List Parameter) (as : List (Option Node)) :
    declaredSlots (ρ.symbolId callee) (ps.map (Parameter.rename ρ))
        (as.map (Option.map (Node.rename ρ))) =
      renamedResult ρ (List.map (Node.rename ρ)) (declaredSlots callee ps as) := by
  have hdefaults : (ps.map (Parameter.rename ρ)).map (·.default?) =
      (ps.map (·.default?)).map (Option.map (Node.rename ρ)) := by
    rw [List.map_map, List.map_map]
    rfl
  unfold declaredSlots
  rw [List.length_map, List.length_map, hdefaults, fillSlots_rename]
  split <;> rfl

theorem suppliedSlots_rename (callee : SymbolId) (as : List (Option Node)) :
    suppliedSlots (ρ.symbolId callee) (as.map (Option.map (Node.rename ρ))) =
      renamedResult ρ (List.map (Node.rename ρ)) (suppliedSlots callee as) := by
  have hdefaults : (as.map (Option.map (Node.rename ρ))).map (fun _ => (none : Option Node)) =
      (as.map fun _ => none).map (Option.map (Node.rename ρ)) := by
    rw [List.map_map, List.map_map]
    rfl
  unfold suppliedSlots
  rw [hdefaults, fillSlots_rename]

theorem Combinator.resolve_rename (c : Combinator) (slots : List Node) :
    c.resolve (slots.map (Node.rename ρ)) =
      renamedResult ρ (Resolved.rename ρ) (c.resolve slots) := by
  have hstrict : (if (slots.map (Node.rename ρ)).length = c.arity then
        Except.ok (Resolved.strict c (slots.map (Node.rename ρ)))
      else .error (.arityMismatch c.arity (slots.map (Node.rename ρ)).length)) =
      renamedResult ρ (Resolved.rename ρ) (if slots.length = c.arity then .ok (.strict c slots)
        else .error (.arityMismatch c.arity slots.length)) := by
    rw [List.length_map]
    split <;> rfl
  cases c with
  | shortCircuit decides combine =>
    -- Exactly two slots make a lazy call; any other number falls through to the check.
    match slots with
    | [] | [_] | _ :: _ :: _ :: _ => exact hstrict
    | [_, _] => rfl
  | _ => exact hstrict

theorem Combinator.eq_of_resolve_eq_strict {c c' : Combinator} {slots slots' : List Node}
    (h : c.resolve slots = .ok (.strict c' slots')) : c' = c ∧ slots'.length = c.arity := by
  unfold Combinator.resolve at h
  split at h
  · cases h
  · split at h
    · next harity =>
      cases h
      exact ⟨rfl, harity⟩
    · cases h

theorem resolveOperator_rename (operators : OperatorTable) (callee : SymbolId)
    (ps : Option (List Parameter)) (as : List (Option Node)) :
    resolveOperator (operators.rename ρ) (ρ.symbolId callee)
        (ps.map (List.map (Parameter.rename ρ))) (as.map (Option.map (Node.rename ρ))) =
      renamedResult ρ (Resolved.rename ρ) (resolveOperator operators callee ps as) := by
  have hget : (operators.rename ρ).get? (ρ.symbolId callee) = operators.get? callee := by
    unfold OperatorTable.rename
    rw [Bindings.get?_relabel, Option.map_id, id]
  unfold resolveOperator
  rw [hget]
  cases operators.get? callee with
  | none => rfl
  | some b =>
    have hresolve := b.combinator.resolve_rename ρ
    cases ps with
    | none =>
      simp only [Option.map_none, suppliedSlots_rename]
      exact renamedResult_bind ρ hresolve _
    | some ps =>
      simp only [Option.map_some, declaredSlots_rename]
      exact renamedResult_bind ρ hresolve _

/-- The variables of parameters take the slots after renaming as before. -/
theorem zip_variables_rename (ps : List Parameter) (slots : List Node) :
    ((ps.map (Parameter.rename ρ)).map (·.variableId)).zip (slots.map (Node.rename ρ)) =
      ((ps.map (·.variableId)).zip slots).map (Prod.map ρ.variableId (Node.rename ρ)) := by
  rw [List.map_map, ← List.zip_map, List.map_map]
  rfl

/-- **The resolution of calls commutes with renaming.** -/
theorem resolve_rename (program : Program) (operators : OperatorTable) (callee : SymbolId)
    (as : List (Option Node)) :
    resolve (program.rename ρ) (operators.rename ρ) (ρ.symbolId callee)
        (as.map (Option.map (Node.rename ρ))) =
      renamedResult ρ (Resolved.rename ρ) (resolve program operators callee as) := by
  unfold resolve Program.rename
  rw [Bindings.get?_relabel]
  cases program.get? callee with
  | none => exact resolveOperator_rename ρ operators callee none as
  | some d =>
    obtain ⟨name, ps, body⟩ := d
    cases body with
    | none => exact resolveOperator_rename ρ operators callee (some ps) as
    | some b =>
      simp only [Option.map_some, Declaration.rename, declaredSlots_rename]
      refine renamedResult_bind ρ (fun slots => ?_) _
      rw [zip_variables_rename]
      rfl

theorem exists_of_bind_eq_ok {α β : Type} {x : Except Failure α} {f : α → Except Failure β} {b : β}
    (h : (x >>= f) = .ok b) : ∃ a, f a = .ok b := by
  cases x with
  | ok a => exact ⟨a, h⟩
  | error e => cases h

theorem exists_builtin_of_resolveOperator_eq_strict {operators : OperatorTable} {callee : SymbolId}
    {ps : Option (List Parameter)} {as : List (Option Node)} {c : Combinator} {slots : List Node}
    (h : resolveOperator operators callee ps as = .ok (.strict c slots)) :
    ∃ b : Builtin, c = b.combinator ∧ slots.length = b.combinator.arity := by
  unfold resolveOperator at h
  split at h
  · cases h
  · next b _ =>
    have hfilled : ∃ filled, b.combinator.resolve filled = .ok (.strict c slots) := by
      cases ps with
      | none => exact exists_of_bind_eq_ok h
      | some ps => exact exists_of_bind_eq_ok h
    obtain ⟨filled, hb⟩ := hfilled
    exact ⟨b, Combinator.eq_of_resolve_eq_strict hb⟩

/-- The combinators that are applied are those of operators, to as many slots as they take. -/
theorem exists_builtin_of_resolve_eq_strict {program : Program} {operators : OperatorTable}
    {callee : SymbolId} {as : List (Option Node)} {c : Combinator} {slots : List Node}
    (h : resolve program operators callee as = .ok (.strict c slots)) :
    ∃ b : Builtin, c = b.combinator ∧ slots.length = b.combinator.arity := by
  unfold resolve at h
  split at h
  · obtain ⟨filled, hi⟩ := exists_of_bind_eq_ok h
    cases hi
  · exact exists_builtin_of_resolveOperator_eq_strict h
  · exact exists_builtin_of_resolveOperator_eq_strict h

end ConstFold
