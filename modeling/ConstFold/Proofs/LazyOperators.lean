import ConstFold.Proofs.Calls
import ConstFold.Proofs.Conditionals

/-!
# Lazy operators

Conjunction and disjunction evaluate their right operand only if the left one leaves the result
open.  So do conditionals: a conjunction is its right operand if the left one holds and `false`
else, and a disjunction is `true` if the left one holds and its right operand else.  The one
difference is that the operator insists on truth values, while a conditional passes on what its
result is.  Where both operands are truth values, the operator is the function of two truth
values that it has for operands which are all evaluated.

## Main definitions

* `Builtin.decisive?` — the truth value on the left that settles a lazy operator.
* `Node.lowered` — the conditional in the place of a lazy operator.
* `Lazily` — operands evaluated as far as they are needed.

## Main results

* `evaluates_lazy_iff`, `Lazily.evaluates_lowered`, `exists_lazily_of_lowered` — both do what the
  operands do that are needed.
* `lazy_operator_lowered` — **a lazy operator agrees with its conditional on truth values, takes no
  more steps, and agrees with its combinator.**
-/

namespace ConstFold

open Run

/-! ### The operators -/

/-- The truth value of the left operand that settles a lazy operator. -/
def Builtin.decisive? : Builtin → Option Bool
  | .andAlso => some false
  | .orElse => some true
  | _ => none

/-- The conditional in the place of the lazy operator that `decisive` settles. -/
def Node.lowered (decisive : Bool) (left right : Node) : Node :=
  match decisive with
  | false => .ifElse left right (.bool false)
  | true => .ifElse left (.bool true) right

/-- A lazy operator is settled by one truth value, and is its right operand for the other. -/
theorem Builtin.combinator_of_decisive {b : Builtin} {decisive : Bool}
    (h : b.decisive? = some decisive) :
    ∃ combine, b.combinator = .shortCircuit (· == decisive) combine ∧
      (∀ q, combine decisive q = decisive) ∧ ∀ q, combine (!decisive) q = q := by
  cases b with
  | andAlso =>
    cases h
    refine ⟨fun p q => p && q, ?_, fun q => rfl, fun q => rfl⟩
    rw [Builtin.combinator]
    congr 1
    funext p
    cases p <;> rfl
  | orElse =>
    cases h
    refine ⟨fun p q => p || q, ?_, fun q => rfl, fun q => rfl⟩
    rw [Builtin.combinator]
    congr 1
    funext p
    cases p <;> rfl
  | _ => cases h

/-- The combinator on truth values takes the right one unless the left one is decisive. -/
theorem Builtin.apply_of_decisive {b : Builtin} {decisive : Bool}
    (h : b.decisive? = some decisive) (p q : Bool) :
    b.combinator.apply [.bool p, .bool q] =
      .ok (.bool (if p = decisive then decisive else q)) := by
  obtain ⟨combine, hcombinator, hsettled, hopen⟩ := combinator_of_decisive h
  have happly : b.combinator.apply [.bool p, .bool q] = .ok (.bool (combine p q)) := by
    rw [hcombinator]
    rfl
  rw [happly]
  by_cases hp : p = decisive
  · rw [if_pos hp, hp, hsettled]
  · rw [if_neg hp, Bool.eq_not.2 hp, hopen]

/-! ### Outcomes as truth values -/

/-- What is no truth value is a mismatch. -/
theorem truth_of_ne_bool {a : Value} (h : ∀ q, a ≠ .bool q) :
    truth (.ok a) = .error (.failing (.kindMismatch .bool a.kind)) := by
  cases a with
  | bool q => exact absurd rfl (h q)
  | _ => rfl

/-- To insist on a truth value changes nothing, unless the value is another one. -/
theorem map_truth_eq_or (o : Outcome) :
    (truth o).map Value.bool = o ∨ ∃ a, o = .ok a ∧ (∀ q, a ≠ .bool q) ∧
      (truth o).map Value.bool = .error (.failing (.kindMismatch .bool a.kind)) := by
  cases o with
  | error i => exact .inl rfl
  | ok a =>
    cases a with
    | bool q => exact .inl rfl
    | _ => exact .inr ⟨_, rfl, nofun, rfl⟩

/-! ### Operands as far as they are needed -/

/-- The left operand is evaluated and, if it leaves the result open, the right one after it.  The
outcome is that of the last one, whatever its value is. -/
inductive Lazily (program : Program) (operators : OperatorTable) (decisive : Bool)
    (left right : Node) : Meaning Value
  /-- The left operand settles the result. -/
  | decided {f f' k d} :
      Evaluates program operators (.node left) f (.ok (.bool decisive)) f' k d →
      Lazily program operators decisive left right f (.ok (.bool decisive)) f' k d
  /-- The left operand leaves it open. -/
  | undecided {f f₁ f' o k k' d d'} :
      Evaluates program operators (.node left) f (.ok (.bool !decisive)) f₁ k d →
      Evaluates program operators (.node right) f₁ o f' k' d' →
      Lazily program operators decisive left right f o f' (k + k') (max d d')
  /-- The left operand is interrupted, or is no truth value. -/
  | interrupted {f f' o i k d} :
      Evaluates program operators (.node left) f o f' k d → truth o = .error i →
      Lazily program operators decisive left right f (.error i) f' k d

/-- The right operand is evaluated, in the frame the left one has left, with the outcome `o`. -/
def ConsultsRight (program : Program) (operators : OperatorTable) (decisive : Bool)
    (left right : Node) (f : Frame) (o : Outcome) : Prop :=
  ∃ f₁ k₁ d₁ f₂ k₂ d₂,
    Evaluates program operators (.node left) f (.ok (.bool !decisive)) f₁ k₁ d₁ ∧
      Evaluates program operators (.node right) f₁ o f₂ k₂ d₂

section Meanings

variable {program : Program} {operators : OperatorTable} {s : SymbolId} {b : Builtin}
  {decisive : Bool} {left right : Node} {f f' : Frame} {o : Outcome} {k d : Nat}

/-- Only the right operand has a value that is no truth value. -/
theorem Lazily.consultsRight {a : Value}
    (h : Lazily program operators decisive left right f (.ok a) f' k d)
    (ha : ∀ q, a ≠ .bool q) :
    ConsultsRight program operators decisive left right f (.ok a) := by
  cases h with
  | decided _ => exact absurd rfl (ha decisive)
  | undecided hl hr => exact ⟨_, _, _, _, _, _, hl, hr⟩

/-- A call of an operator with no declaration is resolved by its combinator. -/
theorem resolve_callAll_operator (hb : operators.get? s = some b) (hs : program.get? s = none)
    (nodes : List Node) :
    resolve program operators s (nodes.map some) = b.combinator.resolve nodes := by
  have hbody : program.body? s = none := by rw [Program.body?, hs]; rfl
  have hslots : callSlots s (program.parameters? s) (nodes.map some) = .ok nodes := by
    rw [Program.parameters?, hs]
    exact fillSlots_map_some s 0 (by simp)
  exact resolve_of_operator hbody hb hslots

/-- A lazy operator takes a step and a level more than its operands, and insists on a truth
value. -/
theorem evaluates_lazy_iff (hb : operators.get? s = some b)
    (hdecisive : b.decisive? = some decisive) (hs : program.get? s = none) :
    Evaluates program operators (.node (.callAll s [left, right])) f o f' k d ↔
      ∃ o₀ k₀ d₀, Lazily program operators decisive left right f o₀ f' k₀ d₀ ∧
        o = (truth o₀).map Value.bool ∧ k = k₀ + 1 ∧ d = d₀ + 1 := by
  obtain ⟨combine, hcombinator, -, hopen⟩ := Builtin.combinator_of_decisive hdecisive
  have hresolve : resolve program operators s ([left, right].map some) =
      .ok (.shortCircuit (· == decisive) combine left right) := by
    rw [resolve_callAll_operator hb hs, hcombinator]
    rfl
  constructor
  · intro h
    obtain ⟨hform⟩ := evaluates_node_iff.1 h
    cases hform with
    | call_unresolved hr => cases hresolve.symm.trans hr
    | call_inlined hr _ => cases hresolve.symm.trans hr
    | call_strict hr _ => cases hresolve.symm.trans hr
    | call_decided hr hl ht hp =>
      cases hresolve.symm.trans hr
      obtain rfl := eq_of_beq hp
      rw [truth_eq_ok_iff.1 ht] at hl
      exact ⟨_, _, _, .decided hl, rfl, rfl, rfl⟩
    | @call_undecided _ _ _ _ _ _ _ _ _ _ o' p _ _ _ _ hr hl ht hp hright =>
      cases hresolve.symm.trans hr
      -- What does not decide is the other truth value, where the operator is its right operand.
      obtain rfl : p = !decisive := Bool.eq_not.2 (ne_of_beq_false hp)
      rw [truth_eq_ok_iff.1 ht] at hl
      refine ⟨_, _, _, .undecided hl hright, ?_, rfl, rfl⟩
      simp only [hopen]
    | call_interrupted hr hl ht =>
      cases hresolve.symm.trans hr
      exact ⟨_, _, _, .interrupted hl ht, rfl, rfl, rfl⟩
  · rintro ⟨o₀, k₀, d₀, h, rfl, rfl, rfl⟩
    refine .node ?_
    cases h with
    | decided hl => exact .call_decided hresolve hl rfl (beq_self_eq_true decisive)
    | undecided hl hright =>
      have hother : ((!decisive) == decisive) = false := by cases decisive <;> rfl
      have hcall := Evaluates.call_undecided hresolve hl rfl hother hright
      simp only [hopen] at hcall
      exact hcall
    | interrupted hl ht => exact .call_interrupted hresolve hl ht

/-- The conditional in its place takes up to two steps more than that. -/
theorem Lazily.evaluates_lowered
    (h : Lazily program operators decisive left right f o f' k d) :
    ∃ extra ≤ 2, Evaluates program operators (.node (.lowered decisive left right)) f o f'
      (k + 1 + extra) (d + 1) := by
  have hconst : ∀ g : Frame,
      Evaluates program operators (.node (.bool decisive)) g (.ok (.bool decisive)) g 1 1 :=
    fun g => evaluates_const_iff.2 ⟨rfl, rfl, rfl, rfl⟩
  cases h with
  | decided hl =>
    -- The constant needs no more levels than the left operand has taken.
    have hd := (Nat.max_eq_left hl.nesting_pos).symm
    cases decisive with
    | false =>
      exact ⟨2, Nat.le_refl 2, evaluates_ifElse_iff.2 ⟨_, _, _, _, hl, .inr (.inl ⟨rfl, _, _,
        hconst f', rfl, congrArg (· + 1) hd⟩)⟩⟩
    | true =>
      exact ⟨1, Nat.le_succ 1, evaluates_ifElse_iff.2 ⟨_, _, _, _, hl, .inl ⟨rfl, _, _,
        hconst f', rfl, congrArg (· + 1) hd⟩⟩⟩
  | undecided hl hr =>
    cases decisive with
    | false =>
      exact ⟨0, Nat.zero_le 2, evaluates_ifElse_iff.2 ⟨_, _, _, _, hl, .inl ⟨rfl, _, _, hr, rfl,
        rfl⟩⟩⟩
    | true =>
      exact ⟨1, Nat.le_succ 1, evaluates_ifElse_iff.2 ⟨_, _, _, _, hl, .inr (.inl ⟨rfl, _, _, hr,
        rfl, rfl⟩)⟩⟩
  | interrupted hl ht =>
    refine ⟨0, Nat.zero_le 2, ?_⟩
    cases decisive <;>
      exact evaluates_ifElse_iff.2 ⟨_, _, _, _, hl, .inr (.inr ⟨_, ht, rfl, rfl, rfl, rfl⟩)⟩

/-- Whatever the conditional does the operands do. -/
theorem exists_lazily_of_lowered
    (h : Evaluates program operators (.node (.lowered decisive left right)) f o f' k d) :
    ∃ k₀ d₀, Lazily program operators decisive left right f o f' k₀ d₀ := by
  cases decisive with
  | false =>
    obtain ⟨ol, f₁, kl, dl, hl, ⟨ht, kr, dr, hr, -, -⟩ | ⟨ht, kc, dc, hc, -, -⟩ |
      ⟨i, ht, rfl, rfl, -, -⟩⟩ := evaluates_ifElse_iff.1 h
    · rw [truth_eq_ok_iff.1 ht] at hl
      exact ⟨_, _, .undecided hl hr⟩
    · obtain ⟨rfl, rfl, -, -⟩ := evaluates_const_iff.1 hc
      rw [truth_eq_ok_iff.1 ht] at hl
      exact ⟨_, _, .decided hl⟩
    · exact ⟨_, _, .interrupted hl ht⟩
  | true =>
    obtain ⟨ol, f₁, kl, dl, hl, ⟨ht, kc, dc, hc, -, -⟩ | ⟨ht, kr, dr, hr, -, -⟩ |
      ⟨i, ht, rfl, rfl, -, -⟩⟩ := evaluates_ifElse_iff.1 h
    · obtain ⟨rfl, rfl, -, -⟩ := evaluates_const_iff.1 hc
      rw [truth_eq_ok_iff.1 ht] at hl
      exact ⟨_, _, .decided hl⟩
    · rw [truth_eq_ok_iff.1 ht] at hl
      exact ⟨_, _, .undecided hl hr⟩
    · exact ⟨_, _, .interrupted hl ht⟩

/-- With truth values for both operands, a lazy operator gives what its combinator does, and
takes a step and a level more than the operands at most. -/
theorem evaluates_lazy_of_bools (hb : operators.get? s = some b)
    (hdecisive : b.decisive? = some decisive) (hs : program.get? s = none) {p q : Bool}
    {f₁ f₂ : Frame} {k₁ k₂ d₁ d₂ : Nat}
    (hleft : Evaluates program operators (.node left) f (.ok (.bool p)) f₁ k₁ d₁)
    (hright : Evaluates program operators (.node right) f₁ (.ok (.bool q)) f₂ k₂ d₂) :
    ∃ f' k d, Evaluates program operators (.node (.callAll s [left, right])) f
      (plain (b.combinator.apply [.bool p, .bool q])) f' k d ∧ k ≤ k₁ + k₂ + 1 ∧
        d ≤ max d₁ d₂ + 1 := by
  rw [Builtin.apply_of_decisive hdecisive]
  by_cases hp : p = decisive
  · subst hp
    rw [if_pos rfl]
    exact ⟨_, _, _, (evaluates_lazy_iff hb hdecisive hs).2 ⟨_, _, _, .decided hleft, rfl, rfl, rfl⟩,
      by omega, by omega⟩
  · rw [if_neg hp]
    obtain rfl : p = !decisive := Bool.eq_not.2 hp
    exact ⟨_, _, _, (evaluates_lazy_iff hb hdecisive hs).2 ⟨_, _, _, .undecided hleft hright, rfl,
      rfl, rfl⟩, Nat.le_refl _, Nat.le_refl _⟩

end Meanings

/-! ### Runs -/

/-- A lazy operator that the left operand settles ends where that one does, in the very state. -/
theorem evaluate_lazy_of_decided {context : Context} {s : SymbolId} {b : Builtin} {decisive : Bool}
    (hb : context.operators.get? s = some b) (hdecisive : b.decisive? = some decisive)
    (hs : context.program.get? s = none) {left : Node} (right : Node) {depth : Nat}
    {budget : Budget} {f : Frame} {t : State}
    (hleft : evaluate context (depth + 1) left ⟨budget.spend 1, f⟩ = .ok (.bool decisive) t) :
    evaluate context depth (.callAll s [left, right]) ⟨budget, f⟩ = .ok (.bool decisive) t := by
  -- There is a step and a level for the call, as there are some left for the operand.
  have hne : ¬ ResourceEnd (outcome (evaluate context (depth + 1) left ⟨budget.spend 1, f⟩)) := by
    rw [hleft]
    exact id
  obtain ⟨_, _, k, d, hmeant, hk, hd⟩ := evaluates_of_not_resourceEnd hne
  have hsteps := hmeant.steps_pos
  rw [Budget.remaining_spend] at hk
  obtain ⟨combine, hcombinator, -, -⟩ := Builtin.combinator_of_decisive hdecisive
  have hremaining : 0 < budget.remaining := by omega
  have hrun : evaluate context depth (.callAll s [left, right]) ⟨budget, f⟩ = _ :=
    evaluate_call_eq s ([left, right].map some) hremaining (by omega)
  rw [resolve_callAll_operator hb hs, hcombinator] at hrun
  refine hrun.trans ?_
  exact (evalResolved_shortCircuit _ _ s (· == decisive) combine left right).2.1 decisive t hleft
    (beq_self_eq_true decisive)

/-- **A lazy operator agrees with its conditional on truth values, takes no more steps, and agrees
with its combinator.**  The one has an evaluation if the other has.  Within limits that suffice
for both, the frames are the same and so are the outcomes, except if the right operand is
evaluated to something else than a truth value, which is a mismatch for the operator; the
conditional uses at most two steps more.  If the left operand settles the result, the operator
ends in the state which that one leaves after the step of the call.  And if both operands are
truth values, each in its turn, then the outcome is that of the combinator. -/
theorem lazy_operator_lowered (program : Program) (operators : OperatorTable) {s : SymbolId}
    {b : Builtin} {decisive : Bool} (hb : operators.get? s = some b)
    (hdecisive : b.decisive? = some decisive) (hs : program.get? s = none) (left right : Node)
    (f : Frame) :
    let call := Node.callAll s [left, right]
    let lowered := Node.lowered decisive left right
    ((∃ o f' k d, Evaluates program operators (.node call) f o f' k d) ↔
      ∃ o f' k d, Evaluates program operators (.node lowered) f o f' k d) ∧
    ∀ (limits : Limits) (depth : Nat) (budget : Budget),
      let context : Context := ⟨limits, program, operators⟩
      let r := evaluate context depth call ⟨budget, f⟩
      let r' := evaluate context depth lowered ⟨budget, f⟩
      (¬ ResourceEnd (outcome r) → ¬ ResourceEnd (outcome r') →
        (final r).frame = (final r').frame ∧
        (outcome r = outcome r' ∨ ∃ a,
          ConsultsRight program operators decisive left right f (.ok a) ∧ (∀ q, a ≠ .bool q) ∧
            outcome r' = .ok a ∧ outcome r = .error (.failing (.kindMismatch .bool a.kind))) ∧
        (final r).budget.used ≤ (final r').budget.used ∧
        (final r').budget.used ≤ (final r).budget.used + 2) ∧
      (¬ ResourceEnd (outcome r) → ∀ a,
        ConsultsRight program operators decisive left right f (.ok a) → (∀ q, a ≠ .bool q) →
          outcome r = .error (.failing (.kindMismatch .bool a.kind))) ∧
      (∀ t, evaluate context (depth + 1) left ⟨budget.spend 1, f⟩ = .ok (.bool decisive) t →
        r = .ok (.bool decisive) t) ∧
      ∀ p q f₁ f₂ k₁ k₂ d₁ d₂,
        Evaluates program operators (.node left) f (.ok (.bool p)) f₁ k₁ d₁ →
        Evaluates program operators (.node right) f₁ (.ok (.bool q)) f₂ k₂ d₂ →
        (¬ ResourceEnd (outcome r) →
          outcome r = plain (b.combinator.apply [.bool p, .bool q])) ∧
        (k₁ + k₂ + 1 ≤ budget.remaining → depth + (max d₁ d₂ + 1) ≤ limits.maxDepth →
          ¬ ResourceEnd (outcome r)) := by
  intro call lowered
  refine ⟨⟨?_, ?_⟩, fun limits depth budget => ?_⟩
  · rintro ⟨_, f', _, _, h⟩
    obtain ⟨o₀, k₀, d₀, hlazily, -⟩ := (evaluates_lazy_iff hb hdecisive hs).1 h
    obtain ⟨extra, -, hlowered⟩ := hlazily.evaluates_lowered
    exact ⟨_, _, _, _, hlowered⟩
  · rintro ⟨_, f', _, _, h⟩
    obtain ⟨k₀, d₀, hlazily⟩ := exists_lazily_of_lowered h
    exact ⟨_, _, _, _, (evaluates_lazy_iff hb hdecisive hs).2 ⟨_, _, _, hlazily, rfl, rfl, rfl⟩⟩
  intro context r r'
  refine ⟨fun hr hr' => ?_, fun hr a hright ha => ?_,
    fun t hleft => evaluate_lazy_of_decided hb hdecisive hs right hleft,
    fun p q f₁ f₂ k₁ k₂ d₁ d₂ hleft hright => ?_⟩
  · obtain ⟨o, f', k, d, hmeant, -, -⟩ := evaluates_of_not_resourceEnd hr
    obtain ⟨o₀, k₀, d₀, hlazily, rfl, rfl, rfl⟩ := (evaluates_lazy_iff hb hdecisive hs).1 hmeant
    obtain ⟨extra, hextra, hlowered⟩ := hlazily.evaluates_lowered
    obtain ⟨ho, hf, hused⟩ := hmeant.run_eq hr
    obtain ⟨ho', hf', hused'⟩ := hlowered.run_eq hr'
    have hsteps : (final r').budget.used = (final r).budget.used + extra := by
      rw [hused, hused', ← Nat.add_assoc budget.used]
    refine ⟨hf.trans hf'.symm, ?_, by omega, by omega⟩
    rcases map_truth_eq_or o₀ with hsame | ⟨a, rfl, ha, hmismatch⟩
    · exact .inl (ho.trans (hsame.trans ho'.symm))
    · exact .inr ⟨a, hlazily.consultsRight ha, ha, ho', ho.trans hmismatch⟩
  · obtain ⟨f₁, k₁, d₁, f₂, k₂, d₂, hl, hr₁⟩ := hright
    have hmeant := (evaluates_lazy_iff hb hdecisive hs).2
      ⟨_, _, _, .undecided hl hr₁, rfl, rfl, rfl⟩
    rw [truth_of_ne_bool ha] at hmeant
    exact (hmeant.run_eq hr).1
  · obtain ⟨f', k, d, hmeant, hk, hd⟩ := evaluates_lazy_of_bools hb hdecisive hs hleft hright
    exact ⟨fun hr => (hmeant.run_eq hr).1, fun hsteps hdepth =>
      hmeant.not_resourceEnd_evaluate limits depth budget (by omega) (by omega)⟩

/-- A disjunction of `false` and an integer is a mismatch, though there are steps to spare. -/
theorem lazy_operator_lowered_int :
    let s := Builtin.orElse.symbol
    OperatorTable.reserved.get? s = some .orElse ∧ Builtin.orElse.decisive? = some true ∧
      (Bindings.empty : Program).get? s = none ∧
      outcome (evaluate ⟨⟨9, 3⟩, .empty, .reserved⟩ 0 (.callAll s [.bool false, .int 7])
        ⟨.full 9, .empty⟩) = .error (.failing (.kindMismatch .bool .int)) := by
  intro s
  have hs := OperatorTable.get?_reserved .orElse
  refine ⟨hs, rfl, rfl, ?_⟩
  have hboth := (lazy_operator_lowered .empty .reserved hs rfl rfl (.bool false) (.int 7) .empty).2
  refine (hboth ⟨9, 3⟩ 0 (.full 9)).2.1 nofun (.int 7) ?_ nofun
  exact ⟨_, _, _, _, _, _, evaluates_const_iff.2 ⟨rfl, rfl, rfl, rfl⟩,
    evaluates_const_iff.2 ⟨rfl, rfl, rfl, rfl⟩⟩

end ConstFold
