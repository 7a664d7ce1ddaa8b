import ConstFold.Proofs.Denotation
import ConstFold.Proofs.Lookups

/-!
# Well-kinded expressions

An expression is a tree of constants, conditionals with an alternative, and calls of operators
that are registered and not declared, where each part has the kind that its place requires.  What
an expression denotes is put together from what its parts denote.  The evaluator finds just that,
in any frame and within any limits, unless it runs out of a resource; and it does not if it has a
step for each node and a level for each level of the tree.  There is no mismatch of kinds, no call
that is refused and no jump.  The one failure that is left is to divide by zero.

## Main definitions

* `Expression`, `Arguments` — expressions of a kind, and arguments of given kinds.
* `Expression.toNode`, `Expression.size`, `Expression.height` — expressions as trees of nodes.
* `Expression.denote` — what an expression denotes, if no zero divisor is reached.
* `Expression.DividesByZero` — a zero divisor is reached.

## Main results

* `Expression.denote_eq_none_iff` — an expression denotes nothing exactly if a zero divisor is
  reached in it.
* `Expression.evaluates` — **an expression means what it denotes.**
* `evaluate_expression` — the same of the evaluator, within any limits.
-/

namespace ConstFold

open Run

/-! ### Expressions -/

mutual

/-- An expression of a kind. -/
inductive Expression (program : Program) (operators : OperatorTable) : Kind → Type
  /-- An integer constant. -/
  | int (i : Int32) : Expression program operators .int
  /-- A truth value. -/
  | bool (p : Bool) : Expression program operators .bool
  /-- A text. -/
  | text (s : String) : Expression program operators .text
  /-- A conditional with an alternative, both of one kind. -/
  | ifElse {κ : Kind} (condition : Expression program operators .bool)
      (result alternative : Expression program operators κ) : Expression program operators κ
  /-- A call of an operator with arguments of the kinds it takes. -/
  | call (s : SymbolId) (b : Builtin) (registered : operators.get? s = some b)
      (undeclared : program.get? s = none)
      (arguments : Arguments program operators b.combinator.parameterKinds) :
      Expression program operators b.combinator.resultKind

/-- Arguments of the kinds, in order. -/
inductive Arguments (program : Program) (operators : OperatorTable) : List Kind → Type
  /-- No arguments. -/
  | nil : Arguments program operators []
  /-- An argument before others. -/
  | cons {κ : Kind} {κs : List Kind} (head : Expression program operators κ)
      (tail : Arguments program operators κs) : Arguments program operators (κ :: κs)

end

variable {program : Program} {operators : OperatorTable} {κ : Kind} {κs : List Kind}

/-- The property holds of each argument. -/
def Arguments.All (motive : (κ : Kind) → Expression program operators κ → Prop) :
    {κs : List Kind} → Arguments program operators κs → Prop
  | [], .nil => True
  | κ :: _, .cons x xs => motive κ x ∧ xs.All motive

/-- What holds of an expression as soon as it holds of its parts holds of every expression. -/
theorem Expression.induction {motive : (κ : Kind) → Expression program operators κ → Prop}
    (int : ∀ i, motive .int (.int i)) (bool : ∀ p, motive .bool (.bool p))
    (text : ∀ s, motive .text (.text s))
    (ifElse : ∀ {κ} q r e, motive .bool q → motive κ r → motive κ e → motive κ (.ifElse q r e))
    (call : ∀ s b hb hs args, args.All motive → motive _ (.call s b hb hs args))
    {κ : Kind} (e : Expression program operators κ) : motive κ e :=
  @Expression.rec program operators motive (fun _ args => args.All motive) int bool text ifElse
    call trivial (fun _ _ hx hxs => ⟨hx, hxs⟩) κ e

/-! ### Trees of nodes -/

mutual

/-- The expression as a tree of nodes. -/
def Expression.toNode : {κ : Kind} → Expression program operators κ → Node
  | _, .int i => .int i
  | _, .bool p => .bool p
  | _, .text s => .text s
  | _, .ifElse q r e => .ifElse q.toNode r.toNode e.toNode
  | _, .call s _ _ _ args => .callAll s args.toNodes

/-- The arguments as trees of nodes. -/
def Arguments.toNodes : {κs : List Kind} → Arguments program operators κs → List Node
  | _, .nil => []
  | _, .cons x xs => x.toNode :: xs.toNodes

end

mutual

/-- The number of constants, conditionals and calls.  The constant under which the alternative of
a conditional stands is not counted. -/
def Expression.size : {κ : Kind} → Expression program operators κ → Nat
  | _, .int _ => 1
  | _, .bool _ => 1
  | _, .text _ => 1
  | _, .ifElse q r e => q.size + r.size + e.size + 1
  | _, .call _ _ _ _ args => args.size + 1

/-- The number of them in all arguments. -/
def Arguments.size : {κs : List Kind} → Arguments program operators κs → Nat
  | _, .nil => 0
  | _, .cons x xs => x.size + xs.size

end

mutual

/-- The number of levels. -/
def Expression.height : {κ : Kind} → Expression program operators κ → Nat
  | _, .int _ => 1
  | _, .bool _ => 1
  | _, .text _ => 1
  | _, .ifElse q r e => max q.height (max r.height e.height) + 1
  | _, .call _ _ _ _ args => args.height + 1

/-- The number of levels of the highest argument. -/
def Arguments.height : {κs : List Kind} → Arguments program operators κs → Nat
  | _, .nil => 0
  | _, .cons x xs => max x.height xs.height

end

theorem Expression.size_pos (e : Expression program operators κ) : 0 < e.size := by
  cases e <;> exact Nat.succ_pos _

theorem Arguments.length_toNodes (args : Arguments program operators κs) :
    args.toNodes.length = κs.length := by
  induction κs with
  | nil =>
    cases args
    rfl
  | cons κ κs ih =>
    cases args with
    | cons x xs => exact congrArg (· + 1) (ih xs)

/-! ### What expressions denote -/

mutual

/-- What an expression denotes, if no zero divisor is reached. -/
def Expression.denote : {κ : Kind} → Expression program operators κ → Option κ.Carrier
  | _, .int i => some i
  | _, .bool p => some p
  | _, .text s => some s
  | _, .ifElse q r e => q.denote.bind fun p : Bool => if p then r.denote else e.denote
  | _, .call _ b _ _ args => b.denote args.denote

/-- What arguments denote. -/
def Arguments.denote : {κs : List Kind} → Arguments program operators κs → Operands κs
  | _, .nil => ()
  | _, .cons x xs => (x.denote, xs.denote)

end

mutual

/-- A zero divisor is reached in the expression: in a part that is needed, or in the call itself. -/
def Expression.DividesByZero : {κ : Kind} → Expression program operators κ → Prop
  | _, .int _ => False
  | _, .bool _ => False
  | _, .text _ => False
  | _, .ifElse q r e => q.DividesByZero ∨ q.denote = some true ∧ r.DividesByZero ∨
      q.denote = some false ∧ e.DividesByZero
  | _, .call _ b _ _ args => args.DivideByZero b.decisive? ∨
      b.Divides ∧ ∃ a, args.denote.values? = some [a, .int 0]

/-- A zero divisor is reached in one of the arguments.  Those before it denote values, and none of
these is the decisive truth value, if there is one. -/
def Arguments.DivideByZero (decisive? : Option Bool) :
    {κs : List Kind} → Arguments program operators κs → Prop
  | [], .nil => False
  | κ :: _, .cons x xs => x.DividesByZero ∨
      (∃ a, x.denote = some a ∧ decisive?.map Value.bool ≠ some (κ.value a)) ∧
        xs.DivideByZero decisive?

end

/-- Without a decisive truth value, a zero divisor is reached unless all arguments denote values. -/
theorem Arguments.divideByZero_none_iff (args : Arguments program operators κs)
    (h : args.All fun _ e => e.denote = none ↔ e.DividesByZero) :
    args.DivideByZero none ↔ args.denote.values? = none := by
  induction κs with
  | nil =>
    cases args
    exact iff_of_false id nofun
  | cons κ κs ih =>
    cases args with
    | cons x xs =>
      show x.DividesByZero ∨ (∃ a, x.denote = some a ∧ _) ∧ xs.DivideByZero none ↔
        (x.denote.bind fun a => xs.denote.values?.map _) = none
      have hx : x.denote = none ↔ x.DividesByZero := h.1
      rw [← hx, ih xs h.2]
      cases x.denote with
      | none => simp
      | some a => simp

/-- So it is with a lazy operator, unless the left operand settles the result. -/
theorem Arguments.divideByZero_some_iff {decisive : Bool} {l r : Expression program operators .bool}
    (hl : l.denote = none ↔ l.DividesByZero) (hr : r.denote = none ↔ r.DividesByZero) :
    (Arguments.cons l (.cons r .nil)).DivideByZero (some decisive) ↔
      Builtin.lazily decisive l.denote r.denote = none := by
  show l.DividesByZero ∨
    (∃ p : Bool, l.denote = some p ∧ some (Value.bool decisive) ≠ some (.bool p)) ∧
      (r.DividesByZero ∨ _ ∧ False) ↔ (l.denote.bind fun p : Bool => _) = none
  rw [← hl, ← hr]
  cases l.denote with
  | none => simp
  | some p =>
    by_cases hp : p = decisive
    · simp [hp]
    · simp [hp, Ne.symm hp]

/-- **An expression denotes nothing exactly if a zero divisor is reached in it.** -/
theorem Expression.denote_eq_none_iff (e : Expression program operators κ) :
    e.denote = none ↔ e.DividesByZero := by
  induction e using Expression.induction with
  | int i => exact iff_of_false nofun id
  | bool p => exact iff_of_false nofun id
  | text s => exact iff_of_false nofun id
  | ifElse q r e hq hr he =>
    show (q.denote.bind fun p : Bool => if p then r.denote else e.denote) = none ↔
      q.DividesByZero ∨ q.denote = some true ∧ r.DividesByZero ∨
        q.denote = some false ∧ e.DividesByZero
    rw [← hq, ← hr, ← he]
    cases q.denote with
    | none => simp
    | some p => cases p <;> simp
  | call s b hb hs args ih =>
    show b.denote args.denote = none ↔ args.DivideByZero b.decisive? ∨
      b.Divides ∧ ∃ a, args.denote.values? = some [a, .int 0]
    cases hdecisive : b.decisive? with
    | none =>
      rw [args.divideByZero_none_iff ih]
      cases hvs : args.denote.values? with
      | none => exact iff_of_true (Builtin.denote_of_values?_eq_none hdecisive hvs) (.inl rfl)
      | some vs => simpa using Builtin.denote_eq_none_iff hdecisive hvs
    | some decisive =>
      -- A lazy operator takes two truth values, and does not divide.
      cases b with
      | andAlso | orElse =>
        cases hdecisive
        match args, ih with
        | .cons l (.cons r .nil), ⟨hl, hr, _⟩ =>
          exact (Arguments.divideByZero_some_iff hl hr).symm.trans
            (or_iff_left fun h => h.1.elim nofun nofun).symm
      | _ => cases hdecisive

/-! ### Evaluations -/

/-- The expression is evaluated to what it denotes and leaves the frame alone.  It takes a step
for each node and a level for each level of the tree, or less. -/
def Expression.Evaluated (f : Frame) (e : Expression program operators κ) : Prop :=
  ∃ k d, Evaluates program operators (.node e.toNode) f (plain (κ.result e.denote)) f k d ∧
    k ≤ e.size ∧ d ≤ e.height

/-- Operands are evaluated to what the arguments denote, up to the first zero divisor. -/
theorem Arguments.evaluates_operands {f : Frame} (args : Arguments program operators κs)
    (h : args.All fun _ e => e.Evaluated f) (c : Combinator) (done : List Value) :
    ∃ k d, Evaluates program operators (.operands c done args.toNodes) f
      (plain (args.denote.values?.elim (.error .divisionByZero) fun vs => c.apply (done ++ vs)))
      f k d ∧ k ≤ args.size ∧ d ≤ args.height := by
  induction κs generalizing done with
  | nil =>
    cases args
    refine ⟨0, 0, ?_, Nat.le_refl 0, Nat.le_refl 0⟩
    show Evaluates program operators (.operands c done []) f (plain (c.apply (done ++ []))) f 0 0
    rw [List.append_nil]
    exact .operands_nil
  | cons κ κs ih =>
    cases args with
    | cons x xs =>
      obtain ⟨⟨k, d, hx, hk, hd⟩, hxs⟩ := h
      show ∃ k d, Evaluates program operators (.operands c done (x.toNode :: xs.toNodes)) f
        (plain ((x.denote.bind fun a => xs.denote.values?.map (κ.value a :: ·)).elim _ _)) f k d ∧
          k ≤ x.size + xs.size ∧ d ≤ max x.height xs.height
      cases hdenote : x.denote with
      | none =>
        rw [hdenote] at hx
        exact ⟨k, d, .operands_interrupted hx, by omega, by omega⟩
      | some a =>
        rw [hdenote] at hx
        obtain ⟨k', d', hrest, hk', hd'⟩ := ih xs hxs (done ++ [κ.value a])
        refine ⟨k + k', max d d', .operands_cons hx ?_, by omega, by omega⟩
        simpa [Option.elim_map, Function.comp_def] using hrest

/-- A strict operator is evaluated to what it denotes. -/
theorem Expression.evaluated_strict {f : Frame} {s : SymbolId} {b : Builtin}
    (hb : operators.get? s = some b) (hs : program.get? s = none)
    {args : Arguments program operators b.combinator.parameterKinds}
    (h : args.All fun _ e => e.Evaluated f) (hstrict : b.decisive? = none) :
    (Expression.call s b hb hs args).Evaluated f := by
  obtain ⟨k, d, hoperands, hk, hd⟩ := args.evaluates_operands h b.combinator []
  have hresolve : resolve program operators s (args.toNodes.map some) =
      .ok (.strict b.combinator args.toNodes) := by
    rw [resolve_callAll_operator hb hs]
    refine Combinator.resolve_of_strict args.length_toNodes ?_
    cases b <;> first | rfl | cases hstrict
  refine ⟨k + 1, d + 1, .node (.call_strict hresolve ?_), by simpa [size] using hk,
    by simpa [height] using hd⟩
  show Evaluates program operators _ f (plain (b.combinator.resultKind.result (b.denote _))) f k d
  rw [← Builtin.elim_apply_eq_result hstrict]
  exact hoperands

/-- What a truth value denotes passes as one. -/
theorem map_truth_result (x : Option Bool) :
    (truth (plain (Kind.result .bool x))).map Value.bool = plain (Kind.result .bool x) := by
  cases x <;> rfl

/-- A lazy operator is evaluated to what it denotes. -/
theorem Expression.evaluates_lazily {f : Frame} {s : SymbolId} {b : Builtin} {decisive : Bool}
    (hb : operators.get? s = some b) (hdecisive : b.decisive? = some decisive)
    (hs : program.get? s = none) {l r : Expression program operators .bool} (hl : l.Evaluated f)
    (hr : r.Evaluated f) :
    ∃ k d, Evaluates program operators (.node (.callAll s [l.toNode, r.toNode])) f
      (plain (Kind.result .bool (Builtin.lazily decisive l.denote r.denote))) f k d ∧
        k ≤ l.size + r.size + 1 ∧ d ≤ max l.height r.height + 1 := by
  obtain ⟨k, d, hl, hk, hd⟩ := hl
  obtain ⟨k', d', hr, hk', hd'⟩ := hr
  -- It is enough that the operands, as far as they are needed, have the outcome.
  suffices hlazily : ∃ k d, Lazily program operators decisive l.toNode r.toNode f
      (plain (Kind.result .bool (Builtin.lazily decisive l.denote r.denote))) f k d ∧
        k ≤ l.size + r.size ∧ d ≤ max l.height r.height by
    obtain ⟨k, d, hlazily, hk, hd⟩ := hlazily
    refine ⟨k + 1, d + 1, ?_, Nat.succ_le_succ hk, Nat.succ_le_succ hd⟩
    exact (evaluates_lazy_iff hb hdecisive hs).2
      ⟨_, _, _, hlazily, (map_truth_result _).symm, rfl, rfl⟩
  cases hleft : l.denote with
  | none =>
    rw [hleft] at hl
    exact ⟨k, d, .interrupted hl rfl, by omega, by omega⟩
  | some p =>
    rw [hleft] at hl
    by_cases hp : p = decisive
    · subst hp
      rw [show Builtin.lazily p (some p) r.denote = some p from if_pos rfl]
      exact ⟨k, d, .decided hl, by omega, by omega⟩
    · obtain rfl : p = !decisive := Bool.eq_not.2 hp
      rw [show Builtin.lazily decisive (some !decisive) r.denote = r.denote from if_neg hp]
      exact ⟨k + k', max d d', .undecided hl hr, by omega, by omega⟩

/-- **An expression means what it denotes**, in every frame. -/
theorem Expression.evaluates (e : Expression program operators κ) (f : Frame) : e.Evaluated f := by
  induction e using Expression.induction with
  | int i => exact ⟨1, 1, .node .const, Nat.le_refl 1, Nat.le_refl 1⟩
  | bool p => exact ⟨1, 1, .node .const, Nat.le_refl 1, Nat.le_refl 1⟩
  | text s => exact ⟨1, 1, .node .const, Nat.le_refl 1, Nat.le_refl 1⟩
  | @ifElse κ q r e hq hr he =>
    obtain ⟨kq, dq, hq, hkq, hdq⟩ := hq
    obtain ⟨kr, dr, hr, hkr, hdr⟩ := hr
    obtain ⟨ke, de, he, hke, hde⟩ := he
    have hrpos := r.size_pos
    show ∃ k d, Evaluates program operators (.node (.ifElse q.toNode r.toNode e.toNode)) f
      (plain (κ.result (q.denote.bind fun p : Bool => if p then r.denote else e.denote))) f k d ∧
        k ≤ q.size + r.size + e.size + 1 ∧ d ≤ max q.height (max r.height e.height) + 1
    cases hcondition : q.denote with
    | none =>
      rw [hcondition] at hq
      exact ⟨_, _,
        evaluates_ifElse_iff.2 ⟨_, _, _, _, hq, .inr (.inr ⟨_, rfl, rfl, rfl, rfl, rfl⟩)⟩,
        by omega, by omega⟩
    | some p =>
      rw [hcondition] at hq
      cases p with
      | true =>
        exact ⟨_, _, evaluates_ifElse_iff.2 ⟨_, _, _, _, hq, .inl ⟨rfl, _, _, hr, rfl, rfl⟩⟩,
          by omega, by omega⟩
      | false =>
        -- The constant of the alternative takes a step, which the other result does not need.
        exact ⟨_, _, evaluates_ifElse_iff.2 ⟨_, _, _, _, hq, .inr (.inl ⟨rfl, _, _, he, rfl, rfl⟩)⟩,
          by omega, by omega⟩
  | call s b hb hs args ih =>
    cases hdecisive : b.decisive? with
    | none => exact evaluated_strict hb hs ih hdecisive
    | some decisive =>
      cases b with
      | andAlso | orElse =>
        cases hdecisive
        match args, ih with
        | .cons l (.cons r .nil), ⟨hl, hr, _⟩ =>
          obtain ⟨k, d, hcall, hk, hd⟩ := evaluates_lazily hb rfl hs hl hr
          exact ⟨k, d, hcall, hk, by simpa [height, Arguments.height] using hd⟩
      | _ => cases hdecisive

/-! ### Frames -/

/-- The forms of node that expressions are made of. -/
def Node.InExpression (program : Program) : Node → Prop
  | .const _ => True
  | .choose _ => True
  | .call s _ => program.get? s = none
  | _ => False

/-- What holds of the node of each argument holds of their nodes. -/
theorem Arguments.forall_mem_toNodes {P : Node → Prop} (args : Arguments program operators κs)
    (h : args.All fun _ e => P e.toNode) : ∀ n ∈ args.toNodes, P n := by
  induction κs with
  | nil =>
    cases args
    exact nofun
  | cons κ κs ih =>
    cases args with
    | cons x xs =>
      intro n hn
      rcases List.mem_cons.1 hn with rfl | hn
      · exact h.1
      · exact ih xs h.2 n hn

/-- Nothing else occurs in an expression. -/
theorem Expression.inExpression_of_within (e : Expression program operators κ) :
    ∀ m, Node.Within m e.toNode → m.InExpression program := by
  induction e using Expression.induction with
  | int i | bool p | text s =>
    rintro m (_ | ⟨hp, _⟩)
    · trivial
    · cases hp
  | ifElse q r e hq hr he =>
    rintro m (_ | ⟨hp, hm⟩)
    · trivial
    · rcases hp with _ | ⟨_, _ | ⟨_, _ | ⟨_, _ | ⟨_, _ | _⟩⟩⟩⟩
      · exact hq m hm
      · exact hr m hm
      · rcases hm with _ | ⟨hp, _⟩
        · trivial
        · cases hp
      · exact he m hm
  | call s b hb hs args ih =>
    rintro m (_ | ⟨hp, hm⟩)
    · exact hs
    · obtain ⟨n, hn, ⟨⟩⟩ := List.mem_map.1 (List.reduceOption_mem_iff.1 hp)
      exact args.forall_mem_toNodes (P := fun n => ∀ m, Node.Within m n → m.InExpression program)
        ih _ hn m hm

/-- An expression binds no variable. -/
theorem Expression.quiet_toNode (e : Expression program operators κ) : e.toNode.Quiet := by
  intro m v hm hassigns
  have hform := e.inExpression_of_within m hm
  cases m with
  | set w n => exact hform
  | declare w n => exact hform
  | _ => exact hassigns

/-- A comparison of a run with itself, as long as the frame stays what it is. -/
def Comparison.still (f : Frame) : Comparison where
  frames := fun g g' => g = f ∧ g' = f
  budgets := Eq
  failures := Eq
  apart := fun _ _ _ => False
  failures_self := fun _ => rfl
  apart_leads := fun h _ => h

/-- A quiet node leaves the frame alone however its evaluation ends, if defaults are quiet too. -/
theorem frame_final_of_quiet (context : Context)
    (hdefaults : ∀ p, context.program.HasDefault p → p.Quiet) {n : Node} (hn : n.Quiet)
    (depth : Nat) (s : State) : (final (evaluate context depth n s)).frame = s.frame := by
  have hagree := Comparison.agree_evalNode_twoFrames (c := .still s.frame) rfl (fun _ => rfl)
    context (fun m hm => (Node.quiet_iff.1 hm).2) hdefaults
    (fun v k _ => Comparison.agree_read_of_get?_eq fun {g g'} hg => by rw [hg.1, hg.2])
    (fun m v a k hm hassigns => absurd hassigns (hm m v .self)) s.budget.remaining depth n hn
  have hends := hagree.ends (s := s) (Nat.le_refl _) (Nat.le_refl _) ⟨rfl, rfl, rfl⟩
  rcases hends.outcome_eq_or_apart (fun _ _ => id) with ⟨-, hst, -⟩ | ⟨_, -, ha⟩
  · exact hst.frames.1
  · exact ha.elim

/-- An expression leaves the frame alone however its evaluation ends. -/
theorem Expression.frame_final_evaluate (e : Expression program operators κ) (limits : Limits)
    (depth : Nat) (s : State) :
    (final (evaluate ⟨limits, program, operators⟩ depth e.toNode s)).frame = s.frame := by
  -- It calls only what is not declared, so that it might as well be evaluated without a program.
  have htables : TablesAgree (fun t => program.get? t = none) program operators .empty operators :=
    ⟨fun t ht => by rw [ht]; rfl, fun _ _ _ => rfl⟩
  have heq := evaluate_eq_of_closed (fun t d _ ht hd => by rw [ht] at hd; cases hd) htables limits
    depth e.toNode fun t ⟨as, hcall⟩ => e.inExpression_of_within _ hcall
  rw [heq]
  refine frame_final_of_quiet _ ?_ e.quiet_toNode depth s
  rintro p ⟨t, d, hd, -⟩
  cases hd

/-! ### The evaluator -/

/-- An expression that denotes a value is folded to its literal, if there is a step for each node
and a level for each level. -/
theorem Expression.fold_eq_ok (e : Expression program operators κ) {a : κ.Carrier} {l : Literal}
    (hdenote : e.denote = some a) (hl : κ.value a = l.toValue) {limits : Limits}
    (hsteps : e.size ≤ limits.maxSteps) (hlevels : e.height ≤ limits.maxDepth) :
    fold ⟨limits, program, operators⟩ e.toNode = .ok l := by
  obtain ⟨k, d, hmeant, hk, hd⟩ := e.evaluates .empty
  rw [fold_eq_foldCounted, hmeant.foldCounted_eq (Nat.le_trans hk hsteps) (Nat.le_trans hd hlevels)]
  refine conclude_eq_ok_iff.2 ?_
  rw [hdenote, ← hl]
  rfl

/-- **The evaluator finds what an expression denotes.**  In any frame and within any limits, an
expression is evaluated to a value of its kind, which is the one it denotes; or it fails to divide
by zero, and then a zero divisor is reached in it; or it runs out of a resource.  The frame is left
alone in any case.  Unless it runs out of a resource, it fails exactly if a zero divisor is reached;
and it does not run out if there is a step left for each node and a level for each level of the
tree. -/
theorem evaluate_expression (e : Expression program operators κ) (limits : Limits) (depth : Nat)
    (b : Budget) (f : Frame) :
    let r := evaluate ⟨limits, program, operators⟩ depth e.toNode ⟨b, f⟩
    (final r).frame = f ∧
    ((∃ a, e.denote = some a ∧ outcome r = .ok (κ.value a) ∧ (κ.value a).kind = κ) ∨
      (e.DividesByZero ∧ outcome r = .error (.failing .divisionByZero)) ∨
      ResourceEnd (outcome r)) ∧
    (¬ ResourceEnd (outcome r) →
      (outcome r = .error (.failing .divisionByZero) ↔ e.DividesByZero)) ∧
    (e.size ≤ b.remaining → depth + e.height ≤ limits.maxDepth → ¬ ResourceEnd (outcome r)) := by
  intro r
  obtain ⟨k, d, hmeant, hk, hd⟩ := e.evaluates f
  have houtcome : ¬ ResourceEnd (outcome r) → outcome r = plain (κ.result e.denote) :=
    fun hr => (hmeant.run_eq hr).1
  refine ⟨e.frame_final_evaluate limits depth ⟨b, f⟩, ?_, fun hr => ?_, fun hsteps hlevels => ?_⟩
  · by_cases hr : ResourceEnd (outcome r)
    · exact .inr (.inr hr)
    · rw [houtcome hr]
      cases hdenote : e.denote with
      | none => exact .inr (.inl ⟨e.denote_eq_none_iff.1 hdenote, rfl⟩)
      | some a => exact .inl ⟨a, rfl, rfl, κ.kind_value a⟩
  · rw [houtcome hr, ← e.denote_eq_none_iff]
    cases e.denote with
    | none => exact iff_of_true rfl rfl
    | some a => exact iff_of_false nofun nofun
  · exact hmeant.not_resourceEnd_evaluate limits depth b (by omega) (by omega)

/-- A zero divisor that is not needed is not reached, though it is well-kinded. -/
example :
    let zero : Expression .empty .reserved .int :=
      .call _ .intDiv (OperatorTable.get?_reserved _) rfl (.cons (.int 1) (.cons (.int 0) .nil))
    let test : Expression .empty .reserved .bool :=
      .call _ .intEqual (OperatorTable.get?_reserved _) rfl (.cons zero (.cons (.int 1) .nil))
    let both : Expression .empty .reserved .bool :=
      .call _ .andAlso (OperatorTable.get?_reserved _) rfl (.cons (.bool false) (.cons test .nil))
    test.denote = none ∧ both.denote = some false :=
  ⟨rfl, rfl⟩

end ConstFold
