import ConstFold.Proofs.Calls
import ConstFold.Proofs.Checked
import ConstFold.Proofs.Compositional

/-!
# No partial operation is used outside its domain

On a machine the evaluator does what it does with numbers, and there is no fault.  Two facts
about the counters carry this through every run: the machine holds the budget and the
nesting of the plain run as words, and a run is back at its nesting when it ends, in whichever
way it does.  A step is taken only if one is left, so the steps left can be counted down; a
level is entered only below the largest nesting, which is a word, so the nesting can be
counted up; and it has been counted up before it is counted down.

The other operations need no invariant, only the guard that comes before them: a parameter is
picked within the number of parameters, an operand within the arity, and a divisor that is
zero has been refused.

## Main definitions

* `Machine.Holds w depth s` — the machine `w` holds the state `s` at nesting `depth`.
* `Checked.Computes y e` — the run `y` comes to `e` at once, without a fault.
* `Checked.Mirrors m depth y x` — from fewer than `m` steps left and at nesting `depth`, `y` does
  what `x` does, without a fault.

## Main results

* `Checked.computes_apply`, `Checked.computes_callSlots` — operators and slots.
* `Checked.mirrors_evalNode` — **on a machine a node is evaluated as it is with numbers.**
* `foldAll_faultless` — **no sequence of folds has a fault, whatever the limits.**
-/

namespace ConstFold

open Run

/-! ### Words -/

namespace Word

/-- Below another word there is a next one. -/
theorem add_one_eq_ok {a d : UInt64} (h : a.toNat < d.toNat) :
    ∃ c, add a 1 = .ok c ∧ c.toNat = a.toNat + 1 := by
  have hd := d.toNat_lt_size
  have hsum : a.toNat + (1 : UInt64).toNat < UInt64.size := by
    rw [show (1 : UInt64).toNat = 1 from rfl]
    omega
  refine ⟨a + 1, if_pos hsum, ?_⟩
  rw [UInt64.toNat_add, Nat.mod_eq_of_lt hsum]
  rfl

/-- The largest word has none. -/
example : add 0xffffffffffffffff 1 = .error .overflow := by decide

theorem sub_eq_ok {a b : UInt64} (h : b.toNat ≤ a.toNat) :
    ∃ c, sub a b = .ok c ∧ c.toNat = a.toNat - b.toNat := by
  have hle : b ≤ a := UInt64.le_iff_toNat_le.2 h
  exact ⟨a - b, if_pos hle, UInt64.toNat_sub_of_le a b hle⟩

/-- Above zero there is one before. -/
theorem sub_one_eq_ok {a : UInt64} {n : Nat} (h : a.toNat = n + 1) :
    ∃ c, sub a 1 = .ok c ∧ c.toNat = n := by
  have hone : (1 : UInt64).toNat = 1 := rfl
  obtain ⟨c, hc, hcn⟩ := sub_eq_ok (a := a) (b := 1) (by omega)
  exact ⟨c, hc, by omega⟩

end Word

/-! ### Machines -/

namespace Machine

/-- The machine holds the budget, the nesting and the frame of a plain run. -/
structure Holds (w : Machine) (depth : Nat) (s : State) : Prop where
  limit_eq : w.limit.toNat = s.budget.limit
  remaining_eq : w.remaining.toNat = s.budget.remaining
  depth_eq : w.depth.toNat = depth
  frame_eq : w.frame = s.frame

namespace Holds

variable {w : Machine} {depth : Nat} {s : State}

theorem withFrame (h : w.Holds depth s) (f : Frame) :
    Holds { w with frame := f } depth { s with frame := f } :=
  ⟨h.limit_eq, h.remaining_eq, h.depth_eq, rfl⟩

/-- Below a word the nesting can be counted up. -/
theorem down_eq (h : w.Holds depth s) {d : UInt64} (hd : depth < d.toNat) :
    ∃ w', w.down = .ok w' ∧ w'.Holds (depth + 1) s := by
  rw [← h.depth_eq] at hd
  obtain ⟨c, hc, hcn⟩ := Word.add_one_eq_ok hd
  rw [h.depth_eq] at hcn
  refine ⟨{ w with depth := c }, ?_, h.limit_eq, h.remaining_eq, hcn, h.frame_eq⟩
  rw [down, hc]
  rfl

/-- A nesting that has been counted up can be counted down. -/
theorem up_eq (h : w.Holds (depth + 1) s) : ∃ w', w.up = .ok w' ∧ w'.Holds depth s := by
  obtain ⟨c, hc, hcn⟩ := Word.sub_one_eq_ok h.depth_eq
  refine ⟨{ w with depth := c }, ?_, h.limit_eq, h.remaining_eq, hcn, h.frame_eq⟩
  rw [up, hc]
  rfl

/-- A step that is left can be taken. -/
theorem step_eq (h : w.Holds depth s) (hs : 0 < s.budget.remaining) :
    ∃ w', w.step = .ok w' ∧ w'.Holds depth { s with budget := s.budget.spend 1 } := by
  have hremaining : w.remaining.toNat = s.budget.remaining - 1 + 1 := by
    rw [h.remaining_eq]
    omega
  obtain ⟨c, hc, hcn⟩ := Word.sub_one_eq_ok hremaining
  refine ⟨{ w with remaining := c }, ?_, h.limit_eq, hcn, h.depth_eq, h.frame_eq⟩
  rw [step, hc]
  rfl

/-- No more steps are left than were granted. -/
theorem used_eq (h : w.Holds depth s) : ∃ c, w.used = .ok c ∧ c.toNat = s.budget.used := by
  have hle : w.remaining.toNat ≤ w.limit.toNat := by
    rw [h.limit_eq, h.remaining_eq]
    exact s.budget.remaining_le
  obtain ⟨c, hc, hcn⟩ := Word.sub_eq_ok hle
  rw [h.limit_eq, h.remaining_eq] at hcn
  exact ⟨c, hc, hcn⟩

end Holds

end Machine

namespace Checked

variable {α β : Type}

theorem bind_apply (x : Checked α) (f : α → Checked β) (w : Machine) :
    (x >>= f) w =
      match x w with
      | .ok (.ok a, w') => f a w'
      | .ok (.error i, w') => .ok (.error i, w')
      | .error e => .error e := by
  show (x w >>= fun p => (ExceptT.bindCont f p.1) p.2) = _
  rcases x w with e | ⟨i | a, w'⟩ <;> rfl

/-! ### Runs that end at once -/

/-- The run comes to a plain result, and leaves the machine as it is. -/
def Computes (y : Checked α) (e : Except Failure α) : Prop := ∀ w, y w = .ok (plain e, w)

theorem computes_pure (a : α) : Computes (pure a) (.ok a) := fun _ => rfl

theorem computes_ofExcept (e : Except Failure α) : Computes (ofExcept e) e := fun _ => rfl

theorem Computes.bind {y : Checked α} {e : Except Failure α} {g : α → Checked β}
    {f : α → Except Failure β} (hy : Computes y e) (hg : ∀ a, e = .ok a → Computes (g a) (f a)) :
    Computes (y >>= g) (e >>= f) := by
  intro w
  rw [bind_apply, hy w]
  cases e with
  | error cause => rfl
  | ok a => exact hg a rfl w

/-- An index within a list picks its element. -/
theorem computes_index {l : List α} {i : Nat} {a : α} (h : l[i]? = some a) :
    Computes (index l i) (.ok a) := by
  rw [index, h]
  exact computes_pure a

/-- What follows a run that comes to a value at once. -/
theorem Computes.bind_ok {y : Checked α} {a : α} (hy : Computes y (.ok a)) (g : α → Checked β) :
    y >>= g = g a := by
  funext w
  rw [bind_apply, hy w]
  rfl

/-! ### Operators -/

theorem computes_checkArity {expected found : Nat} (h : expected = found) :
    Computes (checkArity expected found) (.ok ()) := by
  rw [checkArity, if_pos h]
  exact computes_pure ()

/-- A divisor that is zero is refused before it is used. -/
theorem computes_divideGuarded (operation : Int32 → Int32 → Int32) (i j : Int32) :
    Computes (divideGuarded operation i j)
      (if j = 0 then .error .divisionByZero else .ok (operation i j)) := by
  by_cases h : j = 0
  · intro w
    rw [divideGuarded, if_pos h, if_pos h]
    rfl
  · intro w
    rw [divideGuarded, if_neg h, if_neg h, divide, if_neg h]
    rfl

/-- The functions of the operators on two integers, the partial ones included. -/
theorem computes_intFunction {b : Builtin} {f : Int32 → Int32 → Except Failure Int32}
    (h : b.combinator = .intBinary f) (i j : Int32) : Computes (intFunction f b i j) (f i j) := by
  cases b with
  | intDiv =>
    obtain rfl := Combinator.intBinary.inj h
    exact computes_divideGuarded _ i j
  | intRem =>
    obtain rfl := Combinator.intBinary.inj h
    exact computes_divideGuarded _ i j
  | _ => exact computes_ofExcept (f i j)

/-- An operator on any arguments.  They are picked only once their number is known. -/
theorem computes_apply (b : Builtin) (args : List Value) :
    Computes (apply b args) (b.combinator.apply args) := by
  by_cases hlength : b.combinator.arity = args.length
  · rw [apply, (computes_checkArity hlength).bind_ok]
    cases hc : b.combinator with
    | intUnary f =>
      rw [hc] at hlength
      obtain ⟨a, rfl⟩ := List.length_eq_one_iff.1 hlength.symm
      exact (computes_ofExcept a.asInt).bind fun i _ => computes_pure _
    | boolUnary f =>
      rw [hc] at hlength
      obtain ⟨a, rfl⟩ := List.length_eq_one_iff.1 hlength.symm
      exact (computes_ofExcept a.asBool).bind fun p _ => computes_pure _
    | intBinary f =>
      rw [hc] at hlength
      obtain ⟨a, a', rfl⟩ := List.length_eq_two.1 hlength.symm
      refine (computes_ofExcept a.asInt).bind fun i _ => ?_
      refine (computes_ofExcept a'.asInt).bind fun j _ => ?_
      exact (computes_intFunction hc i j).bind fun _ _ => computes_pure _
    | intCompare f =>
      rw [hc] at hlength
      obtain ⟨a, a', rfl⟩ := List.length_eq_two.1 hlength.symm
      refine (computes_ofExcept a.asInt).bind fun i _ => ?_
      exact (computes_ofExcept a'.asInt).bind fun j _ => computes_pure _
    | shortCircuit decides combine =>
      rw [hc] at hlength
      obtain ⟨a, a', rfl⟩ := List.length_eq_two.1 hlength.symm
      refine (computes_ofExcept a.asBool).bind fun p _ => ?_
      exact (computes_ofExcept a'.asBool).bind fun q _ => computes_pure _
    | textBinary f =>
      rw [hc] at hlength
      obtain ⟨a, a', rfl⟩ := List.length_eq_two.1 hlength.symm
      refine (computes_ofExcept a.asText).bind fun s _ => ?_
      exact (computes_ofExcept a'.asText).bind fun t _ => computes_pure _
  · intro w
    rw [Combinator.apply_of_length_ne (Ne.symm hlength), apply, bind_apply, checkArity,
      if_neg hlength]
    rfl

/-! ### Slots -/

theorem fillSlots_drop (callee : SymbolId) {defaults : List (Option Node)}
    (arguments : List (Option Node)) {i : Nat} (hi : i < defaults.length) :
    fillSlots callee i (defaults.drop i) (arguments.drop i) =
      (match slotFrom? defaults arguments i with
        | some node => .ok node
        | none => .error (.missingArgument callee i)) >>= fun node =>
      fillSlots callee (i + 1) (defaults.drop (i + 1)) (arguments.drop (i + 1)) >>= fun rest =>
        .ok (node :: rest) := by
  have hslot : slotFrom? defaults arguments i = arguments[i]?.join.or defaults[i] := by
    rw [slotFrom?, List.getElem?_eq_getElem hi]
    rfl
  rw [hslot, List.drop_eq_getElem_cons hi, fillSlots, List.head?_drop, List.tail_drop]
  cases arguments[i]?.join.or defaults[i] <;> rfl

section Slots

variable (callee : SymbolId) (parameters? : Option (List Parameter))
  (arguments : List (Option Node))

/-- A slot of a call.  Its parameter is picked only if there is a declaration. -/
theorem computes_slot {i : Nat} (hi : i < slotCount parameters? arguments) :
    Computes (slot callee parameters? arguments i)
      (match slotAt? parameters? arguments i with
        | some node => .ok node
        | none => .error (.missingArgument callee i)) := by
  rw [slot, slotAt?]
  cases arguments[i]?.join with
  | some node => exact computes_pure node
  | none =>
    cases parameters? with
    | none => exact computes_ofExcept _
    | some parameters =>
      have hindex := computes_index (List.getElem?_eq_getElem (l := parameters) hi)
      simp only [default?, hindex.bind_ok, pure_bind, Option.bind_some,
        List.getElem?_eq_getElem (l := parameters) hi]
      cases parameters[i].default? with
      | some node => exact computes_pure node
      | none => exact computes_ofExcept _

theorem computes_slotsFrom {i count : Nat} (h : i + count = slotCount parameters? arguments) :
    Computes (slotsFrom callee parameters? arguments i count)
      (fillSlots callee i ((slotDefaults parameters? arguments).drop i) (arguments.drop i)) := by
  induction count generalizing i with
  | zero =>
    rw [Nat.add_zero, ← length_slotDefaults] at h
    rw [List.drop_eq_nil_of_le (Nat.le_of_eq h.symm)]
    exact computes_pure []
  | succ count ih =>
    have hi : i < slotCount parameters? arguments := by omega
    rw [fillSlots_drop callee arguments (by rwa [length_slotDefaults]), slotFrom?_slotDefaults]
    refine (computes_slot callee parameters? arguments hi).bind fun node _ => ?_
    exact (ih (by omega)).bind fun rest _ => computes_pure _

/-- The slots of a call, whether or not the callee is declared. -/
theorem computes_callSlots :
    Computes (callSlots callee parameters? arguments)
      (ConstFold.callSlots callee parameters? arguments) := by
  cases parameters? with
  | none => exact computes_slotsFrom callee none arguments (Nat.zero_add _)
  | some parameters =>
    by_cases h : parameters.length < arguments.length
    · intro w
      simp only [callSlots, ConstFold.callSlots, declaredSlots, if_pos h]
      rfl
    · simp only [callSlots, ConstFold.callSlots, declaredSlots, if_neg h]
      exact computes_slotsFrom callee (some parameters) arguments (Nat.zero_add _)

end Slots

/-! ### Runs without a fault -/

/-- The run on a machine has no fault and ends as the plain one does, at the nesting at which it
started and with no more steps left. -/
def EndsAs (depth : Nat) (s : State) (r : EStateM.Result Interrupt State α)
    (y : Except Fault (Except Interrupt α × Machine)) : Prop :=
  ∃ w, y = .ok (outcome r, w) ∧ w.Holds depth (final r) ∧
    (final r).budget.remaining ≤ s.budget.remaining

/-- From states with fewer than `m` steps left and at nesting `depth`, the run on a machine does
what the plain one does. -/
def Mirrors (m depth : Nat) (y : Checked α) (x : Run α) : Prop :=
  ∀ w s, w.Holds depth s → s.budget.remaining < m → EndsAs depth s (x s) (y w)

variable {m depth : Nat}

theorem Mirrors.anti {y : Checked α} {x : Run α} (h : Mirrors m depth y x) {j : Nat}
    (hj : j ≤ m) : Mirrors j depth y x :=
  fun w s hw hs => h w s hw (Nat.lt_of_lt_of_le hs hj)

theorem Mirrors.of_eq {y : Checked α} {x x' : Run α} (h : Mirrors m depth y x)
    (hx : ∀ s, s.budget.remaining < m → x' s = x s) : Mirrors m depth y x' := by
  intro w s hw hs
  rw [hx s hs]
  exact h w s hw hs

theorem mirrors_ofOutcome (o : Except Interrupt α) {x : Run α} (hx : ∀ s, x s = ending o s) :
    Mirrors m depth (ofOutcome o) x := by
  intro w s hw _
  rw [hx]
  refine ⟨w, ?_, ?_, ?_⟩
  · rw [outcome_ending]
    rfl
  · rw [final_ending]
    exact hw
  · exact Nat.le_of_eq (congrArg (·.budget.remaining) (final_ending o s))

theorem mirrors_pure (a : α) : Mirrors m depth (pure a) (pure a) :=
  mirrors_ofOutcome (.ok a) fun _ => rfl

theorem Computes.mirrors {y : Checked α} {e : Except Failure α} (h : Computes y e) :
    Mirrors m depth y (Run.ofExcept e) := by
  intro w s hw hs
  rw [h w]
  exact mirrors_ofOutcome (plain e) (ofExcept_apply e) w s hw hs

theorem mirrors_ofExcept (e : Except Failure α) :
    Mirrors m depth (ofExcept e) (Run.ofExcept e) :=
  (computes_ofExcept e).mirrors

theorem mirrors_read (v : VariableId) : Mirrors m depth (read v) (Run.read v) := by
  intro w s hw hs
  rw [read, hw.frame_eq]
  exact mirrors_ofExcept (s.frame.read v) w s hw hs

theorem mirrors_bindVariable (v : VariableId) (a : Value) :
    Mirrors m depth (bindVariable v a) (Run.bindVariable v a) := by
  intro w s hw _
  refine ⟨_, rfl, ?_, Nat.le_refl _⟩
  rw [hw.frame_eq]
  exact hw.withFrame _

/-! ### What runs are combined by -/

theorem EndsAs.bind {y : Checked α} {x : Run α} {g : α → Checked β} {f : α → Run β} {s : State}
    {w : Machine} (hx : EndsAs depth s (x s) (y w))
    (hf : ∀ a t w', x s = .ok a t → w'.Holds depth t →
      t.budget.remaining ≤ s.budget.remaining → EndsAs depth t (f a t) (g a w')) :
    EndsAs depth s ((x >>= f) s) ((y >>= g) w) := by
  obtain ⟨w', hy, hw', hle⟩ := hx
  rw [Run.bind_apply, Checked.bind_apply, hy]
  cases hr : x s with
  | error i t =>
    rw [hr] at hw' hle
    exact ⟨w', rfl, hw', hle⟩
  | ok a t =>
    rw [hr] at hw' hle
    obtain ⟨u, hu, hheld, hle'⟩ := hf a t w' hr hw' hle
    exact ⟨u, hu, hheld, Nat.le_trans hle' hle⟩

theorem Mirrors.bind {y : Checked α} {x : Run α} {g : α → Checked β} {f : α → Run β}
    (hx : Mirrors m depth y x) (hf : ∀ a, Mirrors m depth (g a) (f a)) :
    Mirrors m depth (y >>= g) (x >>= f) :=
  fun w s hw hs => (hx w s hw hs).bind fun a t w' _ hw' hle =>
    hf a w' t hw' (Nat.lt_of_le_of_lt hle hs)

/-- After a run that takes a step, what follows has a step less to go. -/
theorem Mirrors.bind_advancing {y : Checked α} {x : Run α} {g : α → Checked β} {f : α → Run β}
    (hx : Mirrors (m + 1) depth y x) (ha : Advances x) (hf : ∀ a, Mirrors m depth (g a) (f a)) :
    Mirrors (m + 1) depth (y >>= g) (x >>= f) := by
  intro w s hw hs
  refine (hx w s hw hs).bind fun a t w' hr hw' _ => hf a w' t hw' ?_
  have hlt := ha s a t hr
  omega

/-- A run of which another outcome is made. -/
theorem Mirrors.mapped {y : Checked α} {x : Run α} {x' : Run β}
    {φ : Except Interrupt α → Except Interrupt β} (h : Mirrors m depth y x)
    (hx : ∀ s, x' s = ending (φ (outcome (x s))) (final (x s))) :
    Mirrors m depth (y.mapped φ) x' := by
  intro w s hw hs
  obtain ⟨w', hy, hw', hle⟩ := h w s hw hs
  rw [hx, EndsAs, outcome_ending, final_ending, Checked.mapped, hy]
  exact ⟨w', rfl, hw', hle⟩

theorem Mirrors.inFrame {y : Checked α} {x : Run α} (h : Mirrors m depth y x) (f : Frame) :
    Mirrors m depth (y.inFrame f) (Run.inFrame f x) := by
  intro w s hw hs
  obtain ⟨w', hy, hw', hle⟩ := h _ { s with frame := f } (hw.withFrame f) hs
  rw [EndsAs, outcome_inFrame, final_inFrame, Checked.inFrame, hy]
  refine ⟨_, rfl, ?_, hle⟩
  rw [hw.frame_eq]
  exact hw'.withFrame s.frame

/-- One level deeper, below the largest nesting. -/
theorem Mirrors.nested {y : Checked α} {x : Run α} (h : Mirrors m (depth + 1) y x) {d : UInt64}
    (hd : depth < d.toNat) : Mirrors m depth (y.nested) x := by
  intro w s hw hs
  obtain ⟨w₁, hdown, hw₁⟩ := hw.down_eq hd
  obtain ⟨w₂, hy, hw₂, hle⟩ := h w₁ s hw₁ hs
  obtain ⟨w₃, hup, hw₃⟩ := hw₂.up_eq
  refine ⟨w₃, ?_, hw₃, hle⟩
  simp only [Checked.nested, hdown]
  show (y w₁ >>= _) = _
  simp only [hy]
  show (w₂.up >>= _) = _
  rw [hup]
  rfl

/-- On a machine nodes are made of the same as with numbers. -/
theorem compositional_mirrors (m depth : Nat) :
    Compositional fun α (y : Checked α) (x : Run α) => Mirrors m depth y x where
  pure := mirrors_pure
  bind := Mirrors.bind
  interrupt i := mirrors_ofOutcome (.error i) fun _ => rfl
  ofExcept := mirrors_ofExcept
  read := mirrors_read
  bindVariable := mirrors_bindVariable
  interceptJump id h := h.mapped (interceptJump_apply id _)

/-! ### Calls -/

section Calls

variable {eval : Node → Checked Value} {eval' : Node → Run Value}
  (hparts : ∀ n, Mirrors m depth (eval n) (eval' n))

include hparts

theorem mirrors_inline (callee : SymbolId) (parameters : List Parameter) (body : Body)
    (arguments : List (Option Node)) :
    Mirrors m depth (inline eval callee parameters body arguments)
      (Run.ofExcept (declaredSlots callee parameters arguments) >>= fun slots =>
        evalResolved eval' callee (.inlined ((parameters.map (·.variableId)).zip slots) body)) := by
  have hnodes := compositional_mirrors m depth
  refine (computes_callSlots callee (some parameters) arguments).mirrors.bind fun slots => ?_
  refine (hnodes.evalSlots hparts .empty _).bind fun frame => ?_
  exact ((hnodes.evalBody hparts body).inFrame frame).mapped (settle_apply callee _)

/-- An operator whose slots are filled.  Its operands are picked only once the arity is known. -/
theorem mirrors_applyTo (callee : SymbolId) (b : Builtin) (slots : List Node) :
    Mirrors m depth (applyTo eval b slots)
      (Run.ofExcept (b.combinator.resolve slots) >>= evalResolved eval' callee) := by
  by_cases hlength : b.combinator.arity = slots.length
  · rw [applyTo, (computes_checkArity hlength).bind_ok]
    cases hdecides : b.combinator.decides? with
    | none =>
      rw [Combinator.resolve_of_strict hlength.symm hdecides, Run.ofExcept_ok, pure_bind]
      exact ((compositional_mirrors m depth).evalAll hparts slots).bind fun args =>
        (computes_apply b args).mirrors
    | some decides =>
      obtain ⟨combine, left, right, hc, rfl, hresolve⟩ :=
        Combinator.resolve_of_lazy hlength.symm hdecides
      rw [hresolve, Run.ofExcept_ok, pure_bind, evalResolved_shortCircuit_eq]
      refine (hparts left).bind fun a => (mirrors_ofExcept a.asBool).bind fun p => ?_
      cases hp : decides p with
      | true => exact mirrors_pure a
      | false =>
        refine (hparts right).bind fun a' => ?_
        rw [← hc]
        exact (computes_apply b [a, a']).mirrors
  · rw [Combinator.resolve_of_length_ne (Ne.symm hlength)]
    have hfails : Computes (applyTo eval b slots)
        (.error (.arityMismatch b.combinator.arity slots.length)) := by
      intro w
      rw [applyTo, bind_apply, checkArity, if_neg hlength]
      rfl
    exact hfails.mirrors

theorem mirrors_evalOperator (operators : OperatorTable) (callee : SymbolId)
    (parameters? : Option (List Parameter)) (arguments : List (Option Node)) :
    Mirrors m depth (evalOperator eval operators callee parameters? arguments)
      (Run.ofExcept (resolveOperator operators callee parameters? arguments) >>=
        evalResolved eval' callee) := by
  rw [evalOperator, resolveOperator_eq]
  cases operators.get? callee with
  | none => exact mirrors_ofExcept (.error (.unknownCallee callee))
  | some b =>
    simp only [ofExcept_bind, bind_assoc]
    refine (computes_callSlots callee parameters? arguments).mirrors.bind fun slots => ?_
    exact mirrors_applyTo hparts callee b slots

theorem mirrors_evalCall (c : WordContext) (callee : SymbolId) (arguments : List (Option Node)) :
    Mirrors m depth (evalCall eval c callee arguments)
      (Run.ofExcept (resolve c.program c.operators callee arguments) >>=
        evalResolved eval' callee) := by
  rw [evalCall, resolve]
  cases c.program.get? callee with
  | none => exact mirrors_evalOperator hparts c.operators callee none arguments
  | some d =>
    obtain ⟨name, parameters, body?⟩ := d
    cases body? with
    | none => exact mirrors_evalOperator hparts c.operators callee (some parameters) arguments
    | some body =>
      simp only [ofExcept_bind, bind_assoc]
      exact mirrors_inline hparts callee parameters body arguments

end Calls

/-! ### Loops -/

section Nodes

variable {c : WordContext} {eval : Node → Checked Value}

/-- The rounds of a loop.  Each of them takes a step, so that there are no more of them than
the bound allows for. -/
theorem mirrors_evalRounds
    (hparts : ∀ n, Mirrors m depth (eval n) (evaluate c.toContext depth n)) (id : LoopId) (q : Node)
    (b : Option Node) {fuel j : Nat} (hfuel : j ≤ fuel) (hj : j ≤ m) :
    Mirrors j depth (evalRounds eval id q b fuel) (evaluateRounds c.toContext depth id q b) := by
  induction fuel generalizing j with
  | zero =>
    obtain rfl : j = 0 := Nat.le_zero.1 hfuel
    exact fun w s _ hs => absurd hs (Nat.not_lt_zero _)
  | succ fuel ih =>
    cases j with
    | zero => exact fun w s _ hs => absurd hs (Nat.not_lt_zero _)
    | succ j =>
      have hnodes := compositional_mirrors (j + 1) depth
      have hparts := fun n => (hparts n).anti hj
      have hcondition := hnodes.evalCondition hparts q
      have hadvances := (metered_evaluate c.toContext depth).advances_evalCondition q
      have hagain := ih (Nat.le_of_succ_le_succ hfuel) (Nat.le_of_succ_le hj)
      refine Mirrors.of_eq ?_ fun s _ => evaluateRounds_eq c.toContext depth id q b s
      exact hnodes.evalRound_of_bind hparts id b (fun _ _ => hcondition.bind_advancing hadvances)
        (mirrors_pure _) hagain

/-! ### Nodes -/

theorem mirrors_evalForm {k fuel : Nat}
    (hparts : ∀ n, Mirrors k depth (eval n) (evaluate c.toContext depth n)) (hfuel : k ≤ fuel)
    (n : Node) :
    Mirrors k depth (evalFormWith (evalCall eval c) (evalRounds eval · · · fuel) eval n)
      (evaluateForm c.toContext depth n) := by
  rw [evaluateForm_eq]
  exact (compositional_mirrors k depth).evalFormWith hparts (mirrors_evalCall hparts c)
    (fun id q b => mirrors_evalRounds hparts id q b hfuel (Nat.le_refl k)) n

end Nodes

/-- On a spent budget a step is refused. -/
theorem charge_of_spent {w : Machine} {s : State} (hw : w.Holds depth s)
    (hs : s.budget.remaining = 0) :
    charge w = .ok (.error (.failing (.stepsExhausted s.budget.limit)), w) := by
  have hzero : w.remaining = 0 := UInt64.toNat_inj.1 (hw.remaining_eq.trans hs)
  rw [charge, if_pos hzero, hw.limit_eq]
  rfl

/-- A step that is left is taken. -/
theorem charge_of_left {w : Machine} {s : State} (hw : w.Holds depth s)
    (hs : 0 < s.budget.remaining) :
    ∃ w', charge w = .ok (.ok (), w') ∧ w'.Holds depth { s with budget := s.budget.spend 1 } := by
  have hpos : w.remaining ≠ 0 := by
    intro hzero
    have hremaining := hw.remaining_eq
    rw [hzero, show (0 : UInt64).toNat = 0 from rfl] at hremaining
    omega
  obtain ⟨w', hstep, hw'⟩ := hw.step_eq hs
  refine ⟨w', ?_, hw'⟩
  rw [charge, if_neg hpos, hstep]
  rfl

theorem checkDepth_of_lt {w : Machine} {s : State} (hw : w.Holds depth s) {maxDepth : UInt64}
    (hd : depth < maxDepth.toNat) : checkDepth maxDepth w = .ok (.ok (), w) := by
  refine if_neg fun hle => ?_
  rw [UInt64.le_iff_toNat_le, hw.depth_eq] at hle
  omega

theorem checkDepth_of_le {w : Machine} {s : State} (hw : w.Holds depth s) {maxDepth : UInt64}
    (hd : maxDepth.toNat ≤ depth) :
    checkDepth maxDepth w = .ok (.error (.failing (.depthExceeded maxDepth.toNat)), w) := by
  have hle : maxDepth ≤ w.depth := by rwa [UInt64.le_iff_toNat_le, hw.depth_eq]
  rw [checkDepth, if_pos hle]
  rfl

/-- **On a machine a node is evaluated as it is with numbers.** -/
theorem mirrors_evalNode (c : WordContext) (fuel depth : Nat) (n : Node) :
    Mirrors fuel depth (evalNode c fuel n) (evaluate c.toContext depth n) := by
  induction fuel generalizing depth n with
  | zero => exact fun w s _ hs => absurd hs (Nat.not_lt_zero _)
  | succ fuel ih =>
    intro w s hw hs
    rw [evalNode, bind_apply]
    rcases Nat.eq_zero_or_pos s.budget.remaining with hspent | hleft
    · rw [charge_of_spent hw hspent, (metered_evaluate c.toContext depth).stalls n s hspent]
      exact ⟨w, rfl, hw, Nat.le_refl _⟩
    · obtain ⟨w', hcharge, hw'⟩ := charge_of_left hw hleft
      have hstep : s.budget.remaining - 1 ≤ s.budget.remaining := Nat.sub_le _ _
      simp only [hcharge, bind_apply]
      rcases Nat.lt_or_ge depth c.limits.maxDepth.toNat with hd | hd
      · rw [checkDepth_of_lt hw' hd, evaluate_eq_evalForm n hleft hd]
        have hfuel : s.budget.remaining - 1 + 1 ≤ fuel := by omega
        have hparts := fun p => (ih (depth + 1) p).anti hfuel
        have hform := (mirrors_evalForm hparts hfuel n).nested hd
        obtain ⟨u, hu, hheld, hle⟩ := hform w' _ hw' (Nat.lt_succ_self _)
        exact ⟨u, hu, hheld, Nat.le_trans hle hstep⟩
      · rw [checkDepth_of_le hw' hd, evaluate_of_le n hleft hd]
        exact ⟨w', rfl, hw', hstep⟩

/-! ### Folds -/

/-- A fold on a machine that holds the budget of an evaluator. -/
theorem fold_eq {c : WordContext} {e : Evaluator} (hc : e.toContext = c.toContext) {w : Machine}
    {f : Frame} (hw : w.Holds 0 ⟨e.budget, f⟩) (n : Node) :
    ∃ w' f', fold c n w = .ok ((e.fold n).1, w') ∧ w'.Holds 0 ⟨(e.fold n).2.budget, f'⟩ := by
  have hfuel : e.budget.remaining < w.remaining.toNat + 1 := by
    rw [hw.remaining_eq]
    exact Nat.lt_succ_self _
  obtain ⟨w', heval, hw', -⟩ := mirrors_evalNode c (w.remaining.toNat + 1) 0 n _
    ⟨e.budget, .empty⟩ (hw.withFrame .empty) hfuel
  rw [← hc] at heval hw'
  rw [Evaluator.fold_eq]
  refine ⟨w', (final (e.evalRoot n)).frame, ?_, hw'⟩
  rw [fold, heval]
  rfl

theorem foldAll_eq {c : WordContext} {e : Evaluator} (hc : e.toContext = c.toContext) {w : Machine}
    {f : Frame} (hw : w.Holds 0 ⟨e.budget, f⟩) (nodes : List Node) :
    ∃ results, foldAll c nodes w = .ok results ∧
      results.map (fun r => (r.1, r.2.toNat)) = e.foldAll nodes := by
  induction nodes generalizing e w f with
  | nil => exact ⟨[], rfl, rfl⟩
  | cons n nodes ih =>
    obtain ⟨w', f', hfold, hw'⟩ := fold_eq hc hw n
    obtain ⟨used, hused, husedn⟩ := hw'.used_eq
    obtain ⟨results, hrest, hresults⟩ :=
      ih (e := (e.fold n).2) (by rw [Evaluator.fold_eq, ← hc]) hw'
    refine ⟨((e.fold n).1, used) :: results, ?_, ?_⟩
    · rw [foldAll, hfold]
      show (w'.used >>= _) = _
      rw [hused]
      show (foldAll c nodes w' >>= _) = _
      rw [hrest]
      rfl
    · rw [List.map_cons, hresults, husedn]
      rfl

end Checked

/-- **No sequence of folds has a fault, whatever the limits.**  On a machine with words for
counters, an evaluator folds node after node as it does with numbers: no step and no level is
counted beyond a word or below zero, no parameter, slot or operand is picked beyond its list,
and no integer is divided by zero. -/
theorem foldAll_faultless (c : WordContext) (nodes : List Node) :
    ∃ results, Checked.foldAll c nodes (.start c.limits) = .ok results ∧
      results.map (fun r => (r.1, r.2.toNat)) = (Evaluator.start c.toContext).foldAll nodes := by
  have hstart : (Machine.start c.limits).Holds 0
      ⟨(Evaluator.start c.toContext).budget, .empty⟩ := ⟨rfl, rfl, rfl, rfl⟩
  exact Checked.foldAll_eq rfl hstart nodes

end ConstFold
