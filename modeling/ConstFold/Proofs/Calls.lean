import ConstFold.Proofs.Unfolding

/-!
# Calls

A call is settled before any of its arguments is evaluated: either it is refused, for a
cause that can be read off the program and the operators, or its slots are filled.  A call
that is refused has taken its own step and nothing else.  One that is not refused has its
slots evaluated in order, in the caller's frame, and only a lazy operator whose left operand
settles the result leaves one out.

## Main definitions

* `slotCount`, `slotAt?` — how many slots a call has, and what fills them.
* `Refused`, `Accepted` — the causes a call is refused for, in their order of precedence, and
  what is left to do of a call that is not.
* `InOrder` — nodes evaluated one after the other.

## Main results

* `resolve_eq_error_iff`, `resolve_eq_ok_iff` — what resolution comes to, so that the rules for
  calls in `Evaluates` can be read without it.
* `evaluate_call` — **a call is refused after one step, or has its slots evaluated in order.**
-/

namespace ConstFold

open Run

/-! ### Slots -/

/-- The parameters a symbol is declared with, if it is declared. -/
def Program.parameters? (p : Program) (callee : SymbolId) : Option (List Parameter) :=
  (p.get? callee).map (·.parameters)

/-- The body a symbol is declared with, if it has one. -/
def Program.body? (p : Program) (callee : SymbolId) : Option Body :=
  (p.get? callee).bind (·.body?)

/-- The number of slots of a call: one for each parameter, or, if the callee is not declared,
one for each argument. -/
def slotCount (parameters? : Option (List Parameter)) (arguments : List (Option Node)) : Nat :=
  match parameters? with
  | some parameters => parameters.length
  | none => arguments.length

/-- What fills a slot: the argument that is supplied, else the default. -/
def slotAt? (parameters? : Option (List Parameter)) (arguments : List (Option Node)) (i : Nat) :
    Option Node :=
  arguments[i]?.join.or ((parameters?.bind (·[i]?)).bind (·.default?))

/-- The slots that arguments and defaults fill. -/
structure AreSlots (parameters? : Option (List Parameter)) (arguments : List (Option Node))
    (slots : List Node) : Prop where
  length_eq : slots.length = slotCount parameters? arguments
  getElem?_eq : ∀ i < slotCount parameters? arguments, slots[i]? = slotAt? parameters? arguments i

namespace AreSlots

variable {parameters? : Option (List Parameter)} {arguments : List (Option Node)}
  {slots slots' : List Node}

theorem slotAt?_ne_none (h : AreSlots parameters? arguments slots) {i : Nat}
    (hi : i < slotCount parameters? arguments) : slotAt? parameters? arguments i ≠ none := by
  rw [← h.getElem?_eq i hi, List.getElem?_eq_getElem (h.length_eq ▸ hi)]
  exact Option.some_ne_none _

/-- Arguments and defaults fill the slots in one way. -/
theorem unique (h : AreSlots parameters? arguments slots)
    (h' : AreSlots parameters? arguments slots') : slots = slots' := by
  refine List.ext_getElem? fun i => ?_
  rcases Nat.lt_or_ge i (slotCount parameters? arguments) with hi | hi
  · rw [h.getElem?_eq i hi, h'.getElem?_eq i hi]
  · rw [List.getElem?_eq_none (h.length_eq ▸ hi), List.getElem?_eq_none (h'.length_eq ▸ hi)]

end AreSlots

/-! ### Filling slots -/

/-- What fills a slot, from the arguments and a list of the defaults. -/
def slotFrom? (defaults arguments : List (Option Node)) (i : Nat) : Option Node :=
  arguments[i]?.join.or defaults[i]?.join

theorem slotFrom?_zero (d : Option Node) (ds arguments : List (Option Node)) :
    slotFrom? (d :: ds) arguments 0 = arguments.head?.join.or d := by
  cases arguments <;> rfl

theorem slotFrom?_succ (d : Option Node) (ds arguments : List (Option Node)) (i : Nat) :
    slotFrom? (d :: ds) arguments (i + 1) = slotFrom? ds arguments.tail i := by
  cases arguments <;> simp [slotFrom?]

/-- If every slot can be filled, all are. -/
theorem fillSlots_eq_ok (callee : SymbolId) (index : Nat) {defaults arguments : List (Option Node)}
    (h : ∀ i < defaults.length, slotFrom? defaults arguments i ≠ none) :
    ∃ slots, fillSlots callee index defaults arguments = .ok slots ∧
      ∀ i < defaults.length, slots[i]? = slotFrom? defaults arguments i := by
  induction defaults generalizing index arguments with
  | nil => exact ⟨[], rfl, by simp⟩
  | cons d ds ih =>
    obtain ⟨n, hn⟩ := Option.ne_none_iff_exists'.1 (h 0 (Nat.succ_pos _))
    obtain ⟨slots, hfill, hslots⟩ := ih (index + 1) fun i hi => by
      rw [← slotFrom?_succ d]
      exact h (i + 1) (Nat.succ_lt_succ hi)
    refine ⟨n :: slots, ?_, fun i hi => ?_⟩
    · rw [slotFrom?_zero] at hn
      simp only [fillSlots, hn, hfill]
      rfl
    · cases i with
      | zero => exact hn.symm
      | succ i => rw [slotFrom?_succ]; exact hslots i (Nat.lt_of_succ_lt_succ hi)

/-- The first slot that cannot be filled is missing. -/
theorem fillSlots_eq_error (callee : SymbolId) (index : Nat)
    {defaults arguments : List (Option Node)} {i : Nat} (hi : i < defaults.length)
    (hmissing : slotFrom? defaults arguments i = none)
    (hbefore : ∀ j < i, slotFrom? defaults arguments j ≠ none) :
    fillSlots callee index defaults arguments = .error (.missingArgument callee (index + i)) := by
  induction defaults generalizing index arguments i with
  | nil => exact absurd hi (Nat.not_lt_zero i)
  | cons d ds ih =>
    cases i with
    | zero =>
      rw [slotFrom?_zero] at hmissing
      simp only [fillSlots, hmissing]
      rfl
    | succ i =>
      obtain ⟨n, hn⟩ := Option.ne_none_iff_exists'.1 (hbefore 0 (Nat.succ_pos i))
      rw [slotFrom?_zero] at hn
      rw [slotFrom?_succ] at hmissing
      have hrest := ih (index + 1) (Nat.lt_of_succ_lt_succ hi) hmissing fun j hj => by
        rw [← slotFrom?_succ d]
        exact hbefore (j + 1) (Nat.succ_lt_succ hj)
      simp only [fillSlots, hn, hrest]
      rw [Nat.add_right_comm, Nat.add_assoc]
      rfl

/-- If every argument is supplied, the slots are the arguments. -/
theorem fillSlots_map_some (callee : SymbolId) (index : Nat) {defaults : List (Option Node)}
    {nodes : List Node} (h : nodes.length = defaults.length) :
    fillSlots callee index defaults (nodes.map some) = .ok nodes := by
  induction nodes generalizing defaults index with
  | nil =>
    rw [List.length_eq_zero_iff.1 h.symm]
    rfl
  | cons n ns ih =>
    cases defaults with
    | nil => cases h
    | cons default defaults =>
      have hrest := ih (index + 1) (Nat.succ.inj h)
      simp only [fillSlots, List.map_cons, List.head?_cons, List.tail_cons, Option.join_some,
        Option.some_or, hrest]
      rfl

/-- The defaults of the slots of a call; without a declaration there are none. -/
def slotDefaults (parameters? : Option (List Parameter)) (arguments : List (Option Node)) :
    List (Option Node) :=
  match parameters? with
  | some parameters => parameters.map (·.default?)
  | none => arguments.map fun _ => none

theorem length_slotDefaults (parameters? : Option (List Parameter))
    (arguments : List (Option Node)) :
    (slotDefaults parameters? arguments).length = slotCount parameters? arguments := by
  cases parameters? <;> simp [slotDefaults, slotCount]

theorem slotFrom?_slotDefaults (parameters? : Option (List Parameter))
    (arguments : List (Option Node)) (i : Nat) :
    slotFrom? (slotDefaults parameters? arguments) arguments i =
      slotAt? parameters? arguments i := by
  cases parameters? with
  | none =>
    have hnone : ((arguments.map fun _ => (none : Option Node))[i]?).join = none := by
      rw [List.getElem?_map]
      cases arguments[i]? <;> rfl
    rw [slotFrom?, slotAt?, slotDefaults, hnone]
    rfl
  | some parameters => cases h : parameters[i]? <;> simp [slotFrom?, slotAt?, slotDefaults, h]

/-- The slots of a call, filled as far as that is possible. -/
def callSlots (callee : SymbolId) (parameters? : Option (List Parameter))
    (arguments : List (Option Node)) : Except Failure (List Node) :=
  match parameters? with
  | some parameters => declaredSlots callee parameters arguments
  | none => suppliedSlots callee arguments

/-- Unless there are too many arguments, the slots are filled with the defaults as needed. -/
theorem callSlots_eq_fillSlots (callee : SymbolId) {parameters? : Option (List Parameter)}
    {arguments : List (Option Node)} (h : arguments.length ≤ slotCount parameters? arguments) :
    callSlots callee parameters? arguments =
      fillSlots callee 0 (slotDefaults parameters? arguments) arguments := by
  cases parameters? with
  | none => rfl
  | some parameters => exact if_neg (Nat.not_lt.2 h)

theorem callSlots_of_tooMany (callee : SymbolId) {parameters? : Option (List Parameter)}
    {arguments : List (Option Node)} (h : slotCount parameters? arguments < arguments.length) :
    callSlots callee parameters? arguments =
      .error (.arityMismatch (slotCount parameters? arguments) arguments.length) := by
  cases parameters? with
  | none => exact absurd h (Nat.lt_irrefl _)
  | some parameters => exact if_pos h

theorem callSlots_of_missing (callee : SymbolId) {parameters? : Option (List Parameter)}
    {arguments : List (Option Node)} (h : arguments.length ≤ slotCount parameters? arguments)
    {i : Nat} (hi : i < slotCount parameters? arguments)
    (hmissing : slotAt? parameters? arguments i = none)
    (hbefore : ∀ j < i, slotAt? parameters? arguments j ≠ none) :
    callSlots callee parameters? arguments = .error (.missingArgument callee i) := by
  simp only [← slotFrom?_slotDefaults] at hmissing hbefore
  rw [← length_slotDefaults] at hi
  rw [callSlots_eq_fillSlots callee h, fillSlots_eq_error callee 0 hi hmissing hbefore,
    Nat.zero_add]

theorem callSlots_of_filled (callee : SymbolId) {parameters? : Option (List Parameter)}
    {arguments : List (Option Node)} (h : arguments.length ≤ slotCount parameters? arguments)
    (hfilled : ∀ i < slotCount parameters? arguments, slotAt? parameters? arguments i ≠ none) :
    ∃ slots, callSlots callee parameters? arguments = .ok slots ∧
      AreSlots parameters? arguments slots := by
  simp only [← slotFrom?_slotDefaults, ← length_slotDefaults] at hfilled
  obtain ⟨slots, hfill, hslots⟩ := fillSlots_eq_ok callee 0 hfilled
  refine ⟨slots, (callSlots_eq_fillSlots callee h).trans hfill, ?_, fun i hi => ?_⟩
  · rw [length_of_fillSlots_eq_ok hfill, length_slotDefaults]
  · rw [← slotFrom?_slotDefaults]
    exact hslots i (by rwa [length_slotDefaults])

/-- Of the slots that are not filled there is a first one. -/
theorem exists_first_missing {parameters? : Option (List Parameter)}
    {arguments : List (Option Node)}
    (h : ¬ ∀ i < slotCount parameters? arguments, slotAt? parameters? arguments i ≠ none) :
    ∃ i < slotCount parameters? arguments, slotAt? parameters? arguments i = none ∧
      ∀ j < i, slotAt? parameters? arguments j ≠ none := by
  by_contra hnone
  refine h fun i => ?_
  induction i using Nat.strongRecOn with
  | ind i ih =>
    intro hi hmissing
    exact hnone ⟨i, hi, hmissing, fun j hj => ih j hj (Nat.lt_trans hj hi)⟩

/-- **What the slots of a call are**, unless there are too many arguments. -/
theorem callSlots_eq_ok_iff {callee : SymbolId} {parameters? : Option (List Parameter)}
    {arguments : List (Option Node)} {slots : List Node} :
    callSlots callee parameters? arguments = .ok slots ↔
      arguments.length ≤ slotCount parameters? arguments ∧
        AreSlots parameters? arguments slots := by
  constructor
  · intro hcall
    have hle : arguments.length ≤ slotCount parameters? arguments := by
      refine Nat.le_of_not_lt fun hlt => ?_
      rw [callSlots_of_tooMany callee hlt] at hcall
      cases hcall
    refine ⟨hle, ?_⟩
    by_cases hfilled : ∀ i < slotCount parameters? arguments, slotAt? parameters? arguments i ≠ none
    · obtain ⟨slots', hcall', hare⟩ := callSlots_of_filled callee hle hfilled
      cases hcall.symm.trans hcall'
      exact hare
    · obtain ⟨i, hi, hmissing, hbefore⟩ := exists_first_missing hfilled
      rw [callSlots_of_missing callee hle hi hmissing hbefore] at hcall
      cases hcall
  · rintro ⟨hle, hare⟩
    obtain ⟨slots', hcall, hare'⟩ :=
      callSlots_of_filled callee hle fun i hi => hare.slotAt?_ne_none hi
    rw [hcall, hare.unique hare']

/-! ### Refusal -/

/-- The callee has a body or is a registered operator. -/
def Known (program : Program) (operators : OperatorTable) (callee : SymbolId) : Prop :=
  program.body? callee ≠ none ∨ operators.get? callee ≠ none

/-- The causes a call is refused for. -/
inductive Refused (program : Program) (operators : OperatorTable) (callee : SymbolId)
    (arguments : List (Option Node)) : Failure → Prop
  /-- The callee has no body and is no operator. -/
  | unknown : program.body? callee = none → operators.get? callee = none →
      Refused program operators callee arguments (.unknownCallee callee)
  /-- There are more arguments than parameters. -/
  | tooMany : Known program operators callee →
      slotCount (program.parameters? callee) arguments < arguments.length →
      Refused program operators callee arguments
        (.arityMismatch (slotCount (program.parameters? callee) arguments) arguments.length)
  /-- A slot, the first one of them, has neither an argument nor a default. -/
  | missing {i : Nat} : Known program operators callee →
      arguments.length ≤ slotCount (program.parameters? callee) arguments →
      i < slotCount (program.parameters? callee) arguments →
      slotAt? (program.parameters? callee) arguments i = none →
      (∀ j < i, slotAt? (program.parameters? callee) arguments j ≠ none) →
      Refused program operators callee arguments (.missingArgument callee i)
  /-- All slots are filled, but there are not as many as the operator takes. -/
  | arity {b : Builtin} : program.body? callee = none → operators.get? callee = some b →
      arguments.length ≤ slotCount (program.parameters? callee) arguments →
      (∀ i < slotCount (program.parameters? callee) arguments,
        slotAt? (program.parameters? callee) arguments i ≠ none) →
      slotCount (program.parameters? callee) arguments ≠ b.combinator.arity →
      Refused program operators callee arguments (.arityMismatch b.combinator.arity
        (slotCount (program.parameters? callee) arguments))

/-- What is left to do of a call that is not refused: its slots are filled, and it has a body,
or it is an operator that takes as many operands. -/
inductive Accepted (program : Program) (operators : OperatorTable) (callee : SymbolId)
    (arguments : List (Option Node)) : Resolved → Prop
  /-- The body is run in a frame that binds each parameter to its slot. -/
  | inlined {body : Body} {slots : List Node} : program.body? callee = some body →
      arguments.length ≤ slotCount (program.parameters? callee) arguments →
      AreSlots (program.parameters? callee) arguments slots →
      Accepted program operators callee arguments
        (.inlined ((((program.parameters? callee).getD []).map (·.variableId)).zip slots) body)
  /-- An operator that may leave out its right operand. -/
  | shortCircuit {b : Builtin} {decides : Bool → Bool} {combine : Bool → Bool → Bool}
      {left right : Node} : program.body? callee = none → operators.get? callee = some b →
      b.combinator = .shortCircuit decides combine →
      arguments.length ≤ slotCount (program.parameters? callee) arguments →
      AreSlots (program.parameters? callee) arguments [left, right] →
      Accepted program operators callee arguments (.shortCircuit decides combine left right)
  /-- An operator that takes all its operands. -/
  | strict {b : Builtin} {slots : List Node} : program.body? callee = none →
      operators.get? callee = some b → b.combinator.decides? = none →
      arguments.length ≤ slotCount (program.parameters? callee) arguments →
      AreSlots (program.parameters? callee) arguments slots →
      slots.length = b.combinator.arity →
      Accepted program operators callee arguments (.strict b.combinator slots)

/-! ### Resolution -/

namespace Combinator

variable {c : Combinator} {slots : List Node}

theorem resolve_of_length_ne (h : slots.length ≠ c.arity) :
    c.resolve slots = .error (.arityMismatch c.arity slots.length) := by
  unfold resolve
  split
  · exact absurd rfl h
  · exact if_neg h

/-- Without a test on the left operand, the combinator is applied to all of them. -/
theorem resolve_of_strict (h : slots.length = c.arity) (hc : c.decides? = none) :
    c.resolve slots = .ok (.strict c slots) := by
  cases c with
  | shortCircuit decides combine => cases hc
  | _ => exact if_pos h

/-- With one, the operands are two. -/
theorem resolve_of_lazy {decides : Bool → Bool} (h : slots.length = c.arity)
    (hc : c.decides? = some decides) :
    ∃ combine left right, c = .shortCircuit decides combine ∧ slots = [left, right] ∧
      c.resolve slots = .ok (.shortCircuit decides combine left right) := by
  cases c with
  | shortCircuit d combine =>
    cases hc
    obtain ⟨left, right, rfl⟩ := List.length_eq_two.1 h
    exact ⟨combine, left, right, rfl, rfl, rfl⟩
  | _ => cases hc

end Combinator

section Resolution

variable {program : Program} {operators : OperatorTable} {callee : SymbolId}
  {arguments : List (Option Node)}

/-- A callee with a body is inlined once its slots are filled. -/
theorem resolve_of_body {body : Body} (h : program.body? callee = some body) :
    resolve program operators callee arguments =
      callSlots callee (program.parameters? callee) arguments >>= fun slots =>
        .ok (.inlined ((((program.parameters? callee).getD []).map (·.variableId)).zip slots)
          body) := by
  unfold Program.body? at h
  cases hd : program.get? callee with
  | none => simp [hd] at h
  | some d =>
    obtain ⟨name, parameters, body?⟩ := d
    simp only [hd, Option.bind_some] at h
    subst h
    simp [resolve, Program.parameters?, callSlots, hd]
    rfl

theorem resolveOperator_eq (operators : OperatorTable) (callee : SymbolId)
    (parameters? : Option (List Parameter)) (arguments : List (Option Node)) :
    resolveOperator operators callee parameters? arguments =
      match operators.get? callee with
      | none => .error (.unknownCallee callee)
      | some b => callSlots callee parameters? arguments >>= b.combinator.resolve := by
  unfold resolveOperator
  cases operators.get? callee with
  | none => rfl
  | some b => cases parameters? <;> rfl

/-- A callee without one has to be an operator, and then its arity is checked too. -/
theorem resolve_of_no_body (h : program.body? callee = none) :
    resolve program operators callee arguments =
      match operators.get? callee with
      | none => .error (.unknownCallee callee)
      | some b => callSlots callee (program.parameters? callee) arguments >>=
          b.combinator.resolve := by
  rw [← resolveOperator_eq]
  unfold Program.body? at h
  cases hd : program.get? callee with
  | none => simp only [resolve, Program.parameters?, hd, Option.map_none]
  | some d =>
    obtain ⟨name, parameters, body?⟩ := d
    simp only [hd, Option.bind_some] at h
    subst h
    simp only [resolve, Program.parameters?, hd, Option.map_some]

/-- With its slots filled, an operator is resolved by its combinator. -/
theorem resolve_of_operator {b : Builtin} {slots : List Node} (hbody : program.body? callee = none)
    (hb : operators.get? callee = some b)
    (hcall : callSlots callee (program.parameters? callee) arguments = .ok slots) :
    resolve program operators callee arguments = b.combinator.resolve slots := by
  rw [resolve_of_no_body hbody, hb]
  simp only [hcall]
  rfl

/-- A cause for refusal is what resolution fails with. -/
theorem Refused.resolve_eq {cause : Failure}
    (h : Refused program operators callee arguments cause) :
    resolve program operators callee arguments = .error cause := by
  -- With a body or as an operator, the callee has its slots filled first.
  have hslots : ∀ {e : Failure}, Known program operators callee →
      callSlots callee (program.parameters? callee) arguments = .error e →
      resolve program operators callee arguments = .error e := by
    intro e hknown hcall
    cases hbody : program.body? callee with
    | some body => rw [resolve_of_body hbody, hcall]; rfl
    | none =>
      obtain ⟨b, hb⟩ := Option.ne_none_iff_exists'.1 (hknown.resolve_left (not_not.2 hbody))
      rw [resolve_of_no_body hbody, hb]
      simp only [hcall]
      rfl
  cases h with
  | unknown hbody hoperator => rw [resolve_of_no_body hbody, hoperator]
  | tooMany hknown h => exact hslots hknown (callSlots_of_tooMany callee h)
  | missing hknown h hi hmissing hbefore =>
    exact hslots hknown (callSlots_of_missing callee h hi hmissing hbefore)
  | @arity b hbody hoperator h hfilled hne =>
    obtain ⟨slots, hcall, hare⟩ := callSlots_of_filled callee h hfilled
    rw [← hare.length_eq] at hne ⊢
    rw [resolve_of_operator hbody hoperator hcall]
    exact Combinator.resolve_of_length_ne hne

/-- A call that is not refused has its slots filled, and an operator has as many as it takes. -/
theorem exists_slots_of_not_refused
    (h : ∀ cause, ¬ Refused program operators callee arguments cause) :
    ∃ slots, callSlots callee (program.parameters? callee) arguments = .ok slots ∧
      AreSlots (program.parameters? callee) arguments slots ∧
      ∀ b, program.body? callee = none → operators.get? callee = some b →
        slots.length = b.combinator.arity := by
  have hknown : Known program operators callee := by
    by_contra hunknown
    simp only [Known, not_or, not_not] at hunknown
    exact h _ (.unknown hunknown.1 hunknown.2)
  have hle : arguments.length ≤ slotCount (program.parameters? callee) arguments :=
    Nat.le_of_not_lt fun hlt => h _ (.tooMany hknown hlt)
  have hfilled : ∀ i < slotCount (program.parameters? callee) arguments,
      slotAt? (program.parameters? callee) arguments i ≠ none := by
    by_contra hunfilled
    obtain ⟨i, hi, hmissing, hbefore⟩ := exists_first_missing hunfilled
    exact h _ (.missing hknown hle hi hmissing hbefore)
  obtain ⟨slots, hcall, hare⟩ := callSlots_of_filled callee hle hfilled
  refine ⟨slots, hcall, hare, fun b hbody hoperator => ?_⟩
  by_contra hne
  rw [hare.length_eq] at hne
  exact h _ (.arity hbody hoperator hle hfilled hne)

/-- What is left to do of an accepted call is what resolution gives. -/
theorem Accepted.resolve_eq {r : Resolved} (h : Accepted program operators callee arguments r) :
    resolve program operators callee arguments = .ok r := by
  cases h with
  | inlined hbody hle hare =>
    rw [resolve_of_body hbody, callSlots_eq_ok_iff.2 ⟨hle, hare⟩]
    rfl
  | shortCircuit hbody hb hc hle hare =>
    rw [resolve_of_operator hbody hb (callSlots_eq_ok_iff.2 ⟨hle, hare⟩), hc]
    rfl
  | strict hbody hb hc hle hare hlength =>
    rw [resolve_of_operator hbody hb (callSlots_eq_ok_iff.2 ⟨hle, hare⟩)]
    exact Combinator.resolve_of_strict hlength hc

theorem exists_accepted_of_not_refused
    (h : ∀ cause, ¬ Refused program operators callee arguments cause) :
    ∃ r, Accepted program operators callee arguments r := by
  obtain ⟨slots, hcall, hare, harity⟩ := exists_slots_of_not_refused h
  have hle := (callSlots_eq_ok_iff.1 hcall).1
  cases hbody : program.body? callee with
  | some body => exact ⟨_, .inlined hbody hle hare⟩
  | none =>
    cases hb : operators.get? callee with
    | none => exact absurd (.unknown hbody hb) (h _)
    | some b =>
      have hlength := harity b hbody hb
      cases hc : b.combinator.decides? with
      | none => exact ⟨_, .strict hbody hb hc hle hare hlength⟩
      | some decides =>
        obtain ⟨combine, left, right, hcombinator, rfl, -⟩ :=
          Combinator.resolve_of_lazy hlength hc
        exact ⟨_, .shortCircuit hbody hb hcombinator hle hare⟩

/-- **Resolution fails with the causes a call is refused for**, -/
theorem resolve_eq_error_iff {cause : Failure} :
    resolve program operators callee arguments = .error cause ↔
      Refused program operators callee arguments cause := by
  refine ⟨fun hresolve => ?_, Refused.resolve_eq⟩
  by_cases h : ∃ cause, Refused program operators callee arguments cause
  · obtain ⟨cause', hrefused⟩ := h
    cases hresolve.symm.trans hrefused.resolve_eq
    exact hrefused
  · obtain ⟨r, haccepted⟩ := exists_accepted_of_not_refused (not_exists.1 h)
    cases hresolve.symm.trans haccepted.resolve_eq

/-- **and otherwise gives what is left to do of it.** -/
theorem resolve_eq_ok_iff {r : Resolved} :
    resolve program operators callee arguments = .ok r ↔
      Accepted program operators callee arguments r := by
  refine ⟨fun hresolve => ?_, Accepted.resolve_eq⟩
  by_cases h : ∃ cause, Refused program operators callee arguments cause
  · obtain ⟨cause, hrefused⟩ := h
    cases hresolve.symm.trans hrefused.resolve_eq
  · obtain ⟨r', haccepted⟩ := exists_accepted_of_not_refused (not_exists.1 h)
    cases hresolve.symm.trans haccepted.resolve_eq
    exact haccepted

end Resolution

/-! ### Evaluation in order -/

/-- Nodes evaluated one after the other, each from the state the one before it has left, up
to the first that is interrupted. -/
inductive InOrder (eval : Node → Run Value) :
    List Node → State → Except Interrupt (List Value) → State → Prop
  | nil {s : State} : InOrder eval [] s (.ok []) s
  | cons {n : Node} {ns : List Node} {s t u : State} {a : Value} {as : List Value} :
      eval n s = .ok a t → InOrder eval ns t (.ok as) u → InOrder eval (n :: ns) s (.ok (a :: as)) u
  | later {n : Node} {ns : List Node} {s t u : State} {a : Value} {i : Interrupt} :
      eval n s = .ok a t → InOrder eval ns t (.error i) u → InOrder eval (n :: ns) s (.error i) u
  | interrupted {n : Node} {ns : List Node} {s t : State} {i : Interrupt} :
      eval n s = .error i t → InOrder eval (n :: ns) s (.error i) t

theorem inOrder_evalAll (eval : Node → Run Value) (nodes : List Node) (s : State) :
    InOrder eval nodes s (outcome (evalAll eval nodes s)) (final (evalAll eval nodes s)) := by
  induction nodes generalizing s with
  | nil => exact .nil
  | cons n ns ih =>
    rw [evalAll_cons, bind_apply]
    cases hn : eval n s with
    | error i t => exact .interrupted hn
    | ok a t =>
      have hns := ih t
      simp only [bind_apply]
      cases h : evalAll eval ns t with
      | error i u => rw [h] at hns; exact .later hn hns
      | ok as u => rw [h] at hns; exact .cons hn hns

/-- To bind the slots as they are evaluated is to evaluate them all and then bind them. -/
theorem evalSlots_zip (eval : Node → Run Value) (frame : Frame) {vs : List VariableId}
    {nodes : List Node} (h : vs.length = nodes.length) :
    evalSlots eval frame (vs.zip nodes) =
      evalAll eval nodes >>= fun values => pure (frame.insertAll (vs.zip values)) := by
  induction vs generalizing nodes frame with
  | nil =>
    cases nodes with
    | nil => rfl
    | cons n ns => cases h
  | cons v vs ih =>
    cases nodes with
    | nil => cases h
    | cons n ns =>
      have hrest := fun value => ih (frame.insert v value) (Nat.succ.inj h)
      simp only [List.zip_cons_cons, evalSlots_cons, evalAll_cons, hrest, bind_assoc, pure_bind,
        Bindings.insertAll_cons]

/-- The slots of a call are evaluated in order, all of them unless one is interrupted, and the
run goes on with their values. -/
def EvaluatesSlots (eval : Node → Run Value) (slots : List Node) (next : List Value → Run Value)
    (s : State) (r : EStateM.Result Interrupt State Value) : Prop :=
  ∃ o t, InOrder eval slots s o t ∧
    r = match o with
      | .ok values => next values t
      | .error i => .error i t

theorem evaluatesSlots_bind (eval : Node → Run Value) (slots : List Node)
    (next : List Value → Run Value) (s : State) :
    EvaluatesSlots eval slots next s ((evalAll eval slots >>= next) s) := by
  refine ⟨_, _, inOrder_evalAll eval slots s, ?_⟩
  rw [bind_apply]
  cases evalAll eval slots s <;> rfl

/-! ### Calls that are carried out -/

theorem ofExcept_bind {α β : Type} (e : Except Failure α) (f : α → Except Failure β) :
    ofExcept (e >>= f) = ofExcept e >>= fun a => ofExcept (f a) := by
  cases e <;> rfl

/-- A lazy operator, with its left operand kept as a value. -/
theorem evalResolved_shortCircuit_eq (eval : Node → Run Value) (callee : SymbolId)
    (decides : Bool → Bool) (combine : Bool → Bool → Bool) (left right : Node) :
    evalResolved eval callee (.shortCircuit decides combine left right) =
      eval left >>= fun a => ofExcept a.asBool >>= fun p =>
        if decides p then pure a else eval right >>= fun a' =>
          ofExcept ((Combinator.shortCircuit decides combine).apply [a, a']) := by
  rw [evalResolved, evalCondition_eq, bind_assoc]
  congr 1
  funext a
  cases a with
  | bool p =>
    simp only [Value.asBool_bool, ofExcept_ok, pure_bind]
    congr 1
    rw [evalCondition_eq, bind_assoc]
    congr 1
    funext a'
    cases a' <;> rfl
  | _ => rfl

section Carried

variable {program : Program} {operators : OperatorTable} {callee : SymbolId}
  {arguments : List (Option Node)} {slots : List Node} (eval : Node → Run Value) (s : State)

/-- A function is inlined: its slots are bound in a frame of its own, and its body is run
there. -/
theorem evaluatesSlots_inlined (hslots : AreSlots (program.parameters? callee) arguments slots)
    {body : Body} (hbody : program.body? callee = some body) :
    let vs := ((program.parameters? callee).getD []).map (·.variableId)
    EvaluatesSlots eval slots
      (fun values => settle callee (inFrame (.ofList (vs.zip values)) (evalBody eval body))) s
      (evalResolved eval callee (.inlined (vs.zip slots) body) s) := by
  intro vs
  have hlength : vs.length = slots.length := by
    rw [hslots.length_eq]
    cases hd : program.get? callee with
    | none => simp [Program.body?, hd] at hbody
    | some d => simp [vs, Program.parameters?, slotCount, hd]
  rw [evalResolved, evalSlots_zip eval .empty hlength, bind_assoc]
  exact evaluatesSlots_bind eval slots _ s

theorem evalCondition_of_bool {q : Node} {p : Bool} {t : State}
    (h : eval q s = .ok (.bool p) t) : evalCondition eval q s = .ok p t := by
  rw [evalCondition_apply, h]
  rfl

/-- A lazy operator evaluates its right operand only if the left one does not decide. -/
theorem evalResolved_shortCircuit (callee : SymbolId) (decides : Bool → Bool)
    (combine : Bool → Bool → Bool) (left right : Node) :
    let run := evalResolved eval callee (.shortCircuit decides combine left right) s
    (∀ i, truth (outcome (eval left s)) = .error i → run = .error i (final (eval left s))) ∧
      (∀ p t, eval left s = .ok (.bool p) t → decides p = true → run = .ok (.bool p) t) ∧
      ∀ p t, eval left s = .ok (.bool p) t → decides p = false →
        EvaluatesSlots eval [left, right]
          (fun values => ofExcept ((Combinator.shortCircuit decides combine).apply values)) s
          run := by
  intro run
  have hrun : run = _ := bind_apply ..
  refine ⟨fun i hi => ?_, fun p t hp hdecides => ?_, fun p t hp hdecides => ?_⟩
  · rw [hrun, evalCondition_apply, hi]
    rfl
  · rw [hrun, evalCondition_of_bool eval s hp]
    simp only [hdecides, if_true, pure_apply]
  · -- From an operand that does not decide the operator is as good as strict.
    have hstrict : run = (evalAll eval [left, right] >>= fun values =>
        ofExcept ((Combinator.shortCircuit decides combine).apply values)) s := by
      rw [show run = _ from congrFun (evalResolved_shortCircuit_eq ..) s]
      simp only [evalAll_cons, evalAll_nil, bind_assoc, pure_bind]
      rw [bind_apply, bind_apply, hp]
      simp only [Value.asBool_bool, ofExcept_ok, pure_bind, hdecides, Bool.false_eq_true, if_false]
    rw [hstrict]
    exact evaluatesSlots_bind eval _ _ s

end Carried

/-! ### Calls -/

/-- A call that is started is resolved at once, and then carried out. -/
theorem evaluate_call_eq {context : Context} {depth : Nat} (callee : SymbolId)
    (arguments : List (Option Node)) {s : State} (hs : 0 < s.budget.remaining)
    (hd : depth < context.limits.maxDepth) :
    evaluate context depth (.call callee arguments) s =
      match resolve context.program context.operators callee arguments with
      | .ok resolved => evalResolved (evaluate context (depth + 1)) callee resolved
          { s with budget := s.budget.spend 1 }
      | .error cause => .error (.failing cause) { s with budget := s.budget.spend 1 } := by
  rw [evaluate_eq_evalForm _ hs hd]
  show (ofExcept (resolve context.program context.operators callee arguments) >>= _) _ = _
  rw [bind_apply]
  cases resolve context.program context.operators callee arguments <;> rfl

/-- **A call is refused after one step, or has its slots evaluated in order.**  If there is a
cause to refuse it, the call fails with that cause, one step is taken and the frame is as it
was.  If there is none, its slots are the arguments that are supplied, else the defaults.
They are evaluated from the first to the last in the caller's frame, and the function or
operator goes on with their values; only a lazy operator leaves the second out, if the first
one decides, or is no truth value. -/
theorem evaluate_call (context : Context) {depth : Nat} (callee : SymbolId)
    (arguments : List (Option Node)) {s : State} (hs : 0 < s.budget.remaining)
    (hd : depth < context.limits.maxDepth) :
    let run := evaluate context depth (.call callee arguments) s
    let part := evaluate context (depth + 1)
    let started : State := { s with budget := s.budget.spend 1 }
    let parameters? := context.program.parameters? callee
    let vs := (parameters?.getD []).map (·.variableId)
    (∀ cause, Refused context.program context.operators callee arguments cause →
      run = .error (.failing cause) started) ∧
    ((∀ cause, ¬ Refused context.program context.operators callee arguments cause) →
      ∃ slots, AreSlots parameters? arguments slots ∧
        (∀ body, context.program.body? callee = some body →
          EvaluatesSlots part slots
            (fun values => settle callee (inFrame (.ofList (vs.zip values)) (evalBody part body)))
            started run) ∧
        ∀ b, context.program.body? callee = none → context.operators.get? callee = some b →
          (b.combinator.decides? = none →
            EvaluatesSlots part slots (fun values => ofExcept (b.combinator.apply values))
              started run) ∧
          ∀ decides, b.combinator.decides? = some decides → ∃ left right, slots = [left, right] ∧
            (∀ i, truth (outcome (part left started)) = .error i →
              run = .error i (final (part left started))) ∧
            (∀ p t, part left started = .ok (.bool p) t → decides p = true →
              run = .ok (.bool p) t) ∧
            ∀ p t, part left started = .ok (.bool p) t → decides p = false →
              EvaluatesSlots part slots (fun values => ofExcept (b.combinator.apply values))
                started run) := by
  intro run part started parameters? vs
  have hrun : run = _ := evaluate_call_eq callee arguments hs hd
  refine ⟨fun cause hcause => ?_, fun hnot => ?_⟩
  · rw [hrun, hcause.resolve_eq]
  · obtain ⟨slots, hcall, hslots, harity⟩ := exists_slots_of_not_refused hnot
    refine ⟨slots, hslots, fun body hbody => ?_, fun b hbody hb => ⟨fun hc => ?_, ?_⟩⟩
    · rw [resolve_of_body hbody, hcall] at hrun
      rw [hrun]
      exact evaluatesSlots_inlined part started hslots hbody
    · rw [resolve_of_operator hbody hb hcall,
        Combinator.resolve_of_strict (harity b hbody hb) hc] at hrun
      rw [hrun]
      exact evaluatesSlots_bind part slots _ started
    · intro decides hc
      obtain ⟨combine, left, right, hcombinator, rfl, hresolve⟩ :=
        Combinator.resolve_of_lazy (harity b hbody hb) hc
      rw [resolve_of_operator hbody hb hcall, hresolve] at hrun
      rw [hrun, hcombinator]
      exact ⟨left, right, rfl, evalResolved_shortCircuit part started callee decides combine ..⟩

/-- A call of a function of three parameters, of which the first alone has a default and none
is given an argument, is refused for the second, whatever the frame holds. -/
theorem evaluate_call_omitted :
    let program : Program := .ofList [(⟨5⟩, ⟨"pick",
      [⟨⟨0⟩, some (.int 1)⟩, ⟨⟨1⟩, none⟩, ⟨⟨2⟩, none⟩], some (.expression (.get ⟨0⟩))⟩)]
    let s : State := ⟨.full 9, .ofList [(⟨1⟩, .int 4)]⟩
    0 < s.budget.remaining ∧ 2 < 3 ∧
      evaluate ⟨⟨9, 3⟩, program, .reserved⟩ 2 (.call ⟨5⟩ [none, none]) s =
        .error (.failing (.missingArgument ⟨5⟩ 1)) { s with budget := s.budget.spend 1 } := by
  intro program s
  have hs : 0 < s.budget.remaining := by decide
  refine ⟨hs, by decide, ?_⟩
  refine (evaluate_call ⟨⟨9, 3⟩, program, .reserved⟩ ⟨5⟩ [none, none] hs (by decide)).1 _ ?_
  refine .missing (.inl fun h => ?_) (by decide) (by decide) rfl fun j hj => ?_
  · cases h
  · obtain rfl : j = 0 := by omega
    exact Option.some_ne_none _

end ConstFold
