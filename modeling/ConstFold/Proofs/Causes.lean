import ConstFold.Proofs.Outcomes

/-!
# Causes that lie in the program

Only the start of a node can fail for want of a resource.  Everything a node does
apart from that, from reading a variable to resolving a call, gives a value or fails
for a cause that lies in the program.  Such a failure is plain: it is not made of a jump
that leaves a function either, nor of what comes out at the root.

## Main definitions

* `Failure.isPlain` — the failures a node can have by itself.
* `Yields P` — a plain result that is a value with `P`, or a plain failure.
* `Interrupt.IsResource`, `ResourceEnd` — the interrupts and outcomes that stem from a limit.

## Main results

* `Builtin.yields_apply` — applying an operator fails only by the program's fault.
* `resolve_yields` — **so does resolving a call.**
-/

namespace ConstFold

/-- Whether a node can have the failure by itself.  The others are those of a limit, of
a jump that leaves a function, and of the root. -/
def Failure.isPlain : Failure → Bool
  | .stepsExhausted _ | .depthExceeded _ | .abnormalExit _ | .notALiteral => false
  | .unsupported construct => construct != "control transfer outside of a function"
  | _ => true

theorem Failure.isResource_eq_false_of_isPlain {f : Failure} (h : f.isPlain = true) :
    f.isResource = false := by
  cases f with
  | stepsExhausted l => cases h
  | depthExceeded l => cases h
  | _ => rfl

/-- A plain result that is a value with `P`, or a plain failure. -/
inductive Yields {α : Type} (P : α → Prop) : Except Failure α → Prop
  | ok {a : α} : P a → Yields P (.ok a)
  | error {f : Failure} : f.isPlain = true → Yields P (.error f)

namespace Yields

variable {α β : Type} {P : α → Prop} {Q : β → Prop}

theorem bind {x : Except Failure α} {f : α → Except Failure β} (hx : Yields P x)
    (hf : ∀ {a}, P a → Yields Q (f a)) : Yields Q (x >>= f) := by
  cases hx with
  | ok ha => exact hf ha
  | error he => exact .error he

theorem isPlain_of_eq_error {x : Except Failure α} {f : Failure} (hx : Yields P x)
    (h : x = .error f) : f.isPlain = true := by
  subst h
  cases hx with
  | error he => exact he

theorem isResource_eq_false {x : Except Failure α} {f : Failure} (hx : Yields P x)
    (h : x = .error f) : f.isResource = false :=
  Failure.isResource_eq_false_of_isPlain (hx.isPlain_of_eq_error h)

theorem of_eq_ok {x : Except Failure α} {a : α} (hx : Yields P x) (h : x = .ok a) : P a := by
  subst h
  cases hx with
  | ok ha => exact ha

end Yields

/-- The interrupts that stem from a limit. -/
def Interrupt.IsResource : Interrupt → Prop
  | .failing f => f.isResource = true
  | _ => False

/-- The outcomes that stem from a limit. -/
def ResourceEnd {α : Type} : Except Interrupt α → Prop
  | .ok _ => False
  | .error i => i.IsResource

/-! ### Values, constants and variables -/

theorem Value.yields_asInt (v : Value) : Yields (fun _ => True) v.asInt := by
  cases v with
  | int i => exact .ok trivial
  | _ => exact .error rfl

theorem Value.yields_asBool (v : Value) : Yields (fun _ => True) v.asBool := by
  cases v with
  | bool b => exact .ok trivial
  | _ => exact .error rfl

theorem Value.yields_asText (v : Value) : Yields (fun _ => True) v.asText := by
  cases v with
  | text s => exact .ok trivial
  | _ => exact .error rfl

theorem Constant.yields_value (c : Constant) : Yields (fun _ => True) c.value := by
  cases c with
  | int i | bool b | text s => exact .ok trivial
  | _ => exact .error rfl

theorem Frame.yields_read (f : Frame) (v : VariableId) : Yields (fun _ => True) (f.read v) := by
  unfold Frame.read
  split
  · exact .ok trivial
  · exact .error rfl

/-! ### Outcomes -/

theorem not_resourceEnd_plain {α : Type} {P : α → Prop} {e : Except Failure α} (h : Yields P e) :
    ¬ ResourceEnd (plain e) := by
  cases h with
  | ok _ => exact id
  | error hf =>
    intro hres
    have hne := Failure.isResource_eq_false_of_isPlain hf
    rw [show _ = true from hres] at hne
    cases hne

/-- A condition is out of resources only if its node is. -/
theorem resourceEnd_truth {o : Outcome} : ResourceEnd (truth o) ↔ ResourceEnd o := by
  cases o with
  | ok a => exact iff_of_false (not_resourceEnd_plain a.yields_asBool) id
  | error i => exact Iff.rfl

/-- A round is out of resources only if its body is. -/
theorem resourceEnd_roundEnd (id : LoopId) {o : Outcome} :
    ResourceEnd (roundEnd id o) ↔ ResourceEnd o := by
  cases o with
  | ok a => exact Iff.rfl
  | error i =>
    cases i with
    | returning a => exact Iff.rfl
    | failing cause => exact Iff.rfl
    | breaking target =>
      by_cases htarget : target = id
      · simp [roundEnd, htarget, ResourceEnd, Interrupt.IsResource]
      · simp [roundEnd, htarget, ResourceEnd]
    | continuing target =>
      by_cases htarget : target = id
      · simp [roundEnd, htarget, ResourceEnd, Interrupt.IsResource]
      · simp [roundEnd, htarget, ResourceEnd]

/-- A call is out of resources only if its body is. -/
theorem resourceEnd_settled (callee : SymbolId) {o : Outcome} :
    ResourceEnd (settled callee o) ↔ ResourceEnd o := by
  cases o with
  | ok a => exact Iff.rfl
  | error i =>
    cases i with
    | returning a => exact Iff.rfl
    | failing cause => exact Iff.rfl
    | breaking target => exact iff_of_false (fun h => by cases h) id
    | continuing target => exact iff_of_false (fun h => by cases h) id

theorem resourceEnd_map {α β : Type} {g : α → β} {o : Except Interrupt α} :
    ResourceEnd (o.map g) ↔ ResourceEnd o := by
  cases o with
  | ok a => exact Iff.rfl
  | error i => exact Iff.rfl

/-- A run at the root is out of resources only if its result is. -/
theorem not_resourceEnd_of_conclude {o : Outcome}
    (h : ∀ f, conclude o = .error f → f.isResource = false) : ¬ ResourceEnd o := by
  intro hres
  cases o with
  | ok a => exact hres
  | error i =>
    cases i with
    | failing cause => exact Bool.noConfusion ((h cause rfl).symm.trans hres)
    | _ => exact hres

/-! ### Operators -/

/-- A combinator that fails only by the program's fault. -/
def Combinator.IsPlain (c : Combinator) : Prop :=
  ∀ args, Yields (fun _ => True) (c.apply args)

/-- What a combinator adds to the checks of its arguments is the function inside, and
only one form of it can fail there. -/
theorem Combinator.isPlain_of_intBinary {c : Combinator}
    (h : ∀ f, c = .intBinary f → ∀ i j, Yields (fun _ => True) (f i j)) : c.IsPlain := by
  intro args
  unfold Combinator.apply
  -- One case for each form with its arguments; the last is a wrong number of them.
  split
  · exact (Value.yields_asInt _).bind fun _ => .ok trivial
  · next f a b =>
    refine (Value.yields_asInt _).bind fun _ => (Value.yields_asInt _).bind fun _ => ?_
    exact (h f rfl _ _).bind fun _ => .ok trivial
  · exact (Value.yields_asInt _).bind fun _ => (Value.yields_asInt _).bind fun _ => .ok trivial
  · exact (Value.yields_asBool _).bind fun _ => .ok trivial
  · exact (Value.yields_asBool _).bind fun _ => (Value.yields_asBool _).bind fun _ => .ok trivial
  · exact (Value.yields_asText _).bind fun _ => (Value.yields_asText _).bind fun _ => .ok trivial
  · exact .error rfl

theorem Builtin.yields_quotient (i j : Int32) : Yields (fun _ => True) (quotient i j) := by
  unfold quotient
  split
  · exact .error rfl
  · exact .ok trivial

theorem Builtin.yields_remainder (i j : Int32) : Yields (fun _ => True) (remainder i j) := by
  unfold remainder
  split
  · exact .error rfl
  · exact .ok trivial

/-- Applying an operator fails only by the program's fault. -/
theorem Builtin.yields_apply (b : Builtin) : b.combinator.IsPlain := by
  refine Combinator.isPlain_of_intBinary fun f hf i j => ?_
  -- The operators whose function can fail are the two that divide.
  cases b <;> cases hf
  case intDiv => exact yields_quotient i j
  case intRem => exact yields_remainder i j
  all_goals exact .ok trivial

/-! ### Resolution -/

/-- A resolved call whose combinator, if it has one to apply, fails only by the
program's fault. -/
def Resolved.IsPlain : Resolved → Prop
  | .strict c _ => c.IsPlain
  | _ => True

theorem fillSlots_yields (callee : SymbolId) (index : Nat)
    (defaults arguments : List (Option Node)) :
    Yields (fun _ => True) (fillSlots callee index defaults arguments) := by
  induction defaults generalizing index arguments with
  | nil => exact .ok trivial
  | cons d ds ih =>
    unfold fillSlots
    split
    · exact (ih (index + 1) arguments.tail).bind fun _ => .ok trivial
    · exact .error rfl

theorem declaredSlots_yields (callee : SymbolId) (parameters : List Parameter)
    (arguments : List (Option Node)) :
    Yields (fun _ => True) (declaredSlots callee parameters arguments) := by
  unfold declaredSlots
  split
  · exact .error rfl
  · exact fillSlots_yields ..

theorem Combinator.resolve_yields {c : Combinator} (hc : c.IsPlain) (slots : List Node) :
    Yields Resolved.IsPlain (c.resolve slots) := by
  unfold Combinator.resolve
  split
  · exact .ok trivial
  · split
    · exact .ok hc
    · exact .error rfl

theorem resolveOperator_yields (operators : OperatorTable) (callee : SymbolId)
    (parameters? : Option (List Parameter)) (arguments : List (Option Node)) :
    Yields Resolved.IsPlain (resolveOperator operators callee parameters? arguments) := by
  unfold resolveOperator
  split
  · exact .error rfl
  · next b _ =>
    -- The arity is checked after the slots are filled, with or without a declaration.
    have hb : ∀ slots, Yields Resolved.IsPlain (b.combinator.resolve slots) :=
      Combinator.resolve_yields b.yields_apply
    cases parameters? with
    | none => exact (fillSlots_yields ..).bind fun _ => hb _
    | some parameters => exact (declaredSlots_yields ..).bind fun _ => hb _

/-- **Resolving a call fails only by the program's fault.** -/
theorem resolve_yields (program : Program) (operators : OperatorTable) (callee : SymbolId)
    (arguments : List (Option Node)) :
    Yields Resolved.IsPlain (resolve program operators callee arguments) := by
  unfold resolve
  split
  · exact (declaredSlots_yields ..).bind fun _ => .ok trivial
  · exact resolveOperator_yields ..
  · exact resolveOperator_yields ..

end ConstFold
