import ConstFold.Operator.Table
import ConstFold.Program

/-!
# Resolution of calls

Before any argument is evaluated, a call is resolved: its target is found, each
parameter is given the supplied argument or its default, and the number of slots
is checked.  What is left to do is a `Resolved` call.

A declaration with a body is inlined, whatever the operator table says of its
symbol.  Otherwise the symbol has to be a registered operator.  The arguments of
an operator are matched with the declared parameters if there is a declaration
without a body, and have all to be supplied if there is none.

## Main definitions

* `fillSlots` — arguments, else defaults, parameter by parameter.
* `Resolved`, `resolve` — resolved calls, and how a call becomes one.

## Main results

* `length_of_fillSlots_eq_ok` — there is one slot for each parameter.

## References

`SPEC_FULL.md`, section 4.3 (Call), section 13 (arity) and section 15 (missing arguments).
-/

namespace ConstFold

/-- What is left to do of a call after resolution. -/
inductive Resolved where
  /-- Bind each variable to the value of its slot in a fresh frame, then run the body there. -/
  | inlined (slots : List (VariableId × Node)) (body : Body)
  /-- Evaluate the left operand, and the right one unless the left one decides. -/
  | shortCircuit (decides : Bool → Bool) (combine : Bool → Bool → Bool) (left right : Node)
  /-- Evaluate every slot, then apply the combinator. -/
  | strict (combinator : Combinator) (slots : List Node)

/-- Fills the slots from number `index` on, one for each of the `defaults`: with
the argument if one is supplied, else with the default.  The first slot that has
neither is missing. -/
def fillSlots (callee : SymbolId) (index : Nat) :
    (defaults arguments : List (Option Node)) → Except Failure (List Node)
  | [], _ => .ok []
  | d :: ds, arguments =>
      match (arguments.head?.join).or d with
      | some node => do
          let rest ← fillSlots callee (index + 1) ds arguments.tail
          return node :: rest
      | none => .error (.missingArgument callee index)

@[simp] theorem fillSlots_nil (callee : SymbolId) (index : Nat) (arguments : List (Option Node)) :
    fillSlots callee index [] arguments = .ok [] := rfl

/-- There is one slot for each parameter. -/
theorem length_of_fillSlots_eq_ok {callee : SymbolId} {index : Nat}
    {defaults arguments : List (Option Node)} {slots : List Node}
    (h : fillSlots callee index defaults arguments = .ok slots) :
    slots.length = defaults.length := by
  induction defaults generalizing index arguments slots with
  | nil =>
    cases h
    rfl
  | cons d ds ih =>
    unfold fillSlots at h
    split at h
    · next node _ =>
      cases hrest : fillSlots callee (index + 1) ds arguments.tail with
      | error f =>
        rw [hrest] at h
        cases h
      | ok rest =>
        rw [hrest] at h
        cases h
        simp [ih hrest]
    · cases h

/-- The slots of a call of a declared function: there may be fewer arguments than
parameters, but not more. -/
def declaredSlots (callee : SymbolId) (parameters : List Parameter)
    (arguments : List (Option Node)) : Except Failure (List Node) :=
  if parameters.length < arguments.length then
    .error (.arityMismatch parameters.length arguments.length)
  else fillSlots callee 0 (parameters.map (·.default?)) arguments

/-- The slots of a call of an undeclared operator: every argument is supplied. -/
def suppliedSlots (callee : SymbolId) (arguments : List (Option Node)) :
    Except Failure (List Node) :=
  fillSlots callee 0 (arguments.map fun _ => none) arguments

/-- An operator's slots, checked against its arity. -/
def Combinator.resolve (combinator : Combinator) (slots : List Node) : Except Failure Resolved :=
  match combinator, slots with
  | .shortCircuit decides combine, [left, right] =>
      .ok (.shortCircuit decides combine left right)
  | combinator, slots =>
      if slots.length = combinator.arity then .ok (.strict combinator slots)
      else .error (.arityMismatch combinator.arity slots.length)

/-- Resolves a call of a symbol without a body, given its declared parameters if any. -/
def resolveOperator (operators : OperatorTable) (callee : SymbolId)
    (parameters? : Option (List Parameter)) (arguments : List (Option Node)) :
    Except Failure Resolved :=
  match operators.get? callee with
  | none => .error (.unknownCallee callee)
  | some builtin => do
      let slots ← match parameters? with
        | some parameters => declaredSlots callee parameters arguments
        | none => suppliedSlots callee arguments
      builtin.combinator.resolve slots

/-- Resolves a call. -/
def resolve (program : Program) (operators : OperatorTable) (callee : SymbolId)
    (arguments : List (Option Node)) : Except Failure Resolved :=
  match program.get? callee with
  | some ⟨_, parameters, some body⟩ => do
      let slots ← declaredSlots callee parameters arguments
      return .inlined ((parameters.map (·.variableId)).zip slots) body
  | some ⟨_, parameters, none⟩ => resolveOperator operators callee (some parameters) arguments
  | none => resolveOperator operators callee none arguments

end ConstFold
