import ConstFold.Failure
import ConstFold.Text.Quoted

/-!
# Values and literals

Evaluation works on four kinds of value.  The accessors `asInt`, `asBool` and
`asText` answer a value of another kind with the mismatch as the cause.  A
literal is a value a host can put in place of a call site: every value but the
unit value.

## Main definitions

* `Value`, `Value.kind`, `Value.render` — values, their kinds and their display.
* `Literal`, `Value.toLiteral`, `Literal.toValue` — literals, to and fro.

## Main results

* `Value.toLiteral_toValue` — a literal survives the way through values.
* `Value.toLiteral_eq_ok_iff` — the literal of a value is the one it came from.

## References

`SPEC_FULL.md`, sections 3, 4.1 and 12: `Value`, `Literal` and their accessors.
-/

namespace ConstFold

/-- A fully evaluated value. -/
inductive Value where
  /-- An integer of 32 bits; arithmetic wraps. -/
  | int (i : Int32)
  /-- A truth value. -/
  | bool (b : Bool)
  /-- A text. -/
  | text (s : String)
  /-- The value of statements and of constructs evaluated for their effect. -/
  | unit
  deriving DecidableEq, Repr, Inhabited

/-- A value a host can put in place of a call site. -/
inductive Literal where
  /-- An integer of 32 bits. -/
  | int (i : Int32)
  /-- A truth value. -/
  | bool (b : Bool)
  /-- A text. -/
  | text (s : String)
  deriving DecidableEq, Repr, Inhabited

namespace Value

/-- The kind of a value. -/
def kind : Value → Kind
  | .int _ => .int
  | .bool _ => .bool
  | .text _ => .text
  | .unit => .unit

/-- The integer a value is. -/
def asInt : Value → Except Failure Int32
  | .int i => .ok i
  | v => .error (.kindMismatch .int v.kind)

/-- The truth value a value is. -/
def asBool : Value → Except Failure Bool
  | .bool b => .ok b
  | v => .error (.kindMismatch .bool v.kind)

/-- The text a value is. -/
def asText : Value → Except Failure String
  | .text s => .ok s
  | v => .error (.kindMismatch .text v.kind)

/-- The display of a value: integers in decimal, texts in quotes. -/
def render : Value → String
  | .int i => toString i.toInt
  | .bool b => if b then "true" else "false"
  | .text s => Text.quote s
  | .unit => "Unit"

/-- The literal a value is; the unit value has none. -/
def toLiteral : Value → Except Failure Literal
  | .int i => .ok (.int i)
  | .bool b => .ok (.bool b)
  | .text s => .ok (.text s)
  | .unit => .error .notALiteral

@[simp] theorem asInt_int (i : Int32) : asInt (.int i) = .ok i := rfl

@[simp] theorem asBool_bool (b : Bool) : asBool (.bool b) = .ok b := rfl

@[simp] theorem asText_text (s : String) : asText (.text s) = .ok s := rfl

theorem asInt_eq_ok_iff {v : Value} {i : Int32} : v.asInt = .ok i ↔ v = .int i := by
  cases v <;> simp [asInt]

theorem asBool_eq_ok_iff {v : Value} {b : Bool} : v.asBool = .ok b ↔ v = .bool b := by
  cases v <;> simp [asBool]

theorem asText_eq_ok_iff {v : Value} {s : String} : v.asText = .ok s ↔ v = .text s := by
  cases v <;> simp [asText]

end Value

namespace Literal

/-- A literal as a value. -/
def toValue : Literal → Value
  | .int i => .int i
  | .bool b => .bool b
  | .text s => .text s

/-- The integer a literal is, if it is one. -/
def asInt? : Literal → Option Int32
  | .int i => some i
  | _ => none

/-- The truth value a literal is, if it is one. -/
def asBool? : Literal → Option Bool
  | .bool b => some b
  | _ => none

/-- The text a literal is, if it is one. -/
def asText? : Literal → Option String
  | .text s => some s
  | _ => none

/-- A literal is shown as its value is. -/
def render (l : Literal) : String := l.toValue.render

end Literal

@[simp] theorem Value.toLiteral_toValue (l : Literal) : l.toValue.toLiteral = .ok l := by
  cases l <;> rfl

theorem Value.toLiteral_eq_ok_iff {v : Value} {l : Literal} :
    v.toLiteral = .ok l ↔ v = l.toValue := by
  cases v <;> cases l <;> simp [Value.toLiteral, Literal.toValue]

end ConstFold
