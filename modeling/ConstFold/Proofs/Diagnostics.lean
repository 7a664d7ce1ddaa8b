import ConstFold.Interrupt
import ConstFold.Proofs.Unquoting
import Mathlib.Logic.Function.Basic
import Mathlib.Tactic.SplitIfs

/-!
# Diagnostics are unambiguous

No two interrupts are displayed alike, so that a diagnostic tells all there is to know about what
ended an evaluation.  A diagnostic begins with fixed words, and no such words begin others, so the
words tell the form of the interrupt.  What stands between and after them is known from the rest: a
number ends where its digits end, a quoted text can be read back, and the name of a kind has letters
only.

Nothing here depends on which characters a quoted text writes by number: the results are proved of
`renderWith hidden` for every choice of them, of which `render` is one.

## Main definitions

* `Value.renderWith`, `Interrupt.renderWith` — displays with a choice of the characters written by
  number.
* `Heading`, `Interrupt.heading` — the forms of diagnostics, by the words they begin with.

## Main results

* `append_inj_of_class` — where signs of a class end, two texts come apart.
* `Heading.eq_of_isPrefix` — no heading begins another.
* `Failure.message_injective`, `Value.renderWith_injective`, `Interrupt.renderWith_injective`.
* `render_unambiguous` — the three displays are injective, and quoted texts can be read back.
-/

namespace ConstFold

/-! ### Displays with a choice of the characters written by number -/

/-- The display of a value, where `hidden` selects the characters written by number. -/
def Value.renderWith (hidden : Char → Bool) : Value → String
  | .text s => Text.quoteWith hidden s
  | v => v.render

/-- The display of an interrupt, where `hidden` selects the characters written by number. -/
def Interrupt.renderWith (hidden : Char → Bool) : Interrupt → String
  | .returning v => "return " ++ v.renderWith hidden
  | i => i.render

theorem Value.renderWith_isHidden : Value.renderWith Text.isHidden = Value.render := by
  funext v
  cases v <;> rfl

theorem Interrupt.renderWith_isHidden : Interrupt.renderWith Text.isHidden = Interrupt.render := by
  funext i
  cases i with
  | returning v =>
    rw [renderWith, render, Value.renderWith_isHidden]
  | breaking l => rfl
  | continuing l => rfl
  | failing f => rfl

/-! ### Numbers, labels and names -/

theorem takeWhile_append_eq {p : Char → Bool} {u v : List Char} (hu : ∀ c ∈ u, p c)
    (hv : ∀ c ∈ v.head?, ¬ p c) : (u ++ v).takeWhile p = u := by
  rw [List.takeWhile_append_of_pos hu]
  cases v with
  | nil => simp
  | cons c v => simp [hv c rfl]

/-- **Where signs of a class end, two texts come apart**: a text of such signs is known from what
follows it, if that begins with none of them. -/
theorem append_inj_of_class (p : Char → Bool) {a b s t : String} (h : a ++ s = b ++ t)
    (ha : ∀ c ∈ a.toList, p c) (hb : ∀ c ∈ b.toList, p c)
    (hs : ∀ c ∈ s.toList.head?, ¬ p c) (ht : ∀ c ∈ t.toList.head?, ¬ p c) : a = b ∧ s = t := by
  have hlist : a.toList ++ s.toList = b.toList ++ t.toList := by
    rw [← String.toList_append, ← String.toList_append, h]
  have hab : a.toList = b.toList := by
    rw [← takeWhile_append_eq ha hs, hlist, takeWhile_append_eq hb ht]
  rw [String.toList_inj] at hab
  subst hab
  exact ⟨rfl, (String.append_right_inj a).1 h⟩

theorem isDigit_of_mem_toString {n : Nat} {c : Char} (h : c ∈ (toString n).toList) : c.isDigit := by
  rw [Nat.toString_eq_ofList_toDigits, String.toList_ofList] at h
  exact Nat.isDigit_of_mem_toDigits (by decide) (by decide) h

/-- A number is read back from its digits. -/
theorem eq_of_toString_eq {m n : Nat} (h : toString m = toString n) : m = n := by
  have hread : ∀ k : Nat, Nat.ofDigitChars 10 (toString k).toList 0 = k := fun k => by
    rw [Nat.toString_eq_ofList_toDigits, String.toList_ofList, Nat.ofDigitChars_ten_toDigits]
  rw [← hread m, h, hread]

/-- So is an integer, as no digit is a sign. -/
theorem eq_of_toString_int_eq {i j : Int} (h : toString i = toString j) : i = j := by
  have hsign : ∀ (n : Nat) (s : String), toString n ≠ "-" ++ s := by
    intro n s hs
    have hdigit : Char.isDigit '-' := isDigit_of_mem_toString (n := n) (by rw [hs]; simp)
    exact absurd hdigit (by decide)
  rw [Int.toString_eq_repr, Int.toString_eq_repr, Int.repr_eq_if, Int.repr_eq_if] at h
  split at h
  · split at h
    · have := eq_of_toString_eq h
      omega
    · exact absurd h (hsign _ _)
  · split at h
    · exact absurd h.symm (hsign _ _)
    · have := eq_of_toString_eq ((String.append_right_inj "-").1 h)
      omega

/-- A number is known from what follows it, if that begins with no digit. -/
theorem toString_append_inj {m n : Nat} {s t : String} (h : toString m ++ s = toString n ++ t)
    (hs : ∀ c ∈ s.toList.head?, ¬ c.isDigit) (ht : ∀ c ∈ t.toList.head?, ¬ c.isDigit) :
    m = n ∧ s = t := by
  obtain ⟨hnumber, hrest⟩ := append_inj_of_class Char.isDigit h
    (fun _ => isDigit_of_mem_toString) (fun _ => isDigit_of_mem_toString) hs ht
  exact ⟨eq_of_toString_eq hnumber, hrest⟩

/-- A label is known by its number. -/
theorem index_eq_of_label_eq {word : String} {i j : UInt32}
    (h : word ++ toString i.toNat = word ++ toString j.toNat) : i = j := by
  have hnumber : toString i.toNat = toString j.toNat := (String.append_right_inj word).1 h
  exact UInt32.toNat_inj.1 (eq_of_toString_eq hnumber)

theorem VariableId.label_injective : Function.Injective VariableId.label := by
  rintro ⟨i⟩ ⟨j⟩ h
  have hindex : i = j := index_eq_of_label_eq h
  rw [hindex]

theorem LoopId.label_injective : Function.Injective LoopId.label := by
  rintro ⟨i⟩ ⟨j⟩ h
  have hindex : i = j := index_eq_of_label_eq h
  rw [hindex]

theorem SymbolId.label_injective : Function.Injective SymbolId.label := by
  rintro ⟨i⟩ ⟨j⟩ h
  have hindex : i = j := index_eq_of_label_eq h
  rw [hindex]

theorem Kind.name_injective : Function.Injective Kind.name := by
  intro j k
  cases j <;> cases k <;> decide

theorem Kind.isAlpha_of_mem_name {k : Kind} {c : Char} (h : c ∈ k.name.toList) : c.isAlpha := by
  have hall : k.name.toList.all Char.isAlpha := by cases k <;> decide +kernel
  exact List.all_eq_true.1 hall c h

/-! ### Headings -/

/-- The form of a diagnostic. -/
inductive Heading where
  /-- A return. -/
  | returning
  /-- A jump past the end of a loop. -/
  | breaking
  /-- A jump to the next round of a loop. -/
  | continuing
  /-- A construct outside the evaluable subset. -/
  | unsupported
  /-- A spent budget. -/
  | stepsExhausted
  /-- Evaluations nested too deep. -/
  | depthExceeded
  /-- A value of another kind than required. -/
  | kindMismatch
  /-- A variable without a value. -/
  | unboundVariable
  /-- A division by zero. -/
  | divisionByZero
  /-- An unknown call target. -/
  | unknownCallee
  /-- A missing argument. -/
  | missingArgument
  /-- A wrong number of arguments. -/
  | arityMismatch
  /-- A jump out of a function. -/
  | abnormalExit
  /-- A result without a literal. -/
  | notALiteral
  deriving DecidableEq

/-- The words a diagnostic of a form begins with. -/
def Heading.words : Heading → String
  | .returning => "return "
  | .breaking => "break@"
  | .continuing => "continue@"
  | .unsupported => "unsupported construct: "
  | .stepsExhausted => "evaluation exceeded the budget of "
  | .depthExceeded => "evaluation nested deeper than "
  | .kindMismatch => "expected a value of kind "
  | .unboundVariable => "variable "
  | .divisionByZero => "division by zero"
  | .unknownCallee => "call target "
  | .missingArgument => "no argument or default for parameter "
  | .arityMismatch => "built-in expects "
  | .abnormalExit => "function "
  | .notALiteral => "result is not a literal"

/-- All forms. -/
def Heading.all : List Heading :=
  [.returning, .breaking, .continuing, .unsupported, .stepsExhausted, .depthExceeded, .kindMismatch,
   .unboundVariable, .divisionByZero, .unknownCallee, .missingArgument, .arityMismatch,
   .abnormalExit, .notALiteral]

theorem Heading.mem_all (a : Heading) : a ∈ all := by cases a <;> decide

/-- **No heading begins another.** -/
theorem Heading.eq_of_isPrefix {a b : Heading} (h : a.words.toList <+: b.words.toList) : a = b := by
  have hall : ∀ a ∈ all, ∀ b ∈ all, a.words.toList <+: b.words.toList → a = b := by decide +kernel
  exact hall a a.mem_all b b.mem_all h

/-- The form of the message of a failure. -/
def Failure.heading : Failure → Heading
  | .unsupported _ => .unsupported
  | .stepsExhausted _ => .stepsExhausted
  | .depthExceeded _ => .depthExceeded
  | .kindMismatch _ _ => .kindMismatch
  | .unboundVariable _ => .unboundVariable
  | .divisionByZero => .divisionByZero
  | .unknownCallee _ => .unknownCallee
  | .missingArgument _ _ => .missingArgument
  | .arityMismatch _ _ => .arityMismatch
  | .abnormalExit _ => .abnormalExit
  | .notALiteral => .notALiteral

/-- The form of the display of an interrupt. -/
def Interrupt.heading : Interrupt → Heading
  | .returning _ => .returning
  | .breaking _ => .breaking
  | .continuing _ => .continuing
  | .failing f => f.heading

/-- What the message of a failure says after its heading. -/
def Failure.details : Failure → String
  | .unsupported construct => construct
  | .stepsExhausted limit => toString limit ++ " steps"
  | .depthExceeded limit => toString limit ++ " levels"
  | .kindMismatch expected found => expected.name ++ (", found " ++ found.name)
  | .unboundVariable v => v.label ++ " has no constant value"
  | .divisionByZero => ""
  | .unknownCallee callee => callee.label ++ " is neither an evaluable function nor a built-in"
  | .missingArgument callee index => toString index ++ (" of " ++ callee.label)
  | .arityMismatch expected found => toString expected ++ (" argument(s), got " ++ toString found)
  | .abnormalExit callee => callee.label ++ " exited abnormally"
  | .notALiteral => ""

/-- What the display of an interrupt says after its heading. -/
def Interrupt.details (hidden : Char → Bool) : Interrupt → String
  | .returning v => v.renderWith hidden
  | .breaking l => l.label
  | .continuing l => l.label
  | .failing f => f.details

theorem Failure.message_eq (f : Failure) : f.message = f.heading.words ++ f.details := by
  cases f with
  | unsupported construct => rfl
  | stepsExhausted limit => exact String.append_assoc
  | depthExceeded limit => exact String.append_assoc
  | kindMismatch expected found => exact String.append_assoc.trans String.append_assoc
  | unboundVariable v => exact String.append_assoc
  | divisionByZero => exact String.append_empty.symm
  | unknownCallee callee => exact String.append_assoc
  | missingArgument callee index => exact String.append_assoc.trans String.append_assoc
  | arityMismatch expected found => exact String.append_assoc.trans String.append_assoc
  | abnormalExit callee => exact String.append_assoc
  | notALiteral => exact String.append_empty.symm

theorem Interrupt.renderWith_eq (hidden : Char → Bool) (i : Interrupt) :
    i.renderWith hidden = i.heading.words ++ i.details hidden := by
  cases i with
  | failing f => exact f.message_eq
  | returning v => rfl
  | breaking l => rfl
  | continuing l => rfl

/-- Equal texts under two headings have one heading, and the same details after it. -/
theorem Heading.append_inj {a b : Heading} {s t : String} (h : a.words ++ s = b.words ++ t) :
    a = b ∧ s = t := by
  have hlist : a.words.toList ++ s.toList = b.words.toList ++ t.toList := by
    rw [← String.toList_append, ← String.toList_append, h]
  have hab : a = b := by
    rcases List.prefix_or_prefix_of_prefix (List.prefix_append a.words.toList s.toList)
      (hlist ▸ List.prefix_append b.words.toList t.toList) with hle | hge
    · exact eq_of_isPrefix hle
    · exact (eq_of_isPrefix hge).symm
  subst hab
  exact ⟨rfl, (String.append_right_inj a.words).1 h⟩

/-! ### Failures -/

/-- **The message of a failure tells the failure.** -/
theorem Failure.message_injective : Function.Injective Failure.message := by
  intro e f h
  rw [message_eq, message_eq] at h
  obtain ⟨hheading, hdetails⟩ := Heading.append_inj h
  -- the heading leaves the pairs of one form
  cases e <;> cases f <;> try cases hheading
  case unsupported.unsupported s t => rw [show s = t from hdetails]
  case stepsExhausted.stepsExhausted m n =>
    rw [eq_of_toString_eq ((String.append_left_inj " steps").1 hdetails)]
  case depthExceeded.depthExceeded m n =>
    rw [eq_of_toString_eq ((String.append_left_inj " levels").1 hdetails)]
  case kindMismatch.kindMismatch j k j' k' =>
    obtain ⟨hexpected, hfound⟩ := append_inj_of_class Char.isAlpha hdetails
      (fun _ => Kind.isAlpha_of_mem_name) (fun _ => Kind.isAlpha_of_mem_name) (by simp) (by simp)
    rw [Kind.name_injective hexpected,
      Kind.name_injective ((String.append_right_inj ", found ").1 hfound)]
  case unboundVariable.unboundVariable v w =>
    rw [VariableId.label_injective ((String.append_left_inj _).1 hdetails)]
  case divisionByZero.divisionByZero => rfl
  case unknownCallee.unknownCallee s t =>
    rw [SymbolId.label_injective ((String.append_left_inj _).1 hdetails)]
  case missingArgument.missingArgument s m t n =>
    obtain ⟨hindex, hcallee⟩ := toString_append_inj hdetails (by simp) (by simp)
    rw [hindex, SymbolId.label_injective ((String.append_right_inj " of ").1 hcallee)]
  case arityMismatch.arityMismatch m n m' n' =>
    obtain ⟨hexpected, hfound⟩ := toString_append_inj hdetails (by simp) (by simp)
    rw [hexpected, eq_of_toString_eq ((String.append_right_inj " argument(s), got ").1 hfound)]
  case abnormalExit.abnormalExit s t =>
    rw [SymbolId.label_injective ((String.append_left_inj _).1 hdetails)]
  case notALiteral.notALiteral => rfl

/-! ### Values -/

/-- The kind of the values whose display begins with a sign. -/
def kindOfSign (c : Char) : Kind :=
  if c = '"' then .text
  else if c = 't' ∨ c = 'f' then .bool
  else if c = 'U' then .unit
  else .int

theorem kindOfSign_of_isDigit {c : Char} (h : c.isDigit) : kindOfSign c = .int := by
  unfold kindOfSign
  split_ifs with htext hbool hunit
  · rw [htext] at h
    exact absurd h (by decide)
  · rcases hbool with rfl | rfl
    · exact absurd h (by decide)
    · exact absurd h (by decide)
  · rw [hunit] at h
    exact absurd h (by decide)
  · rfl

theorem exists_kindOfSign_toString_nat (n : Nat) :
    ∃ c ∈ (toString n).toList.head?, kindOfSign c = .int := by
  cases h : (toString n).toList with
  | nil =>
    rw [Nat.toString_eq_ofList_toDigits, String.toList_ofList] at h
    exact absurd h Nat.toDigits_ne_nil
  | cons c cs =>
    refine ⟨c, rfl, kindOfSign_of_isDigit (isDigit_of_mem_toString (n := n) ?_)⟩
    rw [h]
    exact List.mem_cons_self

/-- The first sign of a display tells the kind of the value. -/
theorem Value.exists_kindOfSign (hidden : Char → Bool) (v : Value) :
    ∃ c ∈ (v.renderWith hidden).toList.head?, kindOfSign c = v.kind := by
  cases v with
  | int i =>
    rw [renderWith, render, Int.toString_eq_repr, Int.repr_eq_if]
    · split
      · exact exists_kindOfSign_toString_nat _
      · exact ⟨'-', by simp, rfl⟩
    · simp
  | bool b =>
    cases b
    · exact ⟨'f', by simp [renderWith, render], rfl⟩
    · exact ⟨'t', by simp [renderWith, render], rfl⟩
  | text s => exact ⟨'"', by simp [renderWith, Text.quoteWith], rfl⟩
  | unit => exact ⟨'U', by simp [renderWith, render], rfl⟩

/-- **The display of a value tells the value.** -/
theorem Value.renderWith_injective (hidden : Char → Bool) :
    Function.Injective (Value.renderWith hidden) := by
  intro v w h
  have hkind : v.kind = w.kind := by
    obtain ⟨c, hc, hv⟩ := v.exists_kindOfSign hidden
    obtain ⟨d, hd, hw⟩ := w.exists_kindOfSign hidden
    rw [h] at hc
    rw [← hv, ← hw, Option.mem_unique hc hd]
  cases v <;> cases w <;> try cases hkind
  case int.int i j =>
    have hint : i.toInt = j.toInt := eq_of_toString_int_eq h
    rw [Int32.toInt_inj.1 hint]
  case bool.bool a b =>
    cases a <;> cases b <;> simp [renderWith, render] at h ⊢
  case text.text s t =>
    have hread := congrArg Text.unquote h
    rw [renderWith, renderWith, Text.unquote_quoteWith, Text.unquote_quoteWith] at hread
    rw [Option.some.inj hread]
  case unit.unit => rfl

/-! ### Interrupts -/

/-- **The display of an interrupt tells the interrupt.** -/
theorem Interrupt.renderWith_injective (hidden : Char → Bool) :
    Function.Injective (Interrupt.renderWith hidden) := by
  intro i j h
  have hparts := h
  rw [renderWith_eq, renderWith_eq] at hparts
  obtain ⟨hheading, hdetails⟩ := Heading.append_inj hparts
  cases i with
  | returning v =>
    cases j with
    | returning w => rw [Value.renderWith_injective hidden hdetails]
    | failing f => cases f <;> cases hheading
    | _ => cases hheading
  | breaking l =>
    cases j with
    | breaking m => rw [LoopId.label_injective hdetails]
    | failing f => cases f <;> cases hheading
    | _ => cases hheading
  | continuing l =>
    cases j with
    | continuing m => rw [LoopId.label_injective hdetails]
    | failing f => cases f <;> cases hheading
    | _ => cases hheading
  | failing e =>
    cases j with
    | failing f => rw [Failure.message_injective h]
    | _ => cases e <;> cases hheading

/-- **Diagnostics are unambiguous.**  Interrupts, values and failures are known by their displays,
and a text by its quoted form.  This holds whichever characters are written by number. -/
theorem render_unambiguous :
    Function.Injective Interrupt.render ∧ Function.Injective Value.render ∧
      Function.Injective Failure.message ∧
      (∀ s : String, Text.unquote (Text.quote s) = some s) ∧
      ∀ hidden : Char → Bool,
        Function.Injective (Interrupt.renderWith hidden) ∧
          Function.Injective (Value.renderWith hidden) ∧
          ∀ s : String, Text.unquote (Text.quoteWith hidden s) = some s := by
  refine ⟨?_, ?_, Failure.message_injective, Text.unquote_quoteWith Text.isHidden, ?_⟩
  · rw [← Interrupt.renderWith_isHidden]
    exact Interrupt.renderWith_injective Text.isHidden
  · rw [← Value.renderWith_isHidden]
    exact Value.renderWith_injective Text.isHidden
  · intro hidden
    exact ⟨Interrupt.renderWith_injective hidden, Value.renderWith_injective hidden,
      Text.unquote_quoteWith hidden⟩

end ConstFold
