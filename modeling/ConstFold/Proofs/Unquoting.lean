import ConstFold.Text.Quoted
import Mathlib.Tactic.IntervalCases

/-!
# Reading quoted texts back

The written form of a text is read sign by sign.  A reader remembers where it stands: between two
written characters, after a backslash, or inside the number of a character.  It need not know which
characters are written by number, since a number only ever stands after a backslash, and a
backslash or a double quote of the text is never written as it is.

## Main definitions

* `Place`, `Place.next` — where a reader stands, and what one sign does.
* `read`, `unquote` — what is read from a list of signs and from a written form.

## Main results

* `read_escape` — the written form of one character is read as that character, whatever follows.
* `unquote_quoteWith` — **a text is read back from its written form**, whichever characters are
  written by number.
-/

namespace ConstFold.Text

/-! ### The reader -/

/-- Where a reader of a written form stands. -/
inductive Place where
  /-- Before the opening quote. -/
  | outside
  /-- Between two written characters. -/
  | between
  /-- After a backslash. -/
  | escaped
  /-- After a backslash and the sign that announces a number. -/
  | announced
  /-- Inside the braces, with the number read so far. -/
  | number (n : Nat)
  /-- After the closing quote. -/
  | closed
  deriving DecidableEq

/-- The value of a hexadecimal digit in lower case. -/
def digitValue? (c : Char) : Option Nat :=
  if '0' ≤ c ∧ c ≤ '9' then some (c.toNat - '0'.toNat)
  else if 'a' ≤ c ∧ c ≤ 'f' then some (c.toNat - 'a'.toNat + 10)
  else none

/-- The character that a sign stands for after a backslash. -/
def shorthand? : Char → Option Char
  | '0' => some '\x00'
  | 't' => some '\t'
  | 'n' => some '\n'
  | 'r' => some '\r'
  | '"' => some '"'
  | '\\' => some '\\'
  | _ => none

/-- The character with a number, if there is one. -/
def numbered? (n : Nat) : Option Char :=
  if n.isValidChar then some (Char.ofNat n) else none

/-- What a reader does with one sign: the characters this completes, and where it stands then. -/
def Place.next : Place → Char → Option (List Char × Place)
  | .outside, '"' => some ([], .between)
  | .between, '"' => some ([], .closed)
  | .between, '\\' => some ([], .escaped)
  | .between, c => some ([c], .between)
  | .escaped, 'u' => some ([], .announced)
  | .escaped, c => (shorthand? c).map fun d => ([d], .between)
  | .announced, '\x7b' => some ([], .number 0)
  | .number n, '\x7d' => (numbered? n).map fun d => ([d], .between)
  | .number n, c => (digitValue? c).map fun d => ([], .number (16 * n + d))
  | _, _ => none

/-- The characters read from a place to the end, which is to come right after the closing quote. -/
def read : Place → List Char → Option (List Char)
  | p, [] => if p = .closed then some [] else none
  | p, c :: cs => do
      let (done, q) ← p.next c
      return done ++ (← read q cs)

/-- The text with a written form. -/
def unquote (s : String) : Option String := (read .outside s.toList).map String.ofList

/-! ### Single signs -/

theorem read_cons {p q : Place} {c : Char} {done : List Char} (h : p.next c = some (done, q))
    (cs : List Char) : read p (c :: cs) = (read q cs).map (done ++ ·) := by
  simp only [read, h, Option.bind_eq_bind, Option.bind_some, Option.pure_def]
  cases read q cs <;> rfl

/-- A sign that completes no character only moves the reader. -/
theorem read_cons_moving {p q : Place} {c : Char} (h : p.next c = some ([], q)) (cs : List Char) :
    read p (c :: cs) = read q cs := by
  have hread := read_cons h cs
  simpa using hread

/-- A sign that completes a character gives it. -/
theorem read_cons_completing {p q : Place} {c d : Char} (h : p.next c = some ([d], q))
    (cs : List Char) : read p (c :: cs) = (read q cs).map (d :: ·) := read_cons h cs

theorem next_between_of_ne {c : Char} (hquote : c ≠ '"') (hslash : c ≠ '\\') :
    Place.between.next c = some ([c], .between) := by
  unfold Place.next
  split <;> simp_all

theorem next_digit {d : Nat} (hd : d < 16) (n : Nat) :
    (Place.number n).next d.digitChar = some ([], .number (16 * n + d)) := by
  interval_cases d <;> rfl

theorem numbered?_toNat (c : Char) : numbered? c.toNat = some c := by
  have hvalid : c.toNat.isValidChar := c.valid
  rw [numbered?, if_pos hvalid, Char.ofNat_toNat]

/-! ### Characters and texts -/

/-- The digits of a number are read as the number. -/
theorem read_digits (n : Nat) (cs : List Char) :
    read (.number 0) (Nat.toDigits 16 n ++ cs) = read (.number n) cs := by
  induction n using Nat.strongRecOn generalizing cs with
  | ind n ih =>
    rcases Nat.lt_or_ge n 16 with h | h
    · rw [Nat.toDigits_of_lt_base h, List.singleton_append, read_cons_moving (next_digit h 0)]
      simp
    · -- the last digit is read after the number that the digits before it stand for
      rw [Nat.toDigits_of_base_le (by omega) h, List.append_assoc, ih (n / 16) (by omega),
        List.singleton_append, read_cons_moving (next_digit (Nat.mod_lt n (by omega)) (n / 16)),
        Nat.div_add_mod]

/-- **The written form of a character is read as that character**, whatever follows. -/
theorem read_escape (hidden : Char → Bool) (c : Char) (cs : List Char) :
    read .between (escape hidden c ++ cs) = (read .between cs).map (c :: ·) := by
  unfold escape
  split
  case h_7 hquote hslash =>
    split
    · -- a character written by number
      simp only [List.cons_append, List.append_assoc, codeDigits, List.nil_append]
      rw [read_cons_moving rfl, read_cons_moving rfl, read_cons_moving rfl, read_digits]
      have hnext : (Place.number c.toNat).next '\x7d' = some ([c], .between) := by
        simp [Place.next, numbered?_toNat]
      exact read_cons_completing hnext cs
    · exact read_cons_completing (next_between_of_ne hquote hslash) cs
  all_goals
    simp only [List.cons_append, List.nil_append]
    rw [read_cons_moving rfl]
    exact read_cons_completing rfl cs

theorem read_flatMap_escape (hidden : Char → Bool) (l cs : List Char) :
    read .between (l.flatMap (escape hidden) ++ cs) = (read .between cs).map (l ++ ·) := by
  induction l with
  | nil => simp
  | cons c l ih =>
    rw [List.flatMap_cons, List.append_assoc, read_escape, ih, Option.map_map]
    rfl

/-- **A text is read back from its written form**, whichever characters are written by number. -/
theorem unquote_quoteWith (hidden : Char → Bool) (s : String) :
    unquote (quoteWith hidden s) = some s := by
  have hread : read .outside ('"' :: (s.toList.flatMap (escape hidden) ++ ['"'])) =
      some s.toList := by
    rw [read_cons_moving rfl, read_flatMap_escape, read_cons_moving rfl]
    simp [read]
  rw [unquote, quoteWith, String.toList_ofList, hread, Option.map_some, String.ofList_toList]

example : unquote "\"\\u\x7b301\x7d\\\"\"" = some "\u0301\"" := by decide +kernel

/-- A quote inside a written form ends it. -/
example : unquote "\"a\"b\"" = none := by decide +kernel

end ConstFold.Text
