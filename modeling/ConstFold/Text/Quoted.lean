import ConstFold.Text.DefaultIgnorable
import ConstFold.Text.ExtendingMark
import ConstFold.Text.Unprintable

/-!
# Quoted texts

A text is shown between double quotes.  Six characters have an escape of two
characters, a character that would not show up as a sign of its own is written
by its number, and every other character stands for itself.  An apostrophe needs
no escape between double quotes.

## Main definitions

* `isHidden` — the characters that show no sign of their own.
* `escape hidden` — the written form of one character, where `hidden` selects the
  characters written by number.
* `quoteWith hidden`, `quote` — the written form of a text.

## Main results

* `isHidden_iff` — the hidden characters are those of the three tables.
-/

namespace ConstFold.Text

/-- A character that shows no sign of its own: it is not printable, it is ignored by
default, or it is a mark on the character before it. -/
def isHidden (c : Char) : Bool := isUnprintable c || isDefaultIgnorable c || isExtendingMark c

/-- The three tables are in order, so that a character is hidden exactly if one of them has it. -/
theorem isHidden_iff {c : Char} :
    isHidden c = true ↔
      ∃ r ∈ unprintableRanges ++ defaultIgnorableRanges ++ extendingMarkRanges,
        r.1 ≤ c.toNat ∧ c.toNat ≤ r.2 := by
  rw [isHidden, Bool.or_eq_true, Bool.or_eq_true, isUnprintable_iff, isDefaultIgnorable_iff,
    isExtendingMark_iff]
  simp only [List.mem_append, or_and_right, exists_or]

/-- The number of a character in lower-case hexadecimal digits, without leading zeros. -/
def codeDigits (c : Char) : List Char := Nat.toDigits 16 c.toNat

/-- The written form of one character inside double quotes. -/
def escape (hidden : Char → Bool) : Char → List Char
  | '\x00' => ['\\', '0']
  | '\t' => ['\\', 't']
  | '\n' => ['\\', 'n']
  | '\r' => ['\\', 'r']
  | '"' => ['\\', '"']
  | '\\' => ['\\', '\\']
  | c => if hidden c then '\\' :: 'u' :: '\x7b' :: (codeDigits c ++ ['\x7d']) else [c]

/-- The written form of a text, where `hidden` selects the characters written by number. -/
def quoteWith (hidden : Char → Bool) (s : String) : String :=
  String.ofList ('"' :: (s.toList.flatMap (escape hidden) ++ ['"']))

/-- The written form of a text. -/
def quote (s : String) : String := quoteWith isHidden s

example : quote "it's \"é\"\n" = "\"it's \\\"é\\\"\\n\"" := by decide +kernel

example : quote "e\u0301" = "\"e\\u\x7b301\x7d\"" := by decide +kernel

example : quote "ﾊﾟ\u3164" = "\"ﾊﾟ\\u\x7b3164\x7d\"" := by decide +kernel

end ConstFold.Text
