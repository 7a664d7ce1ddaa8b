import ConstFold.Text.CodeRanges

/-!
# Characters that are ignored by default

The code points with the property Default_Ignorable_Code_Point: joiners, fillers,
variation selectors and the like, which leave no trace where they are not
supported.
-/

namespace ConstFold.Text

/-- The ranges of characters ignored by default, in ascending order. -/
def defaultIgnorableRanges : CodeRanges :=
  [(0x00ad, 0x00ad), (0x034f, 0x034f), (0x061c, 0x061c), (0x115f, 0x1160), (0x17b4, 0x17b5),
   (0x180b, 0x180f), (0x200b, 0x200f), (0x202a, 0x202e), (0x2060, 0x206f), (0x3164, 0x3164),
   (0xfe00, 0xfe0f), (0xfeff, 0xfeff), (0xffa0, 0xffa0), (0xfff0, 0xfff8), (0x1bca0, 0x1bca3),
   (0x1d173, 0x1d17a), (0xe0000, 0xe0fff)]

/-- Whether a character is ignored by default. -/
def isDefaultIgnorable (c : Char) : Bool := CodeRanges.mem c.toNat defaultIgnorableRanges

theorem ordered_defaultIgnorableRanges :
    CodeRanges.orderedFrom 0 defaultIgnorableRanges = true := by
  decide +kernel

theorem isDefaultIgnorable_iff {c : Char} :
    isDefaultIgnorable c = true ↔ ∃ r ∈ defaultIgnorableRanges, r.1 ≤ c.toNat ∧ c.toNat ≤ r.2 :=
  CodeRanges.mem_iff ordered_defaultIgnorableRanges

end ConstFold.Text
