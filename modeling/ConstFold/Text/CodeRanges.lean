/-!
# Sets of code points as ordered ranges

A property of characters is given as the list of its ranges, each by its first
and last code point, in ascending order.  Membership stops at the first range
that lies above the code point.

## Main definitions

* `CodeRanges`, `CodeRanges.mem` — ranges and membership.
* `CodeRanges.orderedFrom` — the check that a list is in order.

## Main results

* `CodeRanges.mem_iff` — on a list in order, membership is to lie in one of the ranges.
-/

namespace ConstFold.Text

/-- Ranges of code points, each by its first and last member. -/
abbrev CodeRanges := List (Nat × Nat)

namespace CodeRanges

/-- Whether a code point lies in a range, looking no further than it can. -/
def mem (n : Nat) : CodeRanges → Bool
  | [] => false
  | (first, last) :: rest => if n < first then false else n ≤ last || mem n rest

@[simp] theorem mem_nil (n : Nat) : mem n [] = false := rfl

theorem mem_cons (n : Nat) (r : Nat × Nat) (rs : CodeRanges) :
    mem n (r :: rs) = if n < r.1 then false else n ≤ r.2 || mem n rs := rfl

/-- Whether every range is an interval, the first begins at `n` or later, and each
ends before the next begins. -/
def orderedFrom (n : Nat) : CodeRanges → Bool
  | [] => true
  | (first, last) :: rest => n ≤ first && first ≤ last && orderedFrom (last + 1) rest

theorem orderedFrom_cons (n : Nat) (r : Nat × Nat) (rs : CodeRanges) :
    orderedFrom n (r :: rs) = true ↔
      n ≤ r.1 ∧ r.1 ≤ r.2 ∧ orderedFrom (r.2 + 1) rs = true := by
  simp [orderedFrom, and_assoc]

/-- No range of a list in order begins before its bound. -/
theorem le_of_orderedFrom {rs : CodeRanges} {n : Nat} (h : orderedFrom n rs = true) :
    ∀ r ∈ rs, n ≤ r.1 := by
  induction rs generalizing n with
  | nil =>
    intro r hr
    cases hr
  | cons t rs ih =>
    obtain ⟨hn, ht, hrs⟩ := (orderedFrom_cons n t rs).1 h
    intro r hr
    rcases List.mem_cons.1 hr with rfl | hr
    · exact hn
    · have := ih hrs r hr
      omega

/-- On a list in order, stopping early loses nothing. -/
theorem mem_iff {rs : CodeRanges} {k : Nat} (h : orderedFrom k rs = true) {n : Nat} :
    mem n rs = true ↔ ∃ r ∈ rs, r.1 ≤ n ∧ n ≤ r.2 := by
  induction rs generalizing k with
  | nil => simp
  | cons t rs ih =>
    obtain ⟨_, ht, hrs⟩ := (orderedFrom_cons k t rs).1 h
    have hlater := le_of_orderedFrom hrs
    rw [mem_cons]
    split
    · next hlt =>
      simp only [Bool.false_eq_true, List.mem_cons, exists_eq_or_imp, false_iff, not_or,
        not_exists, not_and]
      refine ⟨by omega, ?_⟩
      intro r hr hrn
      have := hlater r hr
      omega
    · next hge => simp [ih hrs, Nat.le_of_not_lt hge]

end CodeRanges

end ConstFold.Text
