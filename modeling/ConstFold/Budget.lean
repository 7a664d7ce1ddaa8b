import ConstFold.Failure

/-!
# Step budgets

One budget serves one top-level request.  It is threaded through every nested
call, so recursion gets no fresh allowance, and it only ever decreases.

## Main results

* `Budget.used_take` — a step taken is a step used.
* `Budget.take_eq_error_iff` — taking fails exactly on a spent budget.

## References

`SPEC_FULL.md`, sections 3 and 4.4: `StepBudget`.
-/

namespace ConstFold

/-- A number of steps, and how many of them are left. -/
structure Budget where
  /-- The number of steps granted. -/
  limit : Nat
  /-- The number of steps left. -/
  remaining : Nat
  /-- No more steps are left than were granted. -/
  remaining_le : remaining ≤ limit

namespace Budget

/-- A budget of which nothing is used. -/
def full (limit : Nat) : Budget := ⟨limit, limit, Nat.le_refl limit⟩

/-- The number of steps used. -/
def used (b : Budget) : Nat := b.limit - b.remaining

/-- Whether no step is left. -/
def isExhausted (b : Budget) : Bool := b.remaining == 0

/-- The budget with `k` steps fewer left. -/
def spend (b : Budget) (k : Nat) : Budget :=
  ⟨b.limit, b.remaining - k, Nat.le_trans (Nat.sub_le _ _) b.remaining_le⟩

/-- Takes one step, or fails on a spent budget. -/
def take (b : Budget) : Except Failure Budget :=
  if b.remaining = 0 then .error (.stepsExhausted b.limit) else .ok (b.spend 1)

@[ext] theorem ext {a b : Budget} (hl : a.limit = b.limit) (hr : a.remaining = b.remaining) :
    a = b := by
  cases a
  cases b
  cases hl
  cases hr
  rfl

@[simp] theorem limit_full (n : Nat) : (full n).limit = n := rfl

@[simp] theorem remaining_full (n : Nat) : (full n).remaining = n := rfl

@[simp] theorem used_full (n : Nat) : (full n).used = 0 := Nat.sub_self n

@[simp] theorem limit_spend (b : Budget) (k : Nat) : (b.spend k).limit = b.limit := rfl

@[simp] theorem remaining_spend (b : Budget) (k : Nat) :
    (b.spend k).remaining = b.remaining - k := rfl

@[simp] theorem spend_zero (b : Budget) : b.spend 0 = b := rfl

@[simp] theorem spend_spend (b : Budget) (j k : Nat) : (b.spend j).spend k = b.spend (j + k) := by
  apply Budget.ext
  · rfl
  · simp only [remaining_spend]
    omega

theorem used_add_remaining (b : Budget) : b.used + b.remaining = b.limit :=
  Nat.sub_add_cancel b.remaining_le

theorem used_le (b : Budget) : b.used ≤ b.limit := Nat.sub_le _ _

/-- As many steps are used as are spent, as long as there are that many. -/
theorem used_spend {b : Budget} {k : Nat} (h : k ≤ b.remaining) :
    (b.spend k).used = b.used + k := by
  have hb := b.remaining_le
  simp only [used, limit_spend, remaining_spend]
  omega

/-- Taking fails exactly on a spent budget, and names the whole limit. -/
theorem take_eq_error_iff {b : Budget} {f : Failure} :
    b.take = .error f ↔ b.remaining = 0 ∧ f = .stepsExhausted b.limit := by
  unfold take
  split <;> simp_all [eq_comm]

theorem take_eq_ok_iff {b c : Budget} :
    b.take = .ok c ↔ c.limit = b.limit ∧ b.remaining = c.remaining + 1 := by
  unfold take
  split
  · simp
    omega
  · simp only [Except.ok.injEq, Budget.ext_iff, limit_spend, remaining_spend]
    omega

/-- A step taken is a step used. -/
theorem used_take {b c : Budget} (h : b.take = .ok c) : c.used = b.used + 1 := by
  obtain ⟨hl, hr⟩ := take_eq_ok_iff.1 h
  have hb := b.remaining_le
  simp only [used]
  omega

end Budget

end ConstFold
