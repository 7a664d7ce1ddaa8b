import ConstFold.Proofs.Following

/-!
# What a record is made of

A start in the record of a run is the start of an evaluation, and what that evaluation
records is in the record too.  So a fact about how a node ends, wherever it is evaluated,
is a fact about every run that comes upon the node.

This is a property of single runs, so that of the relations that the forms of nodes keep it
is one that leaves the second run out.

## Main definitions

* `Monitor.Covers` — the record holds what the evaluations record that it has seen start.
* `Monitored.Covering context m α y` — from states with at most `m` steps left, `y` records
  nothing else.

## Main results

* `Monitored.covering_evalNode` — the record of a node holds the evaluations that start in it.
* `Monitored.covers_fold` — **a start in a record is that of an evaluation in the record.**
-/

namespace ConstFold

open Run

namespace Monitored

/-! ### Evaluations in a record -/

/-- What the evaluation of a node records is in the record of the monitor. -/
def Holds (context : Context) (w : Monitor) (n : Node) : Prop :=
  ∃ fuel s v, s.budget.remaining ≤ fuel ∧ (evalNode context fuel n s v).2.events ⊆ w.events

theorem Holds.mono {context : Context} {w w' : Monitor} {n : Node} (h : Holds context w n)
    (hsubset : w.events ⊆ w'.events) : Holds context w' n := by
  obtain ⟨fuel, s, v, hs, hevents⟩ := h
  exact ⟨fuel, s, v, hs, List.Subset.trans hevents hsubset⟩

end Monitored

/-- The later record goes on from the earlier one, and each start that is new in it is that
of an evaluation whose record it holds. -/
structure Monitor.Covers (context : Context) (w w' : Monitor) : Prop where
  subset : w.events ⊆ w'.events
  holds : ∀ n, .started n ∈ w'.events → .started n ∈ w.events ∨ Monitored.Holds context w' n

namespace Monitor.Covers

variable {context : Context} {w w₁ w' : Monitor}

theorem refl (context : Context) (w : Monitor) : w.Covers context w :=
  ⟨List.Subset.refl _, fun _ => .inl⟩

theorem trans (h : w.Covers context w₁) (h' : w₁.Covers context w') : w.Covers context w' where
  subset := List.Subset.trans h.subset h'.subset
  holds := by
    intro n hn
    rcases h'.holds n hn with hn | hn
    · exact (h.holds n hn).imp_right fun hn => hn.mono h'.subset
    · exact .inr hn

/-- An event that is no start needs no evaluation. -/
theorem record (w : Monitor) {e : Event} (he : ∀ n, e ≠ .started n) :
    w.Covers context (w.record e) where
  subset := List.subset_append_left _ _
  holds := by
    intro n hn
    rcases List.mem_append.1 hn with hn | hn
    · exact .inl hn
    · exact absurd (List.mem_singleton.1 hn).symm (he n)

end Monitor.Covers

namespace Monitored

variable {α β : Type} {context : Context} {m : Nat}

/-- From states with at most `m` steps left the run only spends, and its record holds the
evaluations that start in it. -/
def Covering (context : Context) (m : Nat) (α : Type) (y : Monitored α) : Prop :=
  ∀ s w, s.budget.remaining ≤ m →
    (final (y s w).1).budget.remaining ≤ s.budget.remaining ∧ w.Covers context (y s w).2

theorem covering_ofRun {x : Run α} (hx : Spends x) : Covering context m α (ofRun x) :=
  fun s w _ => ⟨(hx s).remaining_le, .refl context w⟩

/-- One run after the other.  What comes after is needed only from the states in which
the first one gives a value. -/
theorem Covering.bind_of_eq_ok {x : Monitored α} {f : α → Monitored β}
    (hx : Covering context m α x)
    (hf : ∀ {s w a t}, s.budget.remaining ≤ m → (x s w).1 = .ok a t →
      Covering context t.budget.remaining β (f a)) : Covering context m β (x >>= f) := by
  intro s w hs
  obtain ⟨hle, hcovers⟩ := hx s w hs
  cases hr : (x s w).1 with
  | ok a t =>
    rw [hr] at hle
    obtain ⟨hle', hcovers'⟩ := hf hs hr t (x s w).2 (Nat.le_refl _)
    rw [bind_apply_of_ok f hr]
    exact ⟨Nat.le_trans hle' hle, hcovers.trans hcovers'⟩
  | error i t =>
    rw [hr] at hle
    rw [bind_apply_of_error f hr]
    exact ⟨hle, hcovers⟩

theorem Covering.bind {x : Monitored α} {f : α → Monitored β} (hx : Covering context m α x)
    (hf : ∀ a, Covering context m β (f a)) : Covering context m β (x >>= f) := by
  refine hx.bind_of_eq_ok fun {s w a t} hs hr s' w' hs' => hf a s' w' ?_
  have hle := (hx s w hs).1
  rw [hr] at hle
  exact Nat.le_trans hs' (Nat.le_trans hle hs)

theorem Covering.mapped {x : Monitored α} (h : Covering context m α x)
    (φ : Except Interrupt α → Except Interrupt β) : Covering context m β (x.mapped φ) := by
  intro s w hs
  refine ⟨?_, (h s w hs).2⟩
  show (final (ending _ _)).budget.remaining ≤ _
  rw [final_ending]
  exact (h s w hs).1

theorem Covering.inFrame {x : Monitored α} (h : Covering context m α x) (f : Frame) :
    Covering context m α (x.inFrame f) := by
  intro s w hs
  refine ⟨?_, (h { s with frame := f } w hs).2⟩
  show (final (ending _ _)).budget.remaining ≤ _
  rw [final_ending]
  exact (h { s with frame := f } w hs).1

/-- What nodes are made of is covered, whatever stands beside it. -/
theorem compositional_covering (context : Context) (m : Nat) :
    Compositional fun α (y : Monitored α) (_ : Run α) => Covering context m α y where
  pure a := covering_ofRun (spends_pure a)
  bind := Covering.bind
  interrupt i := covering_ofRun (spends_interrupt i)
  ofExcept e := covering_ofRun (spends_ofExcept e)
  read v := covering_ofRun (spends_read v)
  bindVariable v a := covering_ofRun (spends_bindVariable v a)
  interceptJump id h := h.mapped (roundEnd id)

theorem covering_evalForm {eval : Node → Monitored Value}
    (hparts : ∀ p, Covering context m Value (eval p)) (fuel : Nat) (n : Node) :
    Covering context m Value (evalForm context eval fuel n) := by
  have hnodes := compositional_covering context m
  let aside : Node → Run Value := fun _ => pure .unit
  refine hnodes.evalForm (e := aside) (j := fuel) hparts context (fun callee frame body => ?_) ?_ n
  · exact ((hnodes.evalBody (e := aside) hparts body).inFrame frame).mapped (settled callee)
  · exact fun id q b =>
      hnodes.evalRounds (e := aside) hparts (covering_ofRun spends_outOfSteps) id q b fuel

/-! ### Nodes -/

theorem covering_charge : Covering context m Unit charge := by
  intro s w _
  have hspends := (spends_charge s).remaining_le
  unfold charge
  cases hr : Run.charge s with
  | ok a t =>
    rw [hr] at hspends
    exact ⟨hspends, .record w fun _ => Event.noConfusion⟩
  | error i t =>
    rw [hr] at hspends
    exact ⟨hspends, .refl context w⟩

theorem covering_checkDepth : Covering context m Unit (checkDepth context) := by
  intro s w _
  unfold checkDepth
  split <;> exact ⟨Nat.le_refl _, .refl context w⟩

/-- A node that is started under a monitor has taken a step. -/
theorem remaining_lt_of_enter {s t : State} {w : Monitor} {a : Unit}
    (h : (enter context s w).1 = .ok a t) : t.budget.remaining < s.budget.remaining := by
  have htracks := follows_enter (m := s.budget.remaining) context s w (Nat.le_refl _) rfl
  rw [htracks.result_eq] at h
  exact advances_enter context w.depth s a t h

/-- The counter is not part of the record. -/
theorem Covering.nested {y : Monitored α} (h : Covering context m α y) :
    Covering context m α (nested y) := by
  intro s w hs
  obtain ⟨hle, hcovers⟩ := h s w.down hs
  exact ⟨hle, hcovers.subset, hcovers.holds⟩

/-- With its start and its end recorded, a node is covered, as the start is that of its own
evaluation. -/
theorem Covering.observed {n : Node} {y : Monitored Value} (h : Covering context m Value y)
    (hnode : ∀ s w, s.budget.remaining ≤ m → Holds context (observed n y s w).2 n) :
    Covering context m Value (observed n y) := by
  intro s w hs
  obtain ⟨hle, hcovers⟩ := h s (w.record (.started n)) hs
  have hended : (y s (w.record (.started n))).2.Covers context (Monitored.observed n y s w).2 :=
    .record _ fun _ => Event.noConfusion
  have hafter := hcovers.trans hended
  refine ⟨hle, List.Subset.trans (List.subset_append_left _ _) hafter.subset, fun p hp => ?_⟩
  rcases hafter.holds p hp with hp | hp
  · rcases List.mem_append.1 hp with hp | hp
    · exact .inl hp
    · cases List.mem_singleton.1 hp
      exact .inr (hnode s w hs)
  · exact .inr hp

/-- A node that is started goes on to its form with a step less. -/
theorem covering_enter_bind {fuel : Nat}
    (hparts : ∀ p, Covering context fuel Value (evalNode context fuel p)) (n : Node) :
    Covering context (fuel + 1) Value (enter context >>= fun _ =>
      nested (evalForm context (evalNode context fuel) (fuel + 1) n)) := by
  have hform := (covering_evalForm hparts (fuel + 1) n).nested
  have henter : Covering context (fuel + 1) Unit (enter context) :=
    covering_charge.bind fun _ => covering_checkDepth
  refine henter.bind_of_eq_ok fun {s w a t} hs hr s' w' hs' => ?_
  have hlt := remaining_lt_of_enter hr
  exact hform s' w' (by omega)

/-- The record of a node holds the evaluations that start in it. -/
theorem covering_evalNode (context : Context) (fuel : Nat) (n : Node) :
    Covering context fuel Value (evalNode context fuel n) := by
  induction fuel generalizing n with
  | zero =>
    refine Covering.observed (covering_ofRun spends_outOfSteps) fun s w hs => ?_
    exact ⟨0, s, w, hs, List.Subset.refl _⟩
  | succ fuel ih =>
    refine Covering.observed (covering_enter_bind ih n) fun s w hs => ?_
    exact ⟨fuel + 1, s, w, hs, List.Subset.refl _⟩

/-- What is known of a node before its end is recorded: its start is, and stays so. -/
theorem Covering.started_mem {n : Node} {y : Monitored Value} (h : Covering context m Value y)
    {s : State} (w : Monitor) (hs : s.budget.remaining ≤ m) :
    .started n ∈ (Monitored.observed n y s w).2.events := by
  have hrecorded : Event.started n ∈ (w.record (.started n)).events :=
    List.mem_append_right _ (List.mem_singleton_self _)
  exact List.mem_append_left _ ((h s (w.record (.started n)) hs).2.subset hrecorded)

/-- The start of a node is in its record. -/
theorem started_mem_events (context : Context) {fuel : Nat} (n : Node) {s : State} (w : Monitor)
    (hs : s.budget.remaining ≤ fuel) : .started n ∈ (evalNode context fuel n s w).2.events := by
  cases fuel with
  | zero =>
    have hrun : Covering context 0 Value _ := covering_ofRun spends_outOfSteps
    exact hrun.started_mem w hs
  | succ fuel =>
    exact (covering_enter_bind (covering_evalNode context fuel) n).started_mem w hs

/-- **A start in the record of a fold is that of an evaluation in the record.** -/
theorem covers_fold (e : Evaluator) {root n : Node}
    (h : .started n ∈ ((MonitoredEvaluator.start e).fold root).2.monitor.events) :
    Holds e.toContext ((MonitoredEvaluator.start e).fold root).2.monitor n := by
  have hcovers := (covering_evalNode e.toContext e.budget.remaining root ⟨e.budget, .empty⟩ .start
    (Nat.le_refl _)).2
  exact (hcovers.holds n h).resolve_left List.not_mem_nil

end Monitored

end ConstFold
