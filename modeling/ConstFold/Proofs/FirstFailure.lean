import ConstFold.Proofs.Following

/-!
# The first failure

Nothing takes a failure back.  The first node that fails in a run is followed by the ends
of the nodes around it, from the inside to the outside and each with the same failure, and
that failure is the result.  No node is started and no step is taken in between.  So a
run that gives a literal has no failed node in it, and a result that is a failure
without a failed node comes from what the root gives: the unit value, or a return or
jump that nothing intercepts.

## Main results

* `Orderly.eq_of_failed` — what comes after a failed node in a record that is in order.
* `fold_firstFailure` — **the first failure is the result, and nothing comes in between.**
-/

namespace ConstFold

open Run

/-! ### Records with a failure -/

/-- The ends of nodes in evaluation close them. -/
theorem inProgress_failures (cause : Failure) (nodes outer : List Node) :
    inProgress (nodes ++ outer) (failures cause nodes) = outer := by
  induction nodes with
  | nil => rfl
  | cons n nodes ih => exact ih

/-- A failed node comes after everything that is calm. -/
theorem Opens.append_eq_append_cons {nodes : List Node} {l rest before after : List Event}
    {x : Event} (h : Opens nodes l) (hx : x.Fails) (heq : l ++ rest = before ++ x :: after) :
    ∃ mid, before = l ++ mid ∧ rest = mid ++ x :: after := by
  rcases List.append_eq_append_iff.1 heq with ⟨mid, hbefore, hrest⟩ | ⟨mid, hl, hafter⟩
  · exact ⟨mid, hbefore, hrest⟩
  · cases mid with
    | nil => exact ⟨[], by simpa using hl.symm, by simpa using hafter.symm⟩
    | cons y mid =>
      obtain ⟨rfl, -⟩ := List.cons.inj hafter
      have hmem : x ∈ l := by
        rw [hl]
        exact List.mem_append_right _ List.mem_cons_self
      exact absurd hx (h.calm x hmem)

/-- After a failed node only the nodes around it end, with the same failure, which is that
of the run. -/
theorem Orderly.eq_of_failed {α : Type} {o : Except Interrupt α} {before after : List Event}
    {m : Node} {f : Failure}
    (h : Orderly o (before ++ .ended m (.error (.failing f)) :: after)) :
    ∃ enclosing, inProgress [] before = m :: enclosing ∧ after = failures f enclosing ∧
      o = .error (.failing f) := by
  generalize hl : before ++ Event.ended m (.error (.failing f)) :: after = l at h
  cases h with
  | calm h => exact absurd trivial (h.calm (.ended m (.error (.failing f))) (by simp [← hl]))
  | @failed cause nodes calm h =>
    have hfails : (Event.ended m (.error (.failing f))).Fails := trivial
    obtain ⟨mid, rfl, hfailures⟩ := h.append_eq_append_cons hfails hl.symm
    -- The failed node is one of those that end last, and splits them in two.
    obtain ⟨inner, outer, rfl, rfl, houter⟩ := List.map_eq_append_iff.1 hfailures
    obtain ⟨p, enclosing, rfl, hp, rfl⟩ := List.map_eq_cons_iff.1 houter
    cases hp
    refine ⟨enclosing, ?_, rfl, rfl⟩
    rw [inProgress_append, h.inProgress_eq, List.append_nil]
    exact inProgress_failures f inner (m :: enclosing)

/-! ### Results -/

/-- The last thing that is recorded of a node is how it ends. -/
theorem Monitored.getLast?_events_evalNode (context : Context) (fuel : Nat) (n : Node) (s : State)
    (w : Monitor) :
    (evalNode context fuel n s w).2.events.getLast? =
      some (.ended n (outcome (evalNode context fuel n s w).1)) := by
  cases fuel with
  | zero => exact List.getLast?_concat
  | succ fuel => exact List.getLast?_concat

/-- **The first failure is the result, and nothing comes in between.**  If a node fails, the
nodes around it are all that still ends, each with the same failure, and no node is
started and no step taken.  A result that is a failure without a failed node comes from
the unit value or from a return or jump at the root, and a run that gives a literal has
no failed node in it. -/
theorem fold_firstFailure (e : Evaluator) (n : Node) :
    let run := (MonitoredEvaluator.start e).fold n
    let events := run.2.monitor.events
    (run.1 = (e.fold n).1 ∧ run.2.toEvaluator = (e.fold n).2) ∧
      events.getLast? = some (.ended n (outcome (e.evalRoot n))) ∧
      (e.fold n).2.stepsUsed = e.stepsUsed + charges events ∧
      (∀ before m f after, events = before ++ .ended m (.error (.failing f)) :: after →
        (∃ enclosing, inProgress [] before = m :: enclosing ∧
          after = enclosing.map fun p => .ended p (.error (.failing f))) ∧
        (e.fold n).1 = .error f) ∧
      (∀ f, (e.fold n).1 = .error f → (∀ x ∈ events, ¬ x.Fails) →
        (outcome (e.evalRoot n) = .ok .unit ∧ f = .notALiteral) ∨
          (∃ t, transferOf (outcome (e.evalRoot n)) = some t) ∧
            f = .unsupported "control transfer outside of a function") ∧
      ∀ l, (e.fold n).1 = .ok l → ∀ x ∈ events, ¬ x.Fails := by
  intro run events
  have htracks : Monitored.Tracks 0 ⟨e.budget, .empty⟩ .start (e.evalRoot n)
      (Monitored.evalNode e.toContext e.budget.remaining n ⟨e.budget, .empty⟩ .start) :=
    MonitoredEvaluator.tracks_fold (e := .start e) rfl n
  have hlast : events.getLast? = some (.ended n (outcome (e.evalRoot n))) := by
    rw [← htracks.result_eq]
    exact Monitored.getLast?_events_evalNode ..
  obtain ⟨l, hl, horderly, hcharges, hbudget⟩ := htracks.record
  obtain rfl : events = l := hl
  have hfold : e.fold n = _ := e.fold_eq n
  refine ⟨MonitoredEvaluator.fold_eq rfl n, hlast, ?_, ?_, ?_, ?_⟩
  · rw [hfold]
    show (final (e.evalRoot n)).budget.used = _
    rw [show (final (e.evalRoot n)).budget = _ from hbudget, Budget.used_spend hcharges]
    rfl
  · intro before m f after hevents
    rw [hevents] at horderly
    obtain ⟨enclosing, henclosing, hafter, ho⟩ := horderly.eq_of_failed
    refine ⟨⟨enclosing, henclosing, hafter⟩, ?_⟩
    rw [hfold]
    exact congrArg conclude ho
  · intro f hf hcalm
    rw [hfold] at hf
    refine (conclude_eq_error hf).resolve_left fun ho => ?_
    -- The end of the root is among the events, and it would be a failed node.
    have hmem := List.mem_of_getLast? hlast
    rw [ho] at hmem
    exact hcalm _ hmem trivial
  · intro l hok
    rw [hfold] at hok
    have ho : outcome (e.evalRoot n) = .ok l.toValue := conclude_eq_ok_iff.1 hok
    refine (horderly.opens fun cause hcause => ?_).calm
    rw [show outcome (e.evalRoot n) = _ from hcause] at ho
    cases ho

/-- A division by zero ends the nodes around it, and the constant after it is not started. -/
example :
    let divide : Node := .callBuiltin .intDiv [.int 1, .int 0]
    let root : Node := .block [.coerceToUnit divide, .int 5]
    ((MonitoredEvaluator.start (.start ⟨⟨9, 9⟩, .empty, .reserved⟩)).fold root).2.monitor.events =
      [.started root, .charged, .started (.coerceToUnit divide), .charged, .started divide,
        .charged, .started (.int 1), .charged, .ended (.int 1) (.ok (.int 1)), .started (.int 0),
        .charged, .ended (.int 0) (.ok (.int 0)),
        .ended divide (.error (.failing .divisionByZero)),
        .ended (.coerceToUnit divide) (.error (.failing .divisionByZero)),
        .ended root (.error (.failing .divisionByZero))] := by
  rfl

end ConstFold
