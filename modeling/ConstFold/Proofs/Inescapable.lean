import ConstFold.Proofs.FirstFailure
import ConstFold.Proofs.Jumps
import ConstFold.Proofs.Recorded

/-!
# Loops that nothing leaves

A loop whose condition is the constant `true` ends only if its body leaves it.  If nothing
written in the body does, apart from jumps to the next round of the loop itself, the loop
goes on until a limit stops it or its body fails.  Each round takes at least the step of its
condition, also if there is no body, so that one of the two has to happen.

So a fold that comes upon such a loop has no result, within whatever limits, and unless an
evaluation of the body fails by the program's fault, it is a limit that is to blame.

## Main definitions

* `Inescapable` — nothing but a jump to its next round leaves the body of a loop.
* `Monitored.FailsWithin` — a run fails for want of a resource, or as the body has failed.
* `LimitsOnly` — in a record, the body fails only for want of a resource.

## Main results

* `Monitored.stuck_evalRounds` — the rounds of such a loop do not come to an end.
* `evaluate_inescapable` — **such a loop fails wherever it is evaluated, and with it every fold
  that comes upon it.**
-/

namespace ConstFold

open Run

/-- Nothing but a jump to the next round leaves the body of the loop, and nothing leaves a
default. -/
structure Inescapable (program : Program) (id : LoopId) (body : Option Node) : Prop where
  body : ∀ n ∈ body, ∀ t, n.Escapes t → t = .continueTo id
  defaults : ∀ t, ¬ program.DefaultEscapes t

/-- What leaves the body is a failure or a jump to the next round. -/
theorem Inescapable.roundEnd_evaluate {context : Context} {id : LoopId} {body : Option Node}
    (h : Inescapable context.program id body) {n : Node} (hn : n ∈ body) (depth : Nat) (s : State) :
    roundEnd id (outcome (evaluate context depth n s)) = .ok true ∨
      ∃ cause, outcome (evaluate context depth n s) = .error (.failing cause) := by
  have hescapes : ∀ t, transferOf (outcome (evaluate context depth n s)) = some t →
      t = .continueTo id := fun t ht =>
    (escapes_of_transferOf_evaluate ht).elim (h.body n hn t) fun hdefault =>
      absurd hdefault (h.defaults t)
  cases ho : outcome (evaluate context depth n s) with
  | ok a => exact .inl rfl
  | error i =>
    rw [ho] at hescapes
    cases i with
    | failing cause => exact .inr ⟨cause, rfl⟩
    | returning a => cases hescapes _ rfl
    | breaking target => cases hescapes _ rfl
    | continuing target =>
      cases hescapes _ rfl
      exact .inl (if_pos rfl)

namespace Monitored

variable {α β : Type} {m : Nat} {body : Option Node}

/-! ### Runs that have to fail -/

/-- The run fails, for want of a resource or with the failure of an evaluation of the body. -/
def FailsWithin (body : Option Node) (y : EStateM.Result Interrupt State α × Monitor) : Prop :=
  ∃ cause, outcome y.1 = .error (.failing cause) ∧
    (cause.isResource = true ∨ ∃ n ∈ body, .ended n (.error (.failing cause)) ∈ y.2.events)

/-- From states with at most `m` steps left the run fails so. -/
def Stuck (m : Nat) (body : Option Node) (y : Monitored α) : Prop :=
  ∀ s w, s.budget.remaining ≤ m → FailsWithin body (y s w)

/-- From states with at most `m` steps left the run gives the value and leaves no more steps
than `j`, or it fails so. -/
def Passes (m j : Nat) (body : Option Node) (a : α) (y : Monitored α) : Prop :=
  ∀ s w, s.budget.remaining ≤ m →
    (∃ t, (y s w).1 = .ok a t ∧ t.budget.remaining ≤ j) ∨ FailsWithin body (y s w)

theorem stuck_outOfSteps : Stuck m body (ofRun outOfSteps : Monitored α) :=
  fun _ _ _ => ⟨_, rfl, .inl rfl⟩

theorem failsWithin_of_resourceEnd {y : EStateM.Result Interrupt State α × Monitor}
    (h : ResourceEnd (outcome y.1)) : FailsWithin body y := by
  obtain ⟨r, w⟩ := y
  cases r with
  | ok a t => exact h.elim
  | error i t =>
    cases i with
    | failing cause => exact ⟨cause, rfl, .inl h⟩
    | _ => exact h.elim

/-- What comes after a run that passes has to fail if the one after the value has to. -/
theorem Passes.bind {j : Nat} {y : Monitored α} {a : α} {f : α → Monitored β}
    (hy : Passes m j body a y) (hf : Stuck j body (f a)) : Stuck m body (y >>= f) := by
  intro s w hs
  rcases hy s w hs with ⟨t, hr, ht⟩ | ⟨cause, ho, hcause⟩
  · rw [bind_apply_of_ok f hr]
    exact hf t (y s w).2 ht
  · cases hr : (y s w).1 with
    | ok a t =>
      rw [hr] at ho
      cases ho
    | error i t =>
      rw [hr] at ho
      cases ho
      rw [bind_apply_of_error f hr]
      exact ⟨cause, rfl, hcause⟩

/-! ### Rounds -/

section Rounds

variable {context : Context} {id : LoopId} {depth : Nat}

/-- A node under a monitor does what it does without one. -/
theorem evalNode_result (context : Context) {fuel : Nat} (n : Node) {s : State} (w : Monitor)
    (hs : s.budget.remaining ≤ fuel) :
    (evalNode context fuel n s w).1 = evaluate context w.depth n s := by
  rw [(follows_evalNode context fuel w.depth n s w hs rfl).result_eq]
  exact evalNode_eq_evaluate context w.depth n hs

/-- How a node has ended is in the record. -/
theorem ended_mem_events (context : Context) (fuel : Nat) (n : Node) (s : State) (w : Monitor) :
    .ended n (outcome (evalNode context fuel n s w).1) ∈ (evalNode context fuel n s w).2.events :=
  List.mem_of_getLast? (getLast?_events_evalNode context fuel n s w)

/-- The steps left after a node are no more than before it. -/
theorem remaining_evalNode_le (context : Context) {fuel : Nat} (n : Node) {s : State}
    (w : Monitor) (hs : s.budget.remaining ≤ fuel) :
    (final (evalNode context fuel n s w).1).budget.remaining ≤ s.budget.remaining :=
  (covering_evalNode context fuel n s w hs).1

/-- The constant `true` holds, unless there is no step or level left for it. -/
theorem passes_condition (context : Context) (fuel : Nat) (body : Option Node) :
    Passes fuel fuel body true (evalCondition (evalNode context fuel) (.bool true)) := by
  intro s w hs
  have hle := remaining_evalNode_le context (.bool true) w hs
  have hresult := evalNode_result context (.bool true) w hs
  by_cases hres : ResourceEnd (outcome (evaluate context w.depth (.bool true) s))
  · right
    cases hr : (evalNode context fuel (.bool true) s w).1 with
    | ok a t =>
      rw [← hresult, hr] at hres
      exact hres.elim
    | error i t =>
      rw [← hresult, hr] at hres
      refine failsWithin_of_resourceEnd ?_
      rw [evalCondition, bind_apply_of_error _ hr]
      exact hres
  · left
    obtain ⟨f', k, d, hmeant⟩ := evaluates_outcome hres
    have hvalue : outcome (evaluate context w.depth (.bool true) s) = .ok (.bool true) := by
      generalize outcome (evaluate context w.depth (.bool true) s) = o at hmeant
      obtain ⟨⟨⟩⟩ := hmeant
      rfl
    cases hr : (evalNode context fuel (.bool true) s w).1 with
    | ok a t =>
      rw [← hresult, hr] at hvalue
      rw [hr] at hle
      cases hvalue
      rw [evalCondition, bind_apply_of_ok _ hr]
      exact ⟨t, rfl, Nat.le_trans hle hs⟩
    | error i t =>
      rw [← hresult, hr] at hvalue
      cases hvalue

/-- A round goes on to the next, unless the body fails. -/
theorem passes_round (h : Inescapable context.program id body) (fuel : Nat) :
    Passes fuel fuel body true
      ((evalOptional (evalNode context fuel) body).mapped (roundEnd id)) := by
  intro s w hs
  cases body with
  | none => exact .inl ⟨s, rfl, hs⟩
  | some n =>
    have hle := remaining_evalNode_le context n w hs
    have hended := ended_mem_events context fuel n s w
    have hround := h.roundEnd_evaluate rfl w.depth s
    rw [← evalNode_result context n w hs] at hround
    rcases hround with hgoesOn | ⟨cause, ho⟩
    · refine .inl ⟨final (evalNode context fuel n s w).1, ?_, Nat.le_trans hle hs⟩
      show ending (roundEnd id (outcome (evalNode context fuel n s w).1)) _ = _
      rw [hgoesOn]
      rfl
    · refine .inr ⟨cause, ?_, .inr ⟨n, rfl, ?_⟩⟩
      · show outcome (ending (roundEnd id (outcome (evalNode context fuel n s w).1)) _) = _
        rw [ho, outcome_ending]
        rfl
      · rw [← ho]
        exact hended

theorem stuck_evalTest (fuel : Nat) {again : Monitored Value} (hagain : Stuck fuel body again) :
    Stuck fuel body (evalTest (evalNode context fuel) (.bool true) again) :=
  (passes_condition context fuel body).bind hagain

/-- The rounds of such a loop do not come to an end.  The induction is on the rounds that are
granted, the last of which is out of steps. -/
theorem stuck_evalRounds (h : Inescapable context.program id body) (fuel rounds : Nat) :
    Stuck fuel body (evalRounds (evalNode context fuel) id (.bool true) body rounds) := by
  induction rounds with
  | zero => exact stuck_outOfSteps
  | succ rounds ih => exact (passes_round h fuel).bind (stuck_evalTest fuel ih)

/-- A node is started, or there is no step or level left for it. -/
theorem passes_enter (context : Context) (m : Nat) (body : Option Node) :
    Passes (m + 1) m body () (enter context) := by
  intro s w hs
  have hfollows := follows_enter (m := s.budget.remaining) context s w (Nat.le_refl _) rfl
  have hresult := hfollows.result_eq
  rcases Nat.eq_zero_or_pos s.budget.remaining with hzero | hpos
  · refine .inr (failsWithin_of_resourceEnd ?_)
    rw [hresult, enter_of_remaining_eq_zero context w.depth hzero]
    rfl
  · rcases Nat.lt_or_ge w.depth context.limits.maxDepth with hd | hd
    · refine .inl ⟨_, hresult.trans (enter_of_lt hpos hd), ?_⟩
      show s.budget.remaining - 1 ≤ m
      omega
    · refine .inr (failsWithin_of_resourceEnd ?_)
      rw [hresult, enter_of_le hpos hd]
      rfl

/-- What a node has to fail with, it fails with also once its end is recorded. -/
theorem Stuck.observed {y : Monitored Value} (h : Stuck m body y) (n : Node) :
    Stuck m body (observed n y) := by
  intro s w hs
  obtain ⟨cause, ho, hcause⟩ := h s (w.record (.started n)) hs
  exact ⟨cause, ho, hcause.imp_right fun ⟨p, hp, hended⟩ =>
    ⟨p, hp, List.mem_append_left _ hended⟩⟩

/-- The loop itself does not come to an end either. -/
theorem stuck_evalNode_loop (context : Context) (h : Inescapable context.program id body)
    (kind : LoopKind) (fuel : Nat) :
    Stuck fuel body (evalNode context fuel (.loop id kind (.bool true) body)) := by
  cases fuel with
  | zero => exact stuck_outOfSteps.observed _
  | succ fuel =>
    have hrounds := stuck_evalRounds h fuel (fuel + 1)
    have hform : Stuck fuel body (evalForm context (evalNode context fuel) (fuel + 1)
        (.loop id kind (.bool true) body)) := by
      cases kind with
      | preTest => exact stuck_evalTest fuel hrounds
      | postTest => exact hrounds
    refine Stuck.observed ((passes_enter context fuel body).bind fun s w hs => ?_) _
    exact hform s w.down hs

end Rounds

end Monitored

/-! ### Folds -/

/-- In the record, the body fails only for want of a resource. -/
def LimitsOnly (body : Option Node) (events : List Event) : Prop :=
  ∀ n ∈ body, ∀ cause, .ended n (.error (.failing cause)) ∈ events → cause.isResource = true

/-- A run that fails with the failure of the body fails for want of a resource if that does. -/
theorem isResource_of_limitsOnly {body : Option Node} {events events' : List Event}
    {cause : Failure} (hcause : cause.isResource = true ∨
      ∃ n ∈ body, .ended n (.error (.failing cause)) ∈ events)
    (hsubset : events ⊆ events') (h : LimitsOnly body events') : cause.isResource = true := by
  rcases hcause with hres | ⟨n, hn, hended⟩
  · exact hres
  · exact h n hn cause (hsubset hended)

/-- A failure in the record of a fold is its result. -/
theorem fold_eq_error_of_ended (e : Evaluator) {root n : Node} {cause : Failure}
    (h : .ended n (.error (.failing cause)) ∈
      ((MonitoredEvaluator.start e).fold root).2.monitor.events) :
    (e.fold root).1 = .error cause := by
  have htracks : Monitored.Tracks 0 ⟨e.budget, .empty⟩ .start (e.evalRoot root)
      (Monitored.evalNode e.toContext e.budget.remaining root ⟨e.budget, .empty⟩ .start) :=
    MonitoredEvaluator.tracks_fold (e := .start e) rfl root
  obtain ⟨l, hl, horderly, -, -⟩ := htracks.record
  obtain rfl : ((MonitoredEvaluator.start e).fold root).2.monitor.events = l := hl
  obtain ⟨before, after, hevents⟩ := List.append_of_mem h
  rw [hevents] at horderly
  obtain ⟨-, -, -, ho⟩ := horderly.eq_of_failed
  rw [Evaluator.fold_eq, ho]
  rfl

/-- **A loop that nothing leaves fails, and with it every fold that comes upon it.**  Let the
condition of a loop be the constant `true`, and let nothing leave its body but jumps to its
next round, and nothing a default.  Then the loop fails in every frame, with every budget and
at every depth.  So no limits give a result to a fold whose record has the start of the loop.
In both cases, unless an evaluation of the body in the run fails otherwise, the failure is that
of a limit. -/
theorem evaluate_inescapable {program : Program} {id : LoopId} {body : Option Node}
    (h : Inescapable program id body) (operators : OperatorTable) (kind : LoopKind) :
    let loop := Node.loop id kind (.bool true) body
    (∀ limits depth s,
      let monitored := Monitored.evalNode ⟨limits, program, operators⟩ s.budget.remaining loop s
        ⟨depth, []⟩
      monitored.1 = evaluate ⟨limits, program, operators⟩ depth loop s ∧
        ∃ cause, outcome (evaluate ⟨limits, program, operators⟩ depth loop s) =
            .error (.failing cause) ∧
          (LimitsOnly body monitored.2.events → cause.isResource = true)) ∧
    ∀ limits b root,
      let e : Evaluator := ⟨⟨limits, program, operators⟩, b⟩
      let events := ((MonitoredEvaluator.start e).fold root).2.monitor.events
      .started loop ∈ events →
        ∃ cause, (e.fold root).1 = .error cause ∧
          (LimitsOnly body events → cause.isResource = true) := by
  intro loop
  refine ⟨fun limits depth s => ?_, fun limits b root => ?_⟩
  · intro monitored
    have hresult : monitored.1 = evaluate ⟨limits, program, operators⟩ depth loop s :=
      Monitored.evalNode_result ⟨limits, program, operators⟩ loop ⟨depth, []⟩ (Nat.le_refl _)
    obtain ⟨cause, ho, hcause⟩ := Monitored.stuck_evalNode_loop ⟨limits, program, operators⟩ h kind
      s.budget.remaining s ⟨depth, []⟩ (Nat.le_refl _)
    refine ⟨hresult, cause, ?_, isResource_of_limitsOnly hcause (List.Subset.refl _)⟩
    rw [← hresult]
    exact ho
  · intro e events hstarted
    -- The start is that of an evaluation, and the end of it is a failure in the record.
    obtain ⟨fuel, s, v, hs, hevents⟩ := Monitored.covers_fold e hstarted
    obtain ⟨cause, ho, hcause⟩ := Monitored.stuck_evalNode_loop e.toContext h kind fuel s v hs
    have hended := hevents (Monitored.ended_mem_events e.toContext fuel loop s v)
    rw [ho] at hended
    exact ⟨cause, fold_eq_error_of_ended e hended, isResource_of_limitsOnly hcause hevents⟩

/-- A body that calls a function, in which a loop is left, and then jumps to the next round. -/
def callingBody : Node := .block [.call ⟨100⟩ [], .continueTo ⟨7⟩]

theorem inescapable_callingBody : Inescapable leavingProgram ⟨7⟩ (some callingBody) where
  body := by
    rintro _ ⟨⟩ t h
    cases h with
    | part _ hp h =>
      rcases List.mem_pair.1 hp with rfl | rfl
      · cases h with
        | part _ hp _ => cases hp
      · cases h with
        | continueTo => rfl
        | part _ hp _ => cases hp
  defaults := not_defaultEscapes_leavingProgram

/-- The fold comes upon the loop and is stopped by its limit, as would be any other. -/
theorem evaluate_inescapable_calling :
    let loop : Node := .doWhile ⟨7⟩ (some callingBody) (.bool true)
    let e : Evaluator := ⟨⟨⟨25, 10⟩, leavingProgram, .reserved⟩, .full 25⟩
    let events := ((MonitoredEvaluator.start e).fold loop).2.monitor.events
    Inescapable leavingProgram ⟨7⟩ (some callingBody) ∧ .started loop ∈ events ∧
      LimitsOnly (some callingBody) events ∧
      (∃ cause, (e.fold loop).1 = .error cause ∧ cause.isResource = true) ∧
      (e.fold loop).1 = .error (.stepsExhausted 25) ∧
      ∀ limits, ∃ cause, outcome (evaluate ⟨limits, leavingProgram, .reserved⟩ 0 loop
        ⟨.full limits.maxSteps, .empty⟩) = .error (.failing cause) := by
  intro loop e events
  have hfold : (e.fold loop).1 = .error (.stepsExhausted 25) := by decide +kernel
  have hstarted : .started loop ∈ events :=
    Monitored.started_mem_events e.toContext loop .start (Nat.le_refl e.budget.remaining)
  have hlimits : LimitsOnly (some callingBody) events := by
    intro n _ cause hended
    have hcause := (fold_eq_error_of_ended e hended).symm.trans hfold
    cases hcause
    rfl
  obtain ⟨hloop, hfolds⟩ :=
    evaluate_inescapable inescapable_callingBody OperatorTable.reserved .postTest
  obtain ⟨cause, herror, hcause⟩ := hfolds ⟨25, 10⟩ (.full 25) loop hstarted
  refine ⟨inescapable_callingBody, hstarted, hlimits, ⟨cause, herror, hcause hlimits⟩, hfold,
    fun limits => ?_⟩
  obtain ⟨-, cause, ho, -⟩ := hloop limits 0 ⟨.full limits.maxSteps, .empty⟩
  exact ⟨cause, ho⟩

end ConstFold
