import ConstFold.Proofs.Compositional
import ConstFold.Proofs.Metering
import ConstFold.Proofs.Monitor

/-!
# What a monitor sees

The evaluator does under a monitor what it does without one.  The counter of the nesting
is back where it was whenever a run ends, in whichever way it does.  And the record is in
order: a node that is started ends, with as many steps recorded as are spent, and once
a node has failed nothing comes after but the nodes around it, which fail likewise.

The forms of nodes are the same with and without a monitor, so that these facts are to be
shown only of what runs are made of and of what they are combined by, and of the rounds of a
loop, of which the two evaluators have not the same number.

## Main definitions

* `Opens nodes l` — events without a failure, after which `nodes` are in evaluation.
* `Orderly o l` — the events of a run that ends with the outcome `o`.
* `Monitored.Follows m depth y x` — from states with at most `m` steps left and with the
  counter at `depth`, `y` does what `x` does and is in order.

## Main results

* `Monitored.Follows.bind`, `Monitored.Follows.mapped`, `Monitored.Follows.inFrame`,
  `Monitored.Follows.observed` — what runs are combined by keeps them so.
* `Monitored.follows_evalNode` — **under a monitor the evaluator does what it does, and
  the monitor is in order.**
-/

namespace ConstFold

open Run

/-! ### Records -/

/-- Nothing has failed, and `nodes` have been started and have not ended. -/
structure Opens (nodes : List Node) (l : List Event) : Prop where
  calm : ∀ e ∈ l, ¬ e.Fails
  inProgress_eq : ∀ outer, inProgress outer l = nodes ++ outer

theorem opens_nil : Opens [] [] := ⟨fun _ he => absurd he List.not_mem_nil, fun _ => rfl⟩

theorem opens_started (n : Node) : Opens [n] [.started n] := by
  refine ⟨fun e he => ?_, fun _ => rfl⟩
  rw [List.mem_singleton.1 he]
  exact id

theorem opens_charged : Opens [] [.charged] := by
  refine ⟨fun e he => ?_, fun _ => rfl⟩
  rw [List.mem_singleton.1 he]
  exact id

theorem Opens.append {ns ns' : List Node} {l l' : List Event} (h : Opens ns l)
    (h' : Opens ns' l') : Opens (ns' ++ ns) (l ++ l') where
  calm := by
    intro e he
    rcases List.mem_append.1 he with he | he
    · exact h.calm e he
    · exact h'.calm e he
  inProgress_eq := by
    intro outer
    rw [inProgress_append, h.inProgress_eq, h'.inProgress_eq, List.append_assoc]

/-- The end of a node that does not fail closes it. -/
theorem Opens.ended {n : Node} {l : List Event} (h : Opens [n] l) {o : Outcome}
    (ho : ¬ (Event.ended n o).Fails) : Opens [] (l ++ [.ended n o]) where
  calm := by
    intro e he
    rcases List.mem_append.1 he with he | he
    · exact h.calm e he
    · rw [List.mem_singleton.1 he]
      exact ho
  inProgress_eq := by
    intro outer
    rw [inProgress_append, h.inProgress_eq]
    rfl

/-- The nodes end with one failure, in order. -/
def failures (cause : Failure) (nodes : List Node) : List Event :=
  nodes.map fun n => .ended n (.error (.failing cause))

/-- The events of a run that ends with the outcome `o`.  Either nothing has failed and
all nodes have ended, or the run ends with the failure of a node, and then the nodes in
evaluation are the last ones to end. -/
inductive Orderly {α : Type} : Except Interrupt α → List Event → Prop
  | calm {o : Except Interrupt α} {l : List Event} : Opens [] l → Orderly o l
  | failed {cause : Failure} {nodes : List Node} {before : List Event} : Opens nodes before →
      Orderly (.error (.failing cause)) (before ++ failures cause nodes)

namespace Orderly

variable {α β : Type}

/-- A run that has been calm up to here goes on. -/
theorem append {o : Except Interrupt α} {l l' : List Event} (h : Opens [] l)
    (h' : Orderly o l') : Orderly o (l ++ l') := by
  cases h' with
  | calm h' => exact .calm (h.append h')
  | @failed cause nodes before h' =>
    have hbefore : Opens nodes (l ++ before) := by
      have hb := h.append h'
      rwa [List.append_nil] at hb
    rw [← List.append_assoc]
    exact .failed hbefore

/-- What has not failed has been calm. -/
theorem opens {o : Except Interrupt α} {l : List Event} (h : Orderly o l)
    (ho : ∀ cause, o ≠ .error (.failing cause)) : Opens [] l := by
  cases h with
  | calm h => exact h
  | failed _ => exact absurd rfl (ho _)

/-- The same events are in order for another outcome, unless that takes a failure back. -/
theorem map {φ : Except Interrupt α → Except Interrupt β} {o : Except Interrupt α}
    {l : List Event} (h : Orderly o l)
    (hφ : ∀ cause, φ (.error (.failing cause)) = .error (.failing cause)) :
    Orderly (φ o) l := by
  cases h with
  | calm h => exact .calm h
  | failed h =>
    rw [hφ]
    exact .failed h

/-- An interrupt is in order whatever kind of value it stands in for. -/
theorem error {i : Interrupt} {l : List Event} (h : Orderly (.error i : Except Interrupt α) l) :
    Orderly (.error i : Except Interrupt β) l := by
  cases h with
  | calm h => exact .calm h
  | failed h => exact .failed h

/-- With its start and its end around it, the record of a node is in order. -/
theorem observed {o : Outcome} {l : List Event} (h : Orderly o l) (n : Node) :
    Orderly o ([.started n] ++ l ++ [.ended n o]) := by
  cases h with
  | calm h =>
    have hopen : Opens [n] ([.started n] ++ l) := (opens_started n).append h
    by_cases ho : (Event.ended n o).Fails
    · -- The node is the first to fail.
      obtain ⟨cause, rfl⟩ : ∃ cause, o = .error (.failing cause) := by
        rcases o with (_ | _ | _ | cause) | a
        · exact ho.elim
        · exact ho.elim
        · exact ho.elim
        · exact ⟨cause, rfl⟩
        · exact ho.elim
      exact .failed hopen
    · exact .calm (hopen.ended ho)
  | @failed cause nodes before h =>
    -- A node inside it has failed, and now it does so itself.
    have hopen : Opens (nodes ++ [n]) ([.started n] ++ before) := (opens_started n).append h
    have hlist : [Event.started n] ++ (before ++ failures cause nodes) ++
        [.ended n (.error (.failing cause))] =
          [.started n] ++ before ++ failures cause (nodes ++ [n]) := by
      simp [failures]
    rw [hlist]
    exact .failed hopen

end Orderly

/-- The number of steps that are recorded. -/
def charges (l : List Event) : Nat := l.countP Event.isCharge

@[simp] theorem charges_append (l l' : List Event) :
    charges (l ++ l') = charges l + charges l' := List.countP_append

namespace Monitored

variable {α β : Type} {m depth : Nat}

/-! ### Runs in order -/

/-- A run under a monitor ends as a plain one does, with the counter where it was and with
a record in order of the steps that were spent. -/
structure Tracks (depth : Nat) (s : State) (w : Monitor) (r : EStateM.Result Interrupt State α)
    (y : EStateM.Result Interrupt State α × Monitor) : Prop where
  result_eq : y.1 = r
  depth_eq : y.2.depth = depth
  record : ∃ l, y.2.events = w.events ++ l ∧ Orderly (outcome r) l ∧
    charges l ≤ s.budget.remaining ∧ (final r).budget = s.budget.spend (charges l)

/-- From states with at most `m` steps left, and with the counter at `depth`, the run
under a monitor does what the plain one does, and is in order. -/
def Follows (m depth : Nat) (y : Monitored α) (x : Run α) : Prop :=
  ∀ s w, s.budget.remaining ≤ m → w.depth = depth → Tracks depth s w (x s) (y s w)

theorem Follows.anti {y : Monitored α} {x : Run α} (h : Follows m depth y x) {j : Nat}
    (hj : j ≤ m) : Follows j depth y x :=
  fun s w hs hw => h s w (Nat.le_trans hs hj) hw

theorem Follows.of_eq {y : Monitored α} {x x' : Run α} (h : Follows m depth y x)
    (hx : ∀ s, s.budget.remaining ≤ m → x' s = x s) : Follows m depth y x' := by
  intro s w hs hw
  rw [hx s hs]
  exact h s w hs hw

/-- A run that evaluates no node and takes no step has nothing to record. -/
theorem follows_ofRun {x : Run α} (hx : ∀ s, (final (x s)).budget = s.budget) :
    Follows m depth (ofRun x) x := by
  intro s w _ hw
  refine ⟨rfl, hw, [], (List.append_nil _).symm, .calm opens_nil, Nat.zero_le _, ?_⟩
  rw [hx s]
  rfl

theorem follows_pure (a : α) : Follows m depth (pure a) (pure a) := follows_ofRun fun _ => rfl

theorem follows_interrupt (i : Interrupt) :
    Follows m depth (ofRun (interrupt i) : Monitored α) (interrupt i) :=
  follows_ofRun fun _ => rfl

theorem follows_outOfSteps : Follows m depth (ofRun outOfSteps : Monitored α) outOfSteps :=
  follows_ofRun fun _ => rfl

theorem follows_bindVariable (v : VariableId) (a : Value) :
    Follows m depth (ofRun (bindVariable v a)) (bindVariable v a) :=
  follows_ofRun fun _ => rfl

theorem follows_ofExcept (e : Except Failure α) :
    Follows m depth (ofRun (ofExcept e)) (ofExcept e) := by
  refine follows_ofRun fun s => ?_
  rw [ofExcept_apply, final_ending]

theorem follows_read (v : VariableId) : Follows m depth (ofRun (read v)) (read v) := by
  refine follows_ofRun fun s => ?_
  show (final (ofExcept (s.frame.read v) s)).budget = s.budget
  rw [ofExcept_apply, final_ending]

/-- One run after the other.  What comes after is needed only from the states in which
the first one gives a value. -/
theorem Follows.bind_of_eq_ok {y : Monitored α} {x : Run α} {g : α → Monitored β}
    {f : α → Run β} (hx : Follows m depth y x)
    (hf : ∀ {s t : State} {a : α}, s.budget.remaining ≤ m → x s = .ok a t →
      Follows t.budget.remaining depth (g a) (f a)) :
    Follows m depth (y >>= g) (x >>= f) := by
  intro s w hs hw
  obtain ⟨hresult, hdepth, l, hl, ho, hk, hb⟩ := hx s w hs hw
  rw [bind_apply]
  cases hr : x s with
  | ok a t =>
    rw [hr] at hresult ho hb
    obtain ⟨hresult', hdepth', l', hl', ho', hk', hb'⟩ := hf hs hr t _ (Nat.le_refl _) hdepth
    rw [bind_apply_of_ok g hresult]
    rw [final_ok] at hb
    rw [hb, Budget.remaining_spend] at hk'
    refine ⟨hresult', hdepth', l ++ l', ?_, .append (ho.opens fun _ h => by cases h) ho', ?_, ?_⟩
    · rw [hl', hl, List.append_assoc]
    · rw [charges_append]
      omega
    · rw [show (final (f a t)).budget = _ from hb', hb, Budget.spend_spend, charges_append]
  | error i t =>
    rw [hr] at hresult ho hb
    rw [bind_apply_of_error g hresult]
    exact ⟨rfl, hdepth, l, hl, ho.error, hk, hb⟩

theorem Follows.bind {y : Monitored α} {x : Run α} {g : α → Monitored β} {f : α → Run β}
    (hx : Follows m depth y x) (hf : ∀ a, Follows m depth (g a) (f a)) :
    Follows m depth (y >>= g) (x >>= f) := by
  refine hx.bind_of_eq_ok fun {s t a} hs hr => (hf a).anti ?_
  obtain ⟨-, -, l, -, -, -, hb⟩ := hx s ⟨depth, []⟩ hs rfl
  rw [hr, final_ok] at hb
  rw [hb, Budget.remaining_spend]
  omega

/-- After a run that spends a step with every value, less is needed. -/
theorem Follows.bind_advancing {y : Monitored α} {x : Run α} {g : α → Monitored β}
    {f : α → Run β} (hx : Follows m depth y x) (hadvances : Advances x)
    (hf : ∀ a j, j < m → Follows j depth (g a) (f a)) : Follows m depth (y >>= g) (x >>= f) :=
  hx.bind_of_eq_ok fun hs hr => hf _ _ (Nat.lt_of_lt_of_le (hadvances _ _ _ hr) hs)

/-- Interception is in order, as long as it lets failures pass. -/
theorem Follows.mapped {y : Monitored α} {x : Run α} {x' : Run β}
    {φ : Except Interrupt α → Except Interrupt β} (h : Follows m depth y x)
    (hx' : ∀ s, x' s = ending (φ (outcome (x s))) (final (x s)))
    (hφ : ∀ cause, φ (.error (.failing cause)) = .error (.failing cause)) :
    Follows m depth (y.mapped φ) x' := by
  intro s w hs hw
  obtain ⟨hresult, hdepth, l, hl, ho, hk, hb⟩ := h s w hs hw
  rw [hx']
  refine ⟨?_, hdepth, l, hl, ?_, hk, ?_⟩
  · show ending (φ (outcome (y s w).1)) (final (y s w).1) = _
    rw [hresult]
  · rw [outcome_ending]
    exact ho.map hφ
  · rw [final_ending]
    exact hb

/-- An activation is in order if its run is. -/
theorem Follows.inFrame {y : Monitored α} {x : Run α} (h : Follows m depth y x) (f : Frame) :
    Follows m depth (y.inFrame f) (Run.inFrame f x) := by
  intro s w hs hw
  obtain ⟨hresult, hdepth, l, hl, ho, hk, hb⟩ := h { s with frame := f } w hs hw
  rw [← ending_outcome_final (Run.inFrame f x s), outcome_inFrame, final_inFrame]
  refine ⟨?_, hdepth, l, hl, ?_, hk, ?_⟩
  · show ending (outcome (y { s with frame := f } w).1)
      { final (y { s with frame := f } w).1 with frame := s.frame } = _
    rw [hresult]
  · rw [outcome_ending]
    exact ho
  · rw [final_ending]
    exact hb

/-- Under a monitor nodes are made of the same as without one. -/
theorem compositional_follows (m depth : Nat) :
    Compositional fun α (y : Monitored α) (x : Run α) => Follows m depth y x where
  pure := follows_pure
  bind := Follows.bind
  interrupt := follows_interrupt
  ofExcept := follows_ofExcept
  read := follows_read
  bindVariable := follows_bindVariable
  interceptJump id h := h.mapped (interceptJump_apply id _) fun _ => rfl

/-! ### The forms of nodes -/

section Forms

variable {eval : Node → Run Value} {eval' : Node → Monitored Value}
  (hparts : ∀ n, Follows m depth (eval' n) (eval n))

include hparts

/-- A round is in order if the rounds after it are, which start with fewer steps left. -/
theorem follows_evalRound (hmetered : Metered eval) (id : LoopId) (q : Node) (b : Option Node)
    {again : Run Value} {again' : Monitored Value}
    (hagain : ∀ j, j < m → Follows j depth again' again) :
    Follows m depth (evalRound eval' id q b again') (evalRound eval id q b again) := by
  have hnodes := compositional_follows m depth
  have hcondition := hnodes.evalCondition hparts q
  have hadvances := hmetered.advances_evalCondition q
  exact hnodes.evalRound_of_bind (S := fun y x => ∀ j, j < m → Follows j depth y x) hparts id b
    (fun _ _ => hcondition.bind_advancing hadvances) (fun _ _ => follows_pure _) hagain

/-- The fuel of a loop is at least the steps left.  Without a monitor it stops when the
fuel is used up, and with one it has a round more, for the node that has no step to start. -/
theorem follows_evalRounds (hmetered : Metered eval) (id : LoopId) (q : Node) (b : Option Node)
    (fuel : Nat) (hfuel : fuel ≤ m) :
    Follows fuel depth (evalRounds eval' id q b (fuel + 1)) (evalRounds eval id q b fuel) := by
  induction fuel with
  | zero =>
    refine Follows.of_eq ?_ fun s hs => evalRounds_eq_evalRound hmetered id q b hs
    exact follows_evalRound (fun n => (hparts n).anti hfuel) hmetered id q b
      fun j hj => absurd hj (Nat.not_lt_zero j)
  | succ fuel ih =>
    refine follows_evalRound (fun n => (hparts n).anti hfuel) hmetered id q b fun j hj => ?_
    exact (ih (Nat.le_of_succ_le hfuel)).anti (Nat.le_of_lt_succ hj)

theorem follows_evalForm (hmetered : Metered eval) (context : Context) (n : Node) :
    Follows m depth (evalForm context eval' (m + 1) n) (evalForm context eval m n) :=
  (compositional_follows m depth).evalForm hparts context
    (fun callee frame body =>
      (((compositional_follows m depth).evalBody hparts body).inFrame frame).mapped
        (settle_apply callee _) fun _ => rfl)
    (fun id q b => follows_evalRounds hparts hmetered id q b m (Nat.le_refl m)) n

end Forms

/-! ### Nodes -/

/-- A step that is taken is recorded. -/
theorem follows_charge : Follows m depth charge Run.charge := by
  intro s w _ hw
  rcases Nat.eq_zero_or_pos s.budget.remaining with hzero | hpos
  · have hcharge := charge_of_remaining_eq_zero hzero
    have hmonitored : charge s w = (outOfSteps s, w) := by
      unfold charge
      rw [hcharge]
      rfl
    rw [hcharge, hmonitored]
    exact follows_outOfSteps s w (Nat.le_refl _) hw
  · have hcharge := charge_of_remaining_pos hpos
    have hmonitored : charge s w =
        (.ok () { s with budget := s.budget.spend 1 }, w.record .charged) := by
      unfold charge
      rw [hcharge]
    rw [hcharge, hmonitored]
    exact ⟨rfl, hw, [.charged], rfl, .calm opens_charged, hpos, rfl⟩

/-- The counter tells how deep the node is that is started. -/
theorem follows_enter (context : Context) :
    Follows m depth (enter context) (ConstFold.enter context depth) := by
  refine follows_charge.bind fun _ => ?_
  intro s w hs hw
  show Tracks depth s w _ (checkDepth context s w)
  unfold checkDepth
  rw [hw]
  by_cases hd : depth < context.limits.maxDepth
  · rw [if_pos hd, if_pos hd]
    exact follows_pure () s w hs hw
  · rw [if_neg hd, if_neg hd]
    exact follows_interrupt (.failing (.depthExceeded context.limits.maxDepth)) s w hs hw

/-- A level that is counted up is counted down again. -/
theorem Follows.nested {y : Monitored α} {x : Run α} (h : Follows m (depth + 1) y x) :
    Follows m depth (nested y) x := by
  intro s w hs hw
  have hdown : w.down.depth = depth + 1 := by rw [Monitor.depth_down, hw]
  obtain ⟨hresult, hdepth, hrecord⟩ := h s w.down hs hdown
  refine ⟨hresult, ?_, hrecord⟩
  show (y s w.down).2.depth - 1 = depth
  rw [hdepth]
  rfl

/-- With its start and its end recorded, a node is in order. -/
theorem Follows.observed {y : Monitored Value} {x : Run Value} (h : Follows m depth y x)
    (n : Node) : Follows m depth (observed n y) x := by
  intro s w hs hw
  obtain ⟨hresult, hdepth, l, hl, ho, hk, hb⟩ := h s (w.record (.started n)) hs hw
  refine ⟨hresult, hdepth, [.started n] ++ l ++ [.ended n (outcome (x s))], ?_, ho.observed n,
    ?_, ?_⟩
  · show (y s (w.record (.started n))).2.events ++
      [.ended n (outcome (y s (w.record (.started n))).1)] = _
    rw [hl, hresult, Monitor.events_record]
    simp
  · simpa [charges, Event.isCharge] using hk
  · simpa [charges, Event.isCharge] using hb

/-- **Under a monitor the evaluator does what it does, and the monitor is in order.** -/
theorem follows_evalNode (context : Context) (fuel depth : Nat) (n : Node) :
    Follows fuel depth (evalNode context fuel n) (ConstFold.evalNode context fuel depth n) := by
  induction fuel generalizing depth n with
  | zero => exact follows_outOfSteps.observed n
  | succ fuel ih =>
    refine Follows.observed ?_ n
    refine (follows_enter context).bind_advancing (advances_enter context depth)
      fun _ j hj => ?_
    have hform := follows_evalForm (ih (depth + 1)) (metered_evalNode context fuel (depth + 1))
      context n
    exact (hform.nested).anti (Nat.le_of_lt_succ hj)

end Monitored

/-! ### Evaluators -/

/-- The evaluator after folding nodes in turn. -/
def Evaluator.after (e : Evaluator) (nodes : List Node) : Evaluator :=
  nodes.foldl (fun e node => (e.fold node).2) e

@[simp] theorem Evaluator.after_cons (e : Evaluator) (node : Node) (nodes : List Node) :
    e.after (node :: nodes) = (e.fold node).2.after nodes := rfl

namespace MonitoredEvaluator

/-- Between nodes the counter is at zero, and the run of the next one is tracked from there. -/
theorem tracks_fold {e : MonitoredEvaluator} (h : e.monitor.depth = 0) (n : Node) :
    Monitored.Tracks 0 ⟨e.budget, .empty⟩ e.monitor (e.toEvaluator.evalRoot n)
      (Monitored.evalNode e.toContext e.budget.remaining n ⟨e.budget, .empty⟩ e.monitor) :=
  Monitored.follows_evalNode e.toContext e.budget.remaining 0 n _ _ (Nat.le_refl _) h

/-- A fold under a monitor is the fold without one. -/
theorem fold_eq {e : MonitoredEvaluator} (h : e.monitor.depth = 0) (n : Node) :
    (e.fold n).1 = (e.toEvaluator.fold n).1 ∧
      (e.fold n).2.toEvaluator = (e.toEvaluator.fold n).2 := by
  have hresult := (tracks_fold h n).result_eq
  rw [Evaluator.fold_eq]
  exact ⟨congrArg (fun r => conclude (outcome r)) hresult,
    congrArg (fun r => (⟨e.toContext, (final r).budget⟩ : Evaluator)) hresult⟩

theorem depth_fold {e : MonitoredEvaluator} (h : e.monitor.depth = 0) (n : Node) :
    (e.fold n).2.monitor.depth = 0 :=
  (tracks_fold h n).depth_eq

/-- However the nodes folded so far have ended, the evaluator is the one without a monitor,
and the counter is at zero. -/
theorem after_eq {e : MonitoredEvaluator} (h : e.monitor.depth = 0) (nodes : List Node) :
    (e.after nodes).toEvaluator = e.toEvaluator.after nodes ∧
      (e.after nodes).monitor.depth = 0 := by
  induction nodes generalizing e with
  | nil => exact ⟨rfl, h⟩
  | cons n nodes ih =>
    rw [after_cons, Evaluator.after_cons, ← (fold_eq h n).2]
    exact ih (depth_fold h n)

end MonitoredEvaluator

end ConstFold
