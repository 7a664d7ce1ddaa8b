import ConstFold.Proofs.Quiet

/-!
# What a node can write

The evaluation of a node changes the frame it starts in only at the variables that the
node itself, or a default of the program, assigns to.  What the body of a function binds
is bound in a frame of its own, also where the function uses the variables of its caller,
as a recursive one does.  And nothing unbinds a variable.  All this holds however the
evaluation ends, also where it runs out of a resource in the middle.

The frame of a single run is watched by comparing the run with itself: the comparison
says, besides that both frames are the same, how far they have moved from the first one.

## Main definitions

* `Node.Writes`, `Program.DefaultWrites` — the variables that are assigned to in a node
  and in the defaults of a program.
* `Frame.Moved W f f'` — from `f` to `f'` only variables with `W` have changed, and none
  is lost.
* `Comparison.moving W f` — a run and itself, in frames that have moved so from `f`.

## Main results

* `Comparison.agree_evalNode_moving` — no node moves the frame further than what it and
  the defaults write.
* `evaluate_writes` — **a callee never writes its caller's frame.**
-/

namespace ConstFold

open Run

/-! ### Variables that are written -/

/-- The variable is assigned to somewhere in the node, or declared there with an
initializer. -/
def Node.Writes (n : Node) (v : VariableId) : Prop := ∃ m, Node.Within m n ∧ m.Assigns v

/-- The variable is assigned to somewhere in a default. -/
def Program.DefaultWrites (program : Program) (v : VariableId) : Prop :=
  ∃ p, program.HasDefault p ∧ p.Writes v

/-- What is written in a part is written in the node. -/
theorem Node.Writes.of_part {n p : Node} {v : VariableId} (hp : p ∈ n.parts) (h : p.Writes v) :
    n.Writes v := by
  obtain ⟨m, hm, hassigns⟩ := h
  exact ⟨m, .part hp hm, hassigns⟩

/-! ### Frames on the move -/

/-- Of the variables of `f` none is lost in `f'`, and only those with `W` have changed. -/
structure Frame.Moved (W : VariableId → Prop) (f f' : Frame) : Prop where
  contains : ∀ v, f.contains v = true → f'.contains v = true
  changed : ∀ v, f'.get? v ≠ f.get? v → W v

namespace Frame.Moved

variable {W : VariableId → Prop} {f f' : Frame}

theorem refl (W : VariableId → Prop) (f : Frame) : Moved W f f :=
  ⟨fun _ => id, fun _ h => absurd rfl h⟩

/-- A variable with `W` may be bound, and is then there. -/
theorem insert {v : VariableId} (h : Moved W f f') (hv : W v) (a : Value) :
    Moved W f (f'.insert v a) where
  contains := by
    intro w hw
    unfold Bindings.contains
    rw [Bindings.get?_insert]
    split
    · rfl
    · exact h.contains w hw
  changed := by
    intro w hw
    by_cases hwv : w = v
    · rw [hwv]
      exact hv
    · rw [Bindings.get?_insert_of_ne f' a hwv] at hw
      exact h.changed w hw

end Frame.Moved

/-! ### Runs and themselves -/

namespace Comparison

/-- A run and itself, in a frame that has moved from `f` at most at variables with `W`. -/
def moving (W : VariableId → Prop) (f : Frame) : Comparison where
  frames := fun g g' => g = g' ∧ f.Moved W g
  budgets := Eq
  failures := Eq
  apart := fun _ _ _ => False
  failures_self := fun _ => rfl
  apart_leads := fun h _ => h

variable {W : VariableId → Prop} {f : Frame}

/-- However a run ends, it ends in a frame that has moved so. -/
theorem Ends.moved {α : Type} {r r' : EStateM.Result Interrupt State α}
    (h : (moving W f).Ends (moving W f).States r r') : f.Moved W (final r).frame := by
  rcases h.outcome_eq_or_apart (fun _ _ => id) with ⟨-, hst, -⟩ | ⟨_, -, ha⟩
  · exact hst.frames.2
  · exact ha.elim

/-- **No node moves the frame further than what it and the defaults write.** -/
theorem agree_evalNode_moving (context : Context)
    (hdefaults : ∀ v, context.program.DefaultWrites v → W v) (fuel depth : Nat) (n : Node)
    (hn : ∀ v, n.Writes v → W v) :
    (moving W f).Agree fuel fuel (evalNode context fuel depth n)
      (evalNode context fuel depth n) := by
  -- The nodes to watch are those that write nothing but variables with `W`.
  refine agree_evalNode_twoFrames (c := moving W f) (S := fun m => ∀ v, m.Writes v → W v) rfl
    (fun _ => rfl) context ?_ ?_ ?_ ?_ fuel depth n hn
  · exact fun m hm p hp v hv => hm v (hv.of_part hp)
  · exact fun p hp v hv => hdefaults v ⟨p, hp, hv⟩
  · intro v k _
    refine agree_read_of_get?_eq fun {g g'} hg => ?_
    rw [hg.1]
  · intro m v a k hm hassigns
    refine agree_bindVariable_of_insert fun {g g'} hg => ?_
    obtain ⟨rfl, hmoved⟩ := hg
    exact ⟨rfl, hmoved.insert (hm v ⟨m, .self, hassigns⟩) a⟩

end Comparison

/-! ### The evaluator -/

/-- To start a node leaves the frame alone, whether it is started or not. -/
theorem frame_final_enter (context : Context) (depth : Nat) (s : State) :
    (final (enter context depth s)).frame = s.frame := by
  rcases Nat.eq_zero_or_pos s.budget.remaining with hzero | hpos
  · rw [enter_of_remaining_eq_zero context depth hzero]
    rfl
  · rcases Nat.lt_or_ge depth context.limits.maxDepth with hd | hd
    · rw [enter_of_lt hpos hd]
      rfl
    · rw [enter_of_le hpos hd]
      rfl

/-- A declaration without an initializer leaves the frame alone. -/
theorem frame_final_declare (context : Context) (depth : Nat) (v : VariableId) (s : State) :
    (final (evaluate context depth (.declare v none) s)).frame = s.frame := by
  have henter := frame_final_enter context depth s
  unfold evaluate
  rw [evalNode_eq_enter_bind context depth _ (Nat.le_refl _), bind_apply]
  cases hr : enter context depth s with
  | ok _ t =>
    rw [hr] at henter
    exact henter
  | error i t =>
    rw [hr] at henter
    exact henter

/-- **A callee never writes its caller's frame.**  However the evaluation of a node ends,
every variable that was bound is still bound, every variable that has changed is written
in the node itself or in a default of the program, and a declaration without an
initializer has changed nothing. -/
theorem evaluate_writes (program : Program) (operators : OperatorTable) (n : Node) (f : Frame)
    (limits : Limits) (depth : Nat) (b : Budget) :
    let after := (final (evaluate ⟨limits, program, operators⟩ depth n ⟨b, f⟩)).frame
    (∀ v, f.contains v = true → after.contains v = true) ∧
      (∀ v, after.get? v ≠ f.get? v → n.Writes v ∨ program.DefaultWrites v) ∧
      ∀ v, n = .declare v none → after = f := by
  intro after
  have hagree := Comparison.agree_evalNode_moving (f := f)
    (W := fun v => n.Writes v ∨ program.DefaultWrites v) ⟨limits, program, operators⟩
    (fun _ => .inr) b.remaining depth n fun _ => .inl
  have hmoved := (hagree.ends (s := ⟨b, f⟩) (Nat.le_refl _) (Nat.le_refl _)
    ⟨rfl, rfl, .refl _ f⟩).moved
  refine ⟨hmoved.contains, hmoved.changed, ?_⟩
  rintro v rfl
  exact frame_final_declare _ depth v ⟨b, f⟩

/-! ### An instance -/

/-- A function that calls itself without end.  It binds the variables `0` and `2`, and the
default of its argument binds the variable `1` before it reads the variable `0`. -/
def endlessProgram : Program :=
  Bindings.empty.insert ⟨100⟩
    ⟨"endless", [⟨⟨0⟩, some (.block [.set ⟨1⟩ (.int 7), .get ⟨0⟩])⟩],
      some (.block [.set ⟨0⟩ (.callBuiltin .intDec [.get ⟨0⟩]), .declare ⟨2⟩ (some (.get ⟨0⟩)),
        .call ⟨100⟩ []])⟩

/-- The value of the function is to be kept in the variable `3`. -/
def endlessRoot : Node := .set ⟨3⟩ (.call ⟨100⟩ [])

theorem eq_of_writes_endlessRoot {v : VariableId} (h : endlessRoot.Writes v) : v = ⟨3⟩ := by
  obtain ⟨m, hm, hassigns⟩ := h
  cases hm with
  | self => exact (show (⟨3⟩ : VariableId) = v from hassigns).symm
  | part hp hm =>
    rw [List.mem_singleton.1 hp] at hm
    cases hm with
    | self => exact hassigns.elim
    | part hp _ => cases hp

theorem eq_of_defaultWrites_endlessProgram {v : VariableId}
    (h : endlessProgram.DefaultWrites v) : v = ⟨1⟩ := by
  obtain ⟨p, ⟨s, d, hd, q, hq, hp⟩, m, hm, hassigns⟩ := h
  rw [endlessProgram, Bindings.get?_insert] at hd
  split at hd
  · cases hd
    rw [List.mem_singleton.1 hq] at hp
    cases hp
    cases hm with
    | self => exact hassigns.elim
    | part hp hm =>
      rcases List.mem_pair.1 hp with rfl | rfl
      · cases hm with
        | self => exact (show (⟨1⟩ : VariableId) = v from hassigns).symm
        | part hp hm =>
          rw [List.mem_singleton.1 hp] at hm
          cases hm with
          | self => exact hassigns.elim
          | part hp _ => cases hp
      · cases hm with
        | self => exact hassigns.elim
        | part hp _ => cases hp
  · cases hd

/-- The caller keeps its variables `0` and `2` although every activation binds variables of
these names, and although the steps run out in one of them.  The default has bound the
variable `1`. -/
theorem evaluate_writes_endless :
    let f : Frame := (Bindings.empty.insert ⟨0⟩ (.int 5)).insert ⟨2⟩ (.int 9)
    let r := evaluate ⟨⟨40, 30⟩, endlessProgram, .reserved⟩ 0 endlessRoot ⟨.full 40, f⟩
    outcome r = .error (.failing (.stepsExhausted 40)) ∧
      (final r).frame.get? ⟨1⟩ = some (.int 7) ∧ endlessProgram.DefaultWrites ⟨1⟩ ∧
      (final r).frame.contains ⟨0⟩ = true ∧ (final r).frame.get? ⟨2⟩ = f.get? ⟨2⟩ := by
  intro f r
  have hbound : (final r).frame.get? ⟨1⟩ = some (.int 7) := by decide +kernel
  obtain ⟨hcontains, hchanged, -⟩ :=
    evaluate_writes endlessProgram .reserved endlessRoot f ⟨40, 30⟩ 0 (.full 40)
  refine ⟨by decide +kernel, hbound, ?_, hcontains ⟨0⟩ (by decide), ?_⟩
  · refine (hchanged ⟨1⟩ ?_).resolve_left fun h => absurd (eq_of_writes_endlessRoot h) (by decide)
    rw [show (final (evaluate _ 0 endlessRoot _)).frame.get? ⟨1⟩ = _ from hbound]
    decide
  · by_contra hne
    rcases hchanged ⟨2⟩ hne with h | h
    · exact absurd (eq_of_writes_endlessRoot h) (by decide)
    · exact absurd (eq_of_defaultWrites_endlessProgram h) (by decide)

end ConstFold
