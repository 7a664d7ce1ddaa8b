import ConstFold.Proofs.Jumps
import ConstFold.Proofs.LazyOperators
import ConstFold.Proofs.Quiet
import ConstFold.Proofs.Renaming
import Mathlib.Order.Bounds.Defs
import Mathlib.Tactic.Linarith
import Mathlib.Tactic.Ring

/-!
# The growth of texts

A step is charged for each node, however long the texts are that it works on.  So the texts of a
run are not bounded in proportion to its steps: a variable can be bound to a concatenation of what
it is bound to, and that again and again.

There is a bound all the same.  Without a binding, `ℓ` leaves of an expression take `2 ℓ - 1` steps
and give at most `ℓ` times the bytes there are in the frame and in the constants; to bind the
result takes one step more, at least.  Thus `2 ℓ` steps multiply what is in the frame by `ℓ` at
most, and since `ℓ ^ 3 ≤ 3 ^ ℓ`, it is best to triple it in six steps.

## Main definitions

* `textSizes` — the sizes of the texts that are written in a program and a root.
* `Grows` — the growth of the texts in a frame.
* `Grown` — the growth of texts in an evaluation, with the steps that it takes at least.
* `triplingRoot` — a root whose texts grow as fast as any.

## Main results

* `Evaluates.grown` — **what the steps of an evaluation pay for.**
* `foldCounted_text_size` — the bound on the text that a root is folded to, which cannot be
  lowered.
-/

namespace ConstFold

open Run

/-! ### Sizes -/

/-- The bytes of a text; no other value has any. -/
def Value.textSize : Value → Nat
  | .text s => s.utf8ByteSize
  | _ => 0

/-- The bytes of the text that an evaluation ends with, as a value or as one that is returned. -/
def textSizeOf : Outcome → Nat
  | .ok a => a.textSize
  | .error (.returning a) => a.textSize
  | .error _ => 0

/-- No text in the frame has more bytes. -/
def Frame.TextsAtMost (f : Frame) (N : Nat) : Prop := ∀ v a, f.get? v = some a → a.textSize ≤ N

/-- No text that is written in the node has more bytes. -/
def Node.TextsAtMost (n : Node) (L : Nat) : Prop :=
  ∀ s, Node.Within (.text s) n → s.utf8ByteSize ≤ L

/-- The sizes of the texts that are written in the root, in a default or in a body. -/
def textSizes (program : Program) (root : Node) : Set Nat :=
  {i | ∃ n s, (n = root ∨ program.HasDefault n ∨ program.InBody n) ∧ Node.Within (.text s) n ∧
    s.utf8ByteSize = i}

theorem Frame.textsAtMost_empty (N : Nat) : Frame.TextsAtMost .empty N := by
  intro v a h
  cases h

theorem Frame.TextsAtMost.mono {f : Frame} {M N : Nat} (h : f.TextsAtMost M) (hle : M ≤ N) :
    f.TextsAtMost N :=
  fun v a ha => Nat.le_trans (h v a ha) hle

theorem Frame.TextsAtMost.insert {f : Frame} {N : Nat} (h : f.TextsAtMost N) (v : VariableId)
    {a : Value} (ha : a.textSize ≤ N) : Frame.TextsAtMost (f.insert v a) N := by
  intro w b hb
  rw [Bindings.get?_insert] at hb
  split at hb
  · cases hb
    exact ha
  · exact h w b hb

theorem Node.TextsAtMost.of_part {n p : Node} {L : Nat} (h : n.TextsAtMost L) (hp : p ∈ n.parts) :
    p.TextsAtMost L :=
  fun s hs => h s (.part hp hs)

theorem Node.TextsAtMost.textSizeOf_value {c : Constant} {L : Nat}
    (h : (Node.const c).TextsAtMost L) : textSizeOf (plain c.value) ≤ L := by
  cases c with
  | text s => exact h s .self
  | _ => exact Nat.zero_le L

theorem Frame.TextsAtMost.textSizeOf_read {f : Frame} {N : Nat} (h : f.TextsAtMost N)
    (v : VariableId) : textSizeOf (plain (f.read v)) ≤ N := by
  unfold Frame.read
  split
  · next a ha => exact h v a ha
  · exact Nat.zero_le N

theorem textSizeOf_map_truth_le (o : Outcome) (g : Bool → Bool) :
    textSizeOf ((truth o).map fun q => .bool (g q)) ≤ textSizeOf o := by
  cases o with
  | ok a => cases a <;> exact Nat.zero_le _
  | error i => exact Nat.le_refl _

theorem textSizeOf_le_of_truth {o : Outcome} {i : Interrupt} (h : truth o = .error i) :
    textSizeOf (.error i) ≤ textSizeOf o := by
  cases o with
  | ok a =>
    cases a with
    | bool p => cases h
    | _ =>
      cases h
      exact Nat.zero_le _
  | error j =>
    cases h
    exact Nat.le_refl _

theorem textSizeOf_settled_le (callee : SymbolId) (o : Outcome) :
    textSizeOf (settled callee o) ≤ textSizeOf o := by
  cases o with
  | ok a => exact Nat.le_refl _
  | error i => cases i <;> exact Nat.le_refl _

/-- Only the concatenation of two texts is a text. -/
theorem Combinator.eq_textBinary_of_apply {c : Combinator} {vs : List Value} {s : String}
    (h : c.apply vs = .ok (.text s)) :
    ∃ g p q, c = .textBinary g ∧ vs = [.text p, .text q] ∧ s = g p q := by
  unfold Combinator.apply at h
  split at h
  · obtain ⟨i, hi⟩ := exists_of_bind_eq_ok h
    cases hi
  · obtain ⟨i, hi⟩ := exists_of_bind_eq_ok h
    obtain ⟨j, hj⟩ := exists_of_bind_eq_ok hi
    obtain ⟨r, hr⟩ := exists_of_bind_eq_ok hj
    cases hr
  · obtain ⟨i, hi⟩ := exists_of_bind_eq_ok h
    obtain ⟨j, hj⟩ := exists_of_bind_eq_ok hi
    cases hj
  · obtain ⟨p, hp⟩ := exists_of_bind_eq_ok h
    cases hp
  · obtain ⟨p, hp⟩ := exists_of_bind_eq_ok h
    obtain ⟨q, hq⟩ := exists_of_bind_eq_ok hp
    cases hq
  · next g a b =>
    cases a with
    | text p =>
      cases b with
      | text q =>
        cases h
        exact ⟨g, p, q, rfl, rfl, rfl⟩
      | _ => cases h
    | _ => cases h
  · cases h

/-- An operator gives no more bytes than its operands have together. -/
theorem Builtin.textSizeOf_apply_le (b : Builtin) (vs : List Value) :
    textSizeOf (plain (b.combinator.apply vs)) ≤ (vs.map Value.textSize).sum := by
  cases happly : b.combinator.apply vs with
  | error cause => exact Nat.zero_le _
  | ok a =>
    cases a with
    | text s =>
      obtain ⟨g, p, q, hb, rfl, rfl⟩ := Combinator.eq_textBinary_of_apply happly
      have hsize : (g p q).utf8ByteSize = p.utf8ByteSize + q.utf8ByteSize := by
        cases b <;> cases hb <;> exact String.utf8ByteSize_append
      exact Nat.le_of_eq hsize
    | _ => exact Nat.zero_le _

/-- Another operand adds its bytes. -/
theorem sum_textSize_append_le {done : List Value} {a : Value} {N ℓ ℓ' : Nat}
    (hdone : (done.map Value.textSize).sum ≤ N * ℓ) (ha : a.textSize ≤ N * ℓ') :
    ((done ++ [a]).map Value.textSize).sum ≤ N * (ℓ + ℓ') := by
  simp only [List.map_append, List.map_cons, List.map_nil, List.sum_append, List.sum_singleton,
    Nat.mul_add]
  exact Nat.add_le_add hdone ha

/-! ### Growth -/

/-- Cubes are no greater than powers of three, to which they come up at three. -/
theorem cube_le_three_pow {n : Nat} (hn : 3 ≤ n) : n ^ 3 ≤ 3 ^ n := by
  induction n, hn using Nat.le_induction with
  | base => exact Nat.le_refl _
  | succ n hn ih =>
    have hsquare : 3 * n ≤ n * n := Nat.mul_le_mul_right n hn
    have hcube : 3 * n ^ 2 ≤ n * n ^ 2 := Nat.mul_le_mul_right (n ^ 2) hn
    calc (n + 1) ^ 3 ≤ 3 * n ^ 3 := by nlinarith
      _ ≤ 3 * 3 ^ n := Nat.mul_le_mul_left 3 ih
      _ = 3 ^ (n + 1) := by rw [Nat.pow_succ, Nat.mul_comm]

theorem max_one_cube_le (ℓ : Nat) : max ℓ 1 ^ 3 ≤ 3 ^ ℓ := by
  match ℓ with
  | 0 | 1 | 2 => decide
  | n + 3 =>
    rw [Nat.max_eq_left (by omega)]
    exact cube_le_three_pow (by omega)

/-- Texts of at most `M` bytes have become texts of at most `N`, which takes `2 * u` steps. -/
structure Grows (M u N : Nat) : Prop where
  le : M ≤ N
  cube_le : N ^ 3 ≤ 3 ^ u * M ^ 3

theorem Grows.refl (M : Nat) : Grows M 0 M := ⟨Nat.le_refl M, by simp⟩

theorem Grows.trans {M N P u u' : Nat} (h : Grows M u N) (h' : Grows N u' P) :
    Grows M (u + u') P where
  le := Nat.le_trans h.le h'.le
  cube_le := by
    calc P ^ 3 ≤ 3 ^ u' * N ^ 3 := h'.cube_le
      _ ≤ 3 ^ u' * (3 ^ u * M ^ 3) := Nat.mul_le_mul_left _ h.cube_le
      _ = 3 ^ (u + u') * M ^ 3 := by rw [Nat.pow_add, Nat.mul_left_comm, Nat.mul_assoc]

/-- To bind a text `ℓ` times as long as those in the frame takes `2 * ℓ` steps. -/
theorem Grows.mul (M ℓ : Nat) : Grows M ℓ (M * max ℓ 1) where
  le := Nat.le_mul_of_pos_right M (by omega)
  cube_le := by
    rw [Nat.mul_pow, Nat.mul_comm]
    exact Nat.mul_le_mul_right _ (max_one_cube_le ℓ)

/-- An evaluation from texts of at most `M` bytes ends with at most `N` bytes in a text of the
frame, and at most `ℓ` times as many in its outcome.  The growth in the frame takes `2 * u` steps,
and there are `y` for it.  The outcome takes `2 * ℓ` more, and for both together there are `x`. -/
def Grown (M x y : Nat) (o : Outcome) (f' : Frame) : Prop :=
  ∃ u ℓ N, Grows M u N ∧ f'.TextsAtMost N ∧ textSizeOf o ≤ N * ℓ ∧ 2 * u + 2 * ℓ ≤ x ∧ 2 * u ≤ y

section

variable {M N u k k' x x' y y' : Nat} {o o' : Outcome} {f f' : Frame}

theorem Grown.mono (h : Grown M x y o f') (hx : x ≤ x') (hy : y ≤ y') : Grown M x' y' o f' := by
  obtain ⟨u, ℓ, N, hgrows, hf, ho, hx₀, hy₀⟩ := h
  exact ⟨u, ℓ, N, hgrows, hf, ho, Nat.le_trans hx₀ hx, Nat.le_trans hy₀ hy⟩

theorem Grown.of_le (h : Grown M x y o f') (hle : textSizeOf o' ≤ textSizeOf o) :
    Grown M x y o' f' := by
  obtain ⟨u, ℓ, N, hgrows, hf, ho, hx, hy⟩ := h
  exact ⟨u, ℓ, N, hgrows, hf, Nat.le_trans hle ho, hx, hy⟩

/-- Nothing has grown where there is no text. -/
theorem grown_of_eq_zero (hf : f.TextsAtMost M) (ho : textSizeOf o = 0) : Grown M x y o f :=
  ⟨0, 0, M, .refl M, hf, by omega, by omega, by omega⟩

/-- A leaf takes one step, with room for one more. -/
theorem grown_leaf (hf : f.TextsAtMost M) (ho : textSizeOf o ≤ M) : Grown M 2 0 o f :=
  ⟨0, 1, M, .refl M, hf, by omega, by omega, by omega⟩

/-- Growth before an evaluation adds to that in it. -/
theorem Grown.prepend (h : Grown N x y o f') (hgrows : Grows M u N) :
    Grown M (2 * u + x) (2 * u + y) o f' := by
  obtain ⟨u', ℓ, P, hgrows', hf, ho, hx, hy⟩ := h
  exact ⟨u + u', ℓ, P, hgrows.trans hgrows', hf, ho, by omega, by omega⟩

/-- Evaluations in turn have their steps together, if the first outcome is not used. -/
theorem Grown.andThen (h : Grown M (k + 1) (k + 0) o f)
    (h' : ∀ N, M ≤ N → f.TextsAtMost N → Grown N (k' + 1) (k' + 0) o' f') :
    Grown M (k + k' + 1) (k + k' + 0) o' f' := by
  obtain ⟨u, ℓ, N, hgrows, hf, -, -, hy⟩ := h
  exact ((h' N hgrows.le hf).prepend hgrows).mono (by omega) (by omega)

/-- To bind the outcome makes of it a text in the frame. -/
theorem Grown.bind {a : Value} (h : Grown M x y (.ok a) f') (v : VariableId) :
    Grown M x x (.ok .unit) (f'.insert v a) := by
  obtain ⟨u, ℓ, N, hgrows, hf, ho, hx, -⟩ := h
  have hmul := Grows.mul N ℓ
  refine ⟨u + ℓ, 0, N * max ℓ 1, hgrows.trans hmul, (hf.mono hmul.le).insert v ?_, Nat.zero_le _,
    by omega, by omega⟩
  exact Nat.le_trans ho (Nat.mul_le_mul_left N (Nat.le_max_left ℓ 1))

/-- The outcome of a call goes to the caller, and the frame of the callee is left behind.  The body
starts from the arguments, as if they had been bound in the frame of the caller. -/
theorem Grown.settled {ℓ : Nat} (h : Grown (M * max ℓ 1) (k + 1) (k + 0) o f')
    (hf : f.TextsAtMost M) (callee : SymbolId) :
    Grown M (k + (max (2 * ℓ) 1 + 1)) (k + max (2 * ℓ) 1) (settled callee o) f := by
  obtain ⟨u, ℓ', N, hgrows, -, ho, hx, hy⟩ := h
  have hcall := (Grows.mul M ℓ).trans hgrows
  exact ⟨ℓ + u, ℓ', N, hcall, hf.mono hcall.le, Nat.le_trans (textSizeOf_settled_le callee o) ho,
    by omega, by omega⟩

end

/-! ### Tasks -/

/-- The nodes that are left to evaluate of a task. -/
def Task.nodes : Task → List Node
  | .node n => [n]
  | .form n => [n]
  | .optional part => part.toList
  | .statements _ rest => rest
  | .branches rest => rest.flatMap fun b => [b.1, b.2]
  | .test _ q b => q :: b.toList
  | .rounds _ q b => q :: b.toList
  | .operands _ _ rest => rest
  | .slots _ _ rest body => rest.map Prod.snd ++ body.nodes

/-- What a task has at hand from before has at most `ℓ` times `M` bytes.  Operands are counted
together, and their operator is a built-in one. -/
def Task.AtHand (M ℓ : Nat) : Task → Prop
  | .statements last _ => last.textSize ≤ M * ℓ
  | .operands c done _ =>
      (∃ b : Builtin, c = b.combinator) ∧ (done.map Value.textSize).sum ≤ M * ℓ
  | .slots _ locals _ _ => locals.TextsAtMost (M * ℓ)
  | _ => True

/-- The steps that there are for the outcome of a task beyond its own.  A node has one, as `ℓ`
leaves take only `2 * ℓ - 1` steps, and the step of a node is counted before its form starts.  What
is at hand has been paid for. -/
def Task.outcomeRoom (ℓ : Nat) : Task → Nat
  | .form _ => 2
  | .statements _ _ => max (2 * ℓ) 1
  | .operands _ _ rest => 2 * ℓ + rest.length
  | .slots _ _ _ _ => max (2 * ℓ) 1 + 1
  | _ => 1

/-- The steps that there are for the frame beyond those of the task. -/
def Task.frameRoom (ℓ : Nat) : Task → Nat
  | .form _ => 1
  | .slots _ _ _ _ => max (2 * ℓ) 1
  | _ => 0

section

variable {program : Program} {operators : OperatorTable} {task : Task} {f f' : Frame}
  {o : Outcome} {L k d : Nat}

/-- What is left to evaluate of a node that has been started are its parts. -/
theorem Node.TextsAtMost.of_form {n : Node} (h : ∀ m ∈ (Task.form n).nodes, m.TextsAtMost L) :
    ∀ p ∈ n.parts, p.TextsAtMost L :=
  fun _ hp => (h n (List.mem_singleton_self n)).of_part hp

/-- The node before others is left to evaluate first. -/
theorem Node.TextsAtMost.of_cons {n : Node} {ns : List Node}
    (h : ∀ m ∈ n :: ns, m.TextsAtMost L) : ∀ m ∈ (Task.node n).nodes, m.TextsAtMost L :=
  List.forall_mem_singleton.2 (h n List.mem_cons_self)

/-- What is left to evaluate of a call is written in it or in the program. -/
theorem Node.TextsAtMost.of_resolve
    (hprogram : ∀ n, program.HasDefault n ∨ program.InBody n → n.TextsAtMost L) {callee : SymbolId}
    {as : List (Option Node)} {r : Resolved} (hr : resolve program operators callee as = .ok r)
    (h : ∀ m ∈ (Task.form (.call callee as)).nodes, m.TextsAtMost L) :
    (∀ n ∈ r.slotNodes, n.TextsAtMost L) ∧ ∀ n ∈ r.bodyNodes, n.TextsAtMost L := by
  obtain ⟨hslots, hbody⟩ := resolve_mem hr
  refine ⟨fun n hn => ?_, fun n hn => hprogram n (.inr (hbody n hn))⟩
  rcases hslots n hn with hmem | hdefault
  · exact of_form h n (List.reduceOption_mem_iff.2 hmem)
  · exact hprogram n (.inl hdefault)

/-- A form has room for the step that its node takes. -/
theorem Grown.form {M : Nat} (h : Grown M (k + 1) (k + 0) o f') : Grown M (k + 2) (k + 1) o f' :=
  h.mono (by omega) (by omega)

/-- **What the steps of an evaluation pay for.**  The texts in the frame and in the outcome grow no
more than the steps allow, with the room that the task has beyond them. -/
theorem Evaluates.grown
    (hprogram : ∀ n, program.HasDefault n ∨ program.InBody n → n.TextsAtMost L)
    (h : Evaluates program operators task f o f' k d) (M ℓ : Nat) (hL : L ≤ M)
    (htexts : ∀ n ∈ task.nodes, n.TextsAtMost L) (hhand : task.AtHand M ℓ)
    (hf : f.TextsAtMost M) : Grown M (k + task.outcomeRoom ℓ) (k + task.frameRoom ℓ) o f' := by
  induction h generalizing M ℓ with
  | node _ ih => exact ih M 0 hL htexts trivial hf
  | const =>
    have hc := (htexts _ (List.mem_singleton_self _)).textSizeOf_value
    exact (grown_leaf hf (Nat.le_trans hc hL)).mono (Nat.le_refl 2) (Nat.zero_le _)
  | get => exact (grown_leaf hf (hf.textSizeOf_read _)).mono (Nat.le_refl 2) (Nat.zero_le _)
  | declare_only | call_unresolved | breakTo | continueTo | typeOperation | absent
  | branches_nil => exact grown_of_eq_zero hf rfl
  | set _ ih | declare _ ih =>
    have hpart := ih M 0 hL (Node.TextsAtMost.of_form htexts) trivial hf
    exact (hpart.bind _).mono (Nat.le_succ _) (Nat.le_refl _)
  | coercion _ ih =>
    have hpart := ih M 0 hL (Node.TextsAtMost.of_form htexts) trivial hf
    exact (hpart.of_le (Nat.zero_le _)).form
  | set_interrupted _ ih | declare_interrupted _ ih | coercion_interrupted _ ih
  | ret_interrupted _ ih | choose _ ih | preTest _ ih | postTest _ ih =>
    exact (ih M 0 hL (Node.TextsAtMost.of_form htexts) trivial hf).form
  | ret _ ih =>
    exact ((ih M 0 hL (Node.TextsAtMost.of_form htexts) trivial hf).of_le (Nat.le_refl _)).form
  | block _ ih =>
    exact (ih M 0 hL (Node.TextsAtMost.of_form htexts) (Nat.zero_le _) hf).form
  | call_inlined hr _ ih =>
    obtain ⟨hslots, hbody⟩ := Node.TextsAtMost.of_resolve hprogram hr htexts
    exact ih M 0 hL (fun n hn => (List.mem_append.1 hn).elim (hslots n) (hbody n))
      (Frame.textsAtMost_empty _) hf
  | call_strict hr _ ih =>
    obtain ⟨b, rfl, hlength⟩ := exists_builtin_of_resolve_eq_strict hr
    have harity : b.combinator.arity ≤ 2 := by cases b <;> decide
    have hoperands := ih M 0 hL (Node.TextsAtMost.of_resolve hprogram hr htexts).1
      ⟨⟨b, rfl⟩, Nat.zero_le _⟩ hf
    refine hoperands.mono ?_ (Nat.le_succ _)
    simp only [Task.outcomeRoom]
    omega
  | call_decided hr _ _ _ ih =>
    obtain ⟨hslots, -⟩ := Node.TextsAtMost.of_resolve hprogram hr htexts
    have hleft := ih M 0 hL (Node.TextsAtMost.of_cons hslots) trivial hf
    exact (hleft.of_le (Nat.zero_le _)).form
  | call_undecided hr _ _ _ _ ihl ihr =>
    obtain ⟨hslots, -⟩ := Node.TextsAtMost.of_resolve hprogram hr htexts
    have hboth := (ihl M 0 hL (Node.TextsAtMost.of_cons hslots) trivial hf).andThen
      fun N hN => ihr N 0 (Nat.le_trans hL hN) (List.forall_mem_cons.1 hslots).2 trivial
    exact (hboth.of_le (textSizeOf_map_truth_le _ _)).form
  | call_interrupted hr _ ht ih =>
    obtain ⟨hslots, -⟩ := Node.TextsAtMost.of_resolve hprogram hr htexts
    have hleft := ih M 0 hL (Node.TextsAtMost.of_cons hslots) trivial hf
    exact (hleft.of_le (textSizeOf_le_of_truth ht)).form
  | present _ ih => exact ih M 0 hL htexts trivial hf
  | statements_nil =>
    refine ⟨0, ℓ, M, .refl M, hf, hhand, ?_, Nat.zero_le _⟩
    simp only [Task.outcomeRoom]
    omega
  | statements_cons _ _ ihn ihs =>
    -- The value is at hand for the statements that follow, where it counts only if there are none.
    obtain ⟨u, ℓ₁, N, hgrows, hf₁, ha, hx, hy⟩ :=
      ihn M 0 hL (Node.TextsAtMost.of_cons htexts) trivial hf
    have hrest := ihs N ℓ₁ (Nat.le_trans hL hgrows.le) (List.forall_mem_cons.1 htexts).2 ha hf₁
    simp only [Task.outcomeRoom, Task.frameRoom] at hx hy hrest ⊢
    exact (hrest.prepend hgrows).mono (by omega) (by omega)
  | statements_interrupted _ ih =>
    have hn := ih M 0 hL (Node.TextsAtMost.of_cons htexts) trivial hf
    exact hn.mono (Nat.add_le_add_left (Nat.le_max_right _ 1) _) (Nat.le_refl _)
  | branches_taken _ _ _ ihq ihr =>
    obtain ⟨-, hrest⟩ := List.forall_mem_cons.1 htexts
    exact (ihq M 0 hL (Node.TextsAtMost.of_cons htexts) trivial hf).andThen
      fun N hN => ihr N 0 (Nat.le_trans hL hN) (Node.TextsAtMost.of_cons hrest) trivial
  | branches_passed _ _ _ ihq ihbs =>
    obtain ⟨-, hrest⟩ := List.forall_mem_cons.1 htexts
    exact (ihq M 0 hL (Node.TextsAtMost.of_cons htexts) trivial hf).andThen
      fun N hN => ihbs N 0 (Nat.le_trans hL hN) (List.forall_mem_cons.1 hrest).2 trivial
  | branches_interrupted _ ht ih | test_interrupted _ ht ih =>
    have hq := ih M 0 hL (Node.TextsAtMost.of_cons htexts) trivial hf
    exact hq.of_le (textSizeOf_le_of_truth ht)
  | test_holds _ _ _ ihq ihr =>
    exact (ihq M 0 hL (Node.TextsAtMost.of_cons htexts) trivial hf).andThen
      fun N hN => ihr N 0 (Nat.le_trans hL hN) htexts trivial
  | test_fails _ _ ih =>
    have hq := ih M 0 hL (Node.TextsAtMost.of_cons htexts) trivial hf
    exact hq.of_le (Nat.zero_le _)
  | rounds_goOn _ _ _ ihb iht =>
    exact (ihb M 0 hL (List.forall_mem_cons.1 htexts).2 trivial hf).andThen
      fun N hN => iht N 0 (Nat.le_trans hL hN) htexts trivial
  | rounds_left _ _ ih =>
    exact (ih M 0 hL (List.forall_mem_cons.1 htexts).2 trivial hf).of_le (Nat.zero_le _)
  | rounds_interrupted _ hb ih =>
    obtain ⟨rfl, -⟩ := eq_error_of_roundEnd_eq_error hb
    exact ih M 0 hL (List.forall_mem_cons.1 htexts).2 trivial hf
  | operands_nil =>
    obtain ⟨⟨b, rfl⟩, hsum⟩ := hhand
    refine ⟨0, ℓ, M, .refl M, hf, Nat.le_trans (b.textSizeOf_apply_le _) hsum, ?_, Nat.zero_le _⟩
    simp only [Task.outcomeRoom]
    omega
  | operands_cons _ _ ihn ihs =>
    obtain ⟨hbuiltin, hsum⟩ := hhand
    obtain ⟨u, ℓ₁, N, hgrows, hf₁, ha, hx, hy⟩ :=
      ihn M 0 hL (Node.TextsAtMost.of_cons htexts) trivial hf
    have hdone := sum_textSize_append_le (Nat.le_trans hsum (Nat.mul_le_mul_right ℓ hgrows.le)) ha
    have hrest := ihs N (ℓ + ℓ₁) (Nat.le_trans hL hgrows.le) (List.forall_mem_cons.1 htexts).2
      ⟨hbuiltin, hdone⟩ hf₁
    simp only [Task.outcomeRoom, Task.frameRoom, List.length_cons] at hx hy hrest ⊢
    exact (hrest.prepend hgrows).mono (by omega) (by omega)
  | operands_interrupted _ ih =>
    have hn := ih M 0 hL (Node.TextsAtMost.of_cons htexts) trivial hf
    refine hn.mono ?_ (Nat.le_refl _)
    simp only [Task.outcomeRoom, List.length_cons]
    omega
  | @slots_nil callee locals body f f' o k d _ ih =>
    have hL' := Nat.le_trans hL (Grows.mul M ℓ).le
    have hlocals : locals.TextsAtMost (M * max ℓ 1) :=
      Frame.TextsAtMost.mono hhand (Nat.mul_le_mul_left M (Nat.le_max_left ℓ 1))
    have hbody : Grown (M * max ℓ 1) (k + 1) (k + 0) o f' := by
      cases body with
      | block ns => exact ih _ 0 hL' htexts (Nat.zero_le _) hlocals
      | expression n => exact ih _ 0 hL' htexts trivial hlocals
    exact hbody.settled hf callee
  | @slots_cons callee locals v n a rest body f f₁ f' o k k' d d' _ _ ihn ihs =>
    obtain ⟨u, ℓ₁, N, hgrows, hf₁, ha, hx, hy⟩ :=
      ihn M 0 hL (Node.TextsAtMost.of_cons htexts) trivial hf
    have hlocals : Frame.TextsAtMost (locals.insert v a) (N * max ℓ ℓ₁) := by
      refine Frame.TextsAtMost.insert (Frame.TextsAtMost.mono hhand ?_) v ?_
      · exact Nat.mul_le_mul hgrows.le (Nat.le_max_left ℓ ℓ₁)
      · exact Nat.le_trans ha (Nat.mul_le_mul_left N (Nat.le_max_right ℓ ℓ₁))
    have hrest := ihs N (max ℓ ℓ₁) (Nat.le_trans hL hgrows.le) (List.forall_mem_cons.1 htexts).2
      hlocals hf₁
    simp only [Task.outcomeRoom, Task.frameRoom] at hx hy hrest ⊢
    exact (hrest.prepend hgrows).mono (by omega) (by omega)
  | slots_interrupted _ ih =>
    have hn := ih M 0 hL (Node.TextsAtMost.of_cons htexts) trivial hf
    refine hn.mono ?_ (Nat.le_add_right _ _)
    simp only [Task.outcomeRoom]
    omega

end

/-! ### Folds -/

/-- The bytes of a text that a root is folded to. -/
theorem cube_utf8ByteSize_le {context : Context} {root : Node} {s : String} {k L : Nat}
    (hL : L ∈ upperBounds (textSizes context.program root))
    (h : foldCounted context root = (.ok (.text s), k)) :
    s.utf8ByteSize ^ 3 ≤ 3 ^ ((k + 1) / 2) * L ^ 3 := by
  obtain ⟨f', d, hmeant⟩ := evaluates_of_foldCounted_eq h
  have htexts : ∀ n, n = root ∨ context.program.HasDefault n ∨ context.program.InBody n →
      n.TextsAtMost L := fun n hn s hs => hL ⟨n, s, hn, hs, rfl⟩
  obtain ⟨u, ℓ, N, hgrows, -, hs, hsteps, -⟩ := hmeant.grown (fun n hn => htexts n (.inr hn)) L 0
    (Nat.le_refl L) (List.forall_mem_singleton.2 (htexts root (.inl rfl))) trivial
    (Frame.textsAtMost_empty L)
  have hsize : s.utf8ByteSize ≤ N * max ℓ 1 :=
    Nat.le_trans hs (Nat.mul_le_mul_left N (Nat.le_max_left ℓ 1))
  have hpairs : u + ℓ ≤ (k + 1) / 2 := by
    simp only [Task.outcomeRoom] at hsteps
    omega
  calc s.utf8ByteSize ^ 3 ≤ (N * max ℓ 1) ^ 3 := Nat.pow_le_pow_left hsize 3
    _ ≤ 3 ^ (u + ℓ) * L ^ 3 := (hgrows.trans (Grows.mul N ℓ)).cube_le
    _ ≤ 3 ^ ((k + 1) / 2) * L ^ 3 :=
      Nat.mul_le_mul_right _ (Nat.pow_le_pow_right (by decide) hpairs)

/-! ### Tripling -/

/-- A node three times over. -/
def Node.thrice (n : Node) : Node := .callBuiltin .textPlus [.callBuiltin .textPlus [n, n], n]

/-- A root that triples a text `j + 2` times: the first time as a constant, the last time as the
result, and otherwise in the variable `0`. -/
def triplingRoot (t : String) (j : Nat) : Node :=
  .block (.declare ⟨0⟩ (some (Node.thrice (.text t))) ::
    (List.replicate j (.set ⟨0⟩ (Node.thrice (.get ⟨0⟩))) ++ [Node.thrice (.get ⟨0⟩)]))

/-- A text that is tripled `j` times. -/
def tripled (t : String) : Nat → String
  | 0 => t
  | j + 1 => tripled t j ++ tripled t j ++ tripled t j

theorem utf8ByteSize_tripled (t : String) (j : Nat) :
    (tripled t j).utf8ByteSize = 3 ^ j * t.utf8ByteSize := by
  induction j with
  | zero => exact (Nat.one_mul _).symm
  | succ j ih =>
    rw [tripled, String.utf8ByteSize_append, String.utf8ByteSize_append, ih, Nat.pow_succ]
    ring

section

variable {f f₁ f₂ : Frame} {l r n : Node} {s t : String} {k k' d d' : Nat}

theorem evaluates_textPlus (hl : Evaluates .empty .reserved (.node l) f (.ok (.text s)) f₁ k d)
    (hr : Evaluates .empty .reserved (.node r) f₁ (.ok (.text t)) f₂ k' d') :
    Evaluates .empty .reserved (.node (.callBuiltin .textPlus [l, r])) f (.ok (.text (s ++ t))) f₂
      (k + k' + 1) (max d (max d' 0) + 1) := by
  have hresolve : resolve .empty .reserved Builtin.textPlus.symbol ([l, r].map some) =
      .ok (.strict Builtin.textPlus.combinator [l, r]) := by
    rw [resolve_callAll_operator (OperatorTable.get?_reserved _) rfl]
    rfl
  exact .node (.call_strict hresolve (.operands_cons hl (.operands_cons hr .operands_nil)))

theorem evaluates_thrice (h : Evaluates .empty .reserved (.node n) f (.ok (.text t)) f 1 1) :
    Evaluates .empty .reserved (.node n.thrice) f (.ok (.text (t ++ t ++ t))) f 5 3 :=
  evaluates_textPlus (evaluates_textPlus h h) h

theorem evaluates_get {v : VariableId} {a : Value} (h : f.read v = .ok a) :
    Evaluates .empty .reserved (.node (.get v)) f (.ok a) f 1 1 := by
  have hget : Evaluates .empty .reserved (.form (.get v)) f (plain (f.read v)) f 0 0 := .get
  rw [h] at hget
  exact .node hget

/-- Each statement triples the text in the variable, and takes six steps. -/
theorem evaluates_tripling (j i : Nat) (last : Value) (f : Frame)
    (hf : f.read ⟨0⟩ = .ok (.text (tripled t i))) :
    ∃ f' d, Evaluates .empty .reserved
      (.statements last (List.replicate j (.set ⟨0⟩ (Node.thrice (.get ⟨0⟩))) ++
        [Node.thrice (.get ⟨0⟩)])) f (.ok (.text (tripled t (i + j + 1)))) f' (6 * j + 5) d ∧
      d ≤ 4 := by
  have hthrice := evaluates_thrice (evaluates_get hf)
  induction j generalizing i f last with
  | zero => exact ⟨f, 3, .statements_cons hthrice .statements_nil, by decide⟩
  | succ j ih =>
    have hf' : Frame.read (f.insert ⟨0⟩ (.text (tripled t (i + 1)))) ⟨0⟩ =
        .ok (.text (tripled t (i + 1))) := Frame.read_insert_self _ _ _
    obtain ⟨f', d, hrest, hd⟩ := ih (i + 1) .unit _ hf' (evaluates_thrice (evaluates_get hf'))
    refine ⟨f', max 4 d, ?_, by omega⟩
    have hsteps : 6 * (j + 1) + 5 = 6 + (6 * j + 5) := by omega
    rw [hsteps, show i + (j + 1) + 1 = i + 1 + j + 1 by omega]
    exact .statements_cons (.node (.set hthrice)) hrest

end

/-- A text tripled `m` times takes six steps for each time. -/
theorem foldCounted_triplingRoot (t : String) (j : Nat) :
    foldCounted ⟨⟨6 * (j + 2), 5⟩, .empty, .reserved⟩ (triplingRoot t j) =
      (.ok (.text (tripled t (j + 2))), 6 * (j + 2)) := by
  have hconst : Evaluates .empty .reserved (.node (.text t)) .empty (.ok (.text (tripled t 0)))
      .empty 1 1 := .node .const
  obtain ⟨f', d, hrest, hd⟩ := evaluates_tripling j 1 .unit _
    (Frame.read_insert_self .empty ⟨0⟩ (.text (tripled t 1)))
  have hroot : Evaluates .empty .reserved (.node (triplingRoot t j)) .empty
      (.ok (.text (tripled t (1 + j + 1)))) f' (6 + (6 * j + 5) + 1) (max 4 d + 1) :=
    .node (.block (.statements_cons (.node (.declare (evaluates_thrice hconst))) hrest))
  rw [show 6 + (6 * j + 5) + 1 = 6 * (j + 2) by omega,
    show 1 + j + 1 = j + 2 by omega] at hroot
  exact hroot.foldCounted_eq (Nat.le_refl _) (by simp only; omega)

/-- What is written in a node three times over is written in the node. -/
theorem within_of_within_thrice {s : String} {n : Node} (h : Node.Within (.text s) n.thrice) :
    Node.Within (.text s) n := by
  rcases h with _ | ⟨hp, h⟩
  rcases hp with _ | ⟨_, _ | ⟨_, hp⟩⟩
  · rcases h with _ | ⟨hp, h⟩
    rcases hp with _ | ⟨_, _ | ⟨_, hp⟩⟩
    · exact h
    · exact h
    · cases hp
  · exact h
  · cases hp

theorem not_within_get {s : String} {v : VariableId} : ¬ Node.Within (.text s) (.get v) := by
  rintro (_ | ⟨hp, _⟩)
  cases hp

/-- The text is the only one that is written in the root. -/
theorem eq_of_within_triplingRoot {s t : String} {j : Nat}
    (h : Node.Within (.text s) (triplingRoot t j)) : s = t := by
  rcases h with _ | ⟨hp, h⟩
  rcases List.mem_cons.1 hp with rfl | hp
  · rcases h with _ | ⟨hp, h⟩
    cases List.mem_singleton.1 hp
    rcases within_of_within_thrice h with _ | ⟨hp, _⟩
    · rfl
    · cases hp
  · rcases List.mem_append.1 hp with hp | hp
    · cases List.eq_of_mem_replicate hp
      rcases h with _ | ⟨hp, h⟩
      cases List.mem_singleton.1 hp
      exact absurd (within_of_within_thrice h) not_within_get
    · cases List.mem_singleton.1 hp
      exact absurd (within_of_within_thrice h) not_within_get

theorem isGreatest_textSizes_triplingRoot (t : String) (j : Nat) :
    IsGreatest (textSizes .empty (triplingRoot t j)) t.utf8ByteSize := by
  constructor
  · refine ⟨_, t, .inl rfl, ?_, rfl⟩
    have hthrice : Node.Within (.text t) (Node.thrice (.text t)) :=
      .part (List.mem_cons_of_mem _ List.mem_cons_self) .self
    exact .part List.mem_cons_self (.part List.mem_cons_self hthrice)
  · rintro i ⟨n, s, rfl | ⟨_, _, hd, _⟩ | ⟨_, _, hd, _⟩, hs, rfl⟩
    · rw [eq_of_within_triplingRoot hs]
    · cases hd
    · cases hd

/-! ### The bound -/

/-- **A text grows to at most `3 ^ ((k + 1) / 6)` times the longest constant in `k` steps**, here
with both sides cubed.  For multiples of six, from twelve on, this is how long it can become. -/
theorem foldCounted_text_size :
    (∀ (context : Context) (root : Node) (s : String) (k L : Nat),
      L ∈ upperBounds (textSizes context.program root) →
      foldCounted context root = (.ok (.text s), k) →
      s.utf8ByteSize ^ 3 ≤ 3 ^ ((k + 1) / 2) * L ^ 3) ∧
    ∀ (t : String) (j : Nat), ∃ (context : Context) (root : Node) (s : String),
      let k := 6 * (j + 2)
      IsGreatest (textSizes context.program root) t.utf8ByteSize ∧
      foldCounted context root = (.ok (.text s), k) ∧
      s.utf8ByteSize ^ 3 = 3 ^ ((k + 1) / 2) * t.utf8ByteSize ^ 3 := by
  refine ⟨fun context root s k L => cube_utf8ByteSize_le, fun t j => ?_⟩
  refine ⟨⟨⟨6 * (j + 2), 5⟩, .empty, .reserved⟩, triplingRoot t j, tripled t (j + 2),
    isGreatest_textSizes_triplingRoot t j, foldCounted_triplingRoot t j, ?_⟩
  rw [utf8ByteSize_tripled, Nat.mul_pow, ← Nat.pow_mul,
    show (6 * (j + 2) + 1) / 2 = (j + 2) * 3 by omega]

/-- No multiple of the longest constant by the steps is a bound: one byte becomes twenty-seven in
eighteen steps. -/
theorem not_utf8ByteSize_le_steps_mul :
    ¬ ∀ (context : Context) (root : Node) (s : String) (k L : Nat),
      IsGreatest (textSizes context.program root) L →
      foldCounted context root = (.ok (.text s), k) → s.utf8ByteSize ≤ k * L := by
  intro h
  have hle := h _ _ _ _ _ (isGreatest_textSizes_triplingRoot "a" 1) (foldCounted_triplingRoot "a" 1)
  rw [utf8ByteSize_tripled] at hle
  exact absurd hle (by decide)

end ConstFold
