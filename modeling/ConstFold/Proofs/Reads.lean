import ConstFold.Proofs.Quiet

/-!
# What a node can read

The outcome of a node depends on the frame only through the variables that it can read:
those read in the node itself, and those read in the defaults of the program, which are
evaluated in the frame of the call.  Frames that agree on these lead to one outcome and
one budget, and the bindings made on the way are the same: one map overrides both frames.
What a function reads in its body is not among them, since it reads its own frame.

## Main definitions

* `Bindings.override m d` — the map `m` with the entries of `d` in place of its own.
* `Node.Reads`, `Program.DefaultReads` — the variables that are read in a node and in
  the defaults of a program.
* `Comparison.overridden f₁ f₂` — runs that have made the same bindings, starting from
  the frames `f₁` and `f₂`.

## Main results

* `Bindings.get?_override`, `Bindings.override_insert` — what overriding does to lookups,
  and that it commutes with binding.
* `Comparison.agree_evalNode_overridden` — a node goes in lockstep in frames that agree
  on what it can read.
* `evaluate_depends_on_reads` — **the outcome depends only on the variables that can be
  read.**
-/

namespace ConstFold

/-! ### Overriding a map -/

namespace Bindings

universe u v

variable {κ : Type u} {α : Type v} [DecidableEq κ]

/-- The map with the entries of another one in place of its own. -/
def override (m d : Bindings κ α) : Bindings κ α := m.insertAll d.entries

/-- Of two bindings of one key, only the second is left. -/
theorem put_put_self (k : κ) (a b : α) (l : List (κ × α)) :
    put k a (put k b l) = put k a l := by
  induction l with
  | nil => simp [put_cons]
  | cons e rest ih =>
    by_cases h : e.1 = k
    · simp [put_cons, h]
    · simp [put_cons, h, ih]

/-- A key that has its place can be bound before another one or after it. -/
theorem put_put_comm {j k : κ} (hjk : j ≠ k) (a b : α) {l : List (κ × α)}
    (hk : k ∈ l.map Prod.fst) : put k a (put j b l) = put j b (put k a l) := by
  induction l with
  | nil => simp at hk
  | cons e rest ih =>
    by_cases hek : e.1 = k
    · have hej : e.1 ≠ j := fun hej => hjk (hej.symm.trans hek)
      rw [put_cons, if_neg hej, put_cons, put_cons, if_pos hek, if_pos hek, put_cons,
        if_neg (Ne.symm hjk)]
    · have hrest : k ∈ rest.map Prod.fst := by
        rcases List.mem_cons.1 hk with hk | hk
        · exact absurd hk.symm hek
        · exact hk
      by_cases hej : e.1 = j
      · simp [put_cons, hej, hjk]
      · simp [put_cons, hek, hej, ih hrest]

theorem insert_insert_self (m : Bindings κ α) (k : κ) (a b : α) :
    (m.insert k b).insert k a = m.insert k a :=
  Bindings.ext (put_put_self k a b m.entries)

theorem insert_insert_comm {m : Bindings κ α} {j k : κ} (hjk : j ≠ k) (a b : α)
    (hk : k ∈ m.keys) : (m.insert j b).insert k a = (m.insert k a).insert j b :=
  Bindings.ext (put_put_comm hjk a b hk)

theorem mem_keys_insert_of_mem {m : Bindings κ α} {k : κ} (hk : k ∈ m.keys) (j : κ) (b : α) :
    k ∈ (m.insert j b).keys := by
  rw [keys_insert]
  split
  · exact hk
  · exact List.mem_append_left _ hk

/-- A key that is bound already can be bound before other keys or after them. -/
theorem insert_insertAll {m : Bindings κ α} {k : κ} (a : α) {l : List (κ × α)}
    (hm : k ∈ m.keys) (hl : k ∉ l.map Prod.fst) :
    (m.insertAll l).insert k a = (m.insert k a).insertAll l := by
  induction l generalizing m with
  | nil => rfl
  | cons e rest ih =>
    rw [List.map_cons, List.mem_cons, not_or] at hl
    obtain ⟨hne, hrest⟩ := hl
    rw [insertAll_cons, insertAll_cons, ih (mem_keys_insert_of_mem hm e.1 e.2) hrest,
      insert_insert_comm (Ne.symm hne) a e.2 hm]

theorem insertAll_put (m : Bindings κ α) (k : κ) (a : α) {l : List (κ × α)}
    (hl : (l.map Prod.fst).Nodup) : m.insertAll (put k a l) = (m.insertAll l).insert k a := by
  induction l generalizing m with
  | nil => rfl
  | cons e rest ih =>
    rw [List.map_cons, List.nodup_cons] at hl
    obtain ⟨hnot, hrest⟩ := hl
    rw [put_cons]
    by_cases h : e.1 = k
    · -- The entry of the key is replaced, and nothing after it is one of the key.
      subst h
      have hmem : e.1 ∈ (m.insert e.1 e.2).keys := by
        rw [mem_keys_iff, get?_insert_self]
        rfl
      rw [if_pos rfl, insertAll_cons, insertAll_cons, insert_insertAll a hmem hnot,
        insert_insert_self]
    · rw [if_neg h, insertAll_cons, insertAll_cons, ih (m.insert e.1 e.2) hrest]

/-- To bind a key after overriding is to override by the map with the key bound. -/
theorem override_insert (m d : Bindings κ α) (k : κ) (a : α) :
    m.override (d.insert k a) = (m.override d).insert k a :=
  insertAll_put m k a d.nodup

theorem get?_insertAll (m : Bindings κ α) (k : κ) {l : List (κ × α)}
    (hl : (l.map Prod.fst).Nodup) : (m.insertAll l).get? k = (l.lookup k).or (m.get? k) := by
  induction l generalizing m with
  | nil => rfl
  | cons e rest ih =>
    rw [List.map_cons, List.nodup_cons] at hl
    obtain ⟨hnot, hrest⟩ := hl
    rw [insertAll_cons, ih (m.insert e.1 e.2) hrest, lookup_cons_eq_ite, get?_insert]
    by_cases h : k = e.1
    · have hnone : rest.lookup k = none := by
        rw [List.lookup_eq_none_iff]
        intro p hp
        rw [bne_iff_ne, h]
        exact fun hpk => hnot (hpk ▸ List.mem_map_of_mem hp)
      simp [h, h ▸ hnone]
    · simp [h]

/-- Where the second map has an entry it counts, and elsewhere the first one does. -/
theorem get?_override (m d : Bindings κ α) (k : κ) :
    (m.override d).get? k = (d.get? k).or (m.get? k) :=
  get?_insertAll m k d.nodup

end Bindings

/-! ### Variables that are read -/

open Run

/-- The variable is read somewhere in the node. -/
def Node.Reads (n : Node) (v : VariableId) : Prop := Node.Within (.get v) n

/-- The variable is read somewhere in a default. -/
def Program.DefaultReads (program : Program) (v : VariableId) : Prop :=
  ∃ p, program.HasDefault p ∧ p.Reads v

namespace Comparison

/-- Runs that started from the frames `f₁` and `f₂` and have made the same bindings. -/
def overridden (f₁ f₂ : Frame) : Comparison where
  frames := fun f f' => ∃ δ : Frame, f = f₁.override δ ∧ f' = f₂.override δ
  budgets := Eq
  failures := Eq
  apart := fun _ _ _ => False
  failures_self := fun _ => rfl
  apart_leads := fun h _ => h

/-- Runs without a difference in the budget and in the failures end alike. -/
theorem Ends.outcome_eq_of_overridden {α : Type} {f₁ f₂ : Frame}
    {r r' : EStateM.Result Interrupt State α}
    (h : (overridden f₁ f₂).Ends (overridden f₁ f₂).States r r') :
    outcome r = outcome r' ∧ (overridden f₁ f₂).States (final r) (final r') := by
  rcases h.outcome_eq_or_apart (fun _ _ => id) with ⟨ho, hst, -⟩ | ⟨f, -, ha⟩
  · exact ⟨ho, hst⟩
  · exact ha.elim

variable {f₁ f₂ : Frame}

/-- A variable on which the frames agreed at the start has one value in both. -/
theorem agree_read_overridden {v : VariableId} (hv : f₁.get? v = f₂.get? v) {m₁ m₂ : Nat} :
    (overridden f₁ f₂).Agree m₁ m₂ (read v) (read v) := by
  refine agree_read_of_get?_eq fun {f f'} hf => ?_
  obtain ⟨δ, rfl, rfl⟩ := hf
  rw [Bindings.get?_override, Bindings.get?_override, hv]

/-- A binding goes into the map that overrides both frames. -/
theorem agree_bindVariable_overridden (v : VariableId) (a : Value) {m₁ m₂ : Nat} :
    (overridden f₁ f₂).Agree m₁ m₂ (bindVariable v a) (bindVariable v a) := by
  refine agree_bindVariable_of_insert fun {f f'} hf => ?_
  obtain ⟨δ, rfl, rfl⟩ := hf
  exact ⟨δ.insert v a, (Bindings.override_insert f₁ δ v a).symm,
    (Bindings.override_insert f₂ δ v a).symm⟩

/-- A node goes in lockstep in frames that agree on what it can read. -/
theorem agree_evalNode_overridden (context : Context) (fuel depth : Nat) (n : Node)
    (h : ∀ v, n.Reads v ∨ context.program.DefaultReads v → f₁.get? v = f₂.get? v) :
    (overridden f₁ f₂).Agree fuel fuel (evalNode context fuel depth n)
      (evalNode context fuel depth n) := by
  -- The nodes to watch are those in which only variables of agreement are read.
  refine agree_evalNode_twoFrames (S := fun m => ∀ v, m.Reads v → f₁.get? v = f₂.get? v) rfl
    (fun _ => rfl) context ?_ ?_ ?_ ?_ fuel depth n fun v hv => h v (.inl hv)
  · exact fun m hm p hp v hv => hm v (.part hp hv)
  · exact fun p hp v hv => h v (.inr ⟨p, hp, hv⟩)
  · exact fun v k hv => agree_read_overridden (hv v .self)
  · exact fun m v a k _ _ => agree_bindVariable_overridden v a

end Comparison

/-- An activation sees nothing of the frame it is called from, and leaves it as it was. -/
theorem activation_eq (callee : SymbolId) (locals : Frame) (x : Run Value) (b : Budget)
    (g : Frame) :
    settle callee (inFrame locals x) ⟨b, g⟩ =
      ending (settled callee (outcome (x ⟨b, locals⟩))) ⟨(final (x ⟨b, locals⟩)).budget, g⟩ := by
  rw [settle_apply, outcome_inFrame, final_inFrame]

/-- **The outcome depends only on the variables that can be read.**  In frames that agree
on the variables read in a node and in the defaults of the program, the node has the
same outcome and leaves the same budget, and one map overrides both frames.  In
particular the body of a function does the same whatever frame it is called from. -/
theorem evaluate_depends_on_reads (program : Program) (operators : OperatorTable) (n : Node)
    {f₁ f₂ : Frame}
    (h : ∀ v, n.Reads v ∨ program.DefaultReads v → f₁.get? v = f₂.get? v)
    (limits : Limits) (depth : Nat) (b : Budget) :
    let context : Context := ⟨limits, program, operators⟩
    let run := fun f => evaluate context depth n ⟨b, f⟩
    let activation := fun callee locals body f =>
      settle callee (inFrame locals (evalBody (evaluate context (depth + 1)) body)) ⟨b, f⟩
    outcome (run f₁) = outcome (run f₂) ∧
      (final (run f₁)).budget = (final (run f₂)).budget ∧
      (∃ δ : Frame, (final (run f₁)).frame = f₁.override δ ∧
        (final (run f₂)).frame = f₂.override δ) ∧
      ∀ callee locals body g₁ g₂,
        outcome (activation callee locals body g₁) = outcome (activation callee locals body g₂) ∧
          (final (activation callee locals body g₁)).budget =
            (final (activation callee locals body g₂)).budget ∧
          (final (activation callee locals body g₁)).frame = g₁ := by
  intro context run activation
  have hagree := Comparison.agree_evalNode_overridden context b.remaining depth n h
  have hstart : (Comparison.overridden f₁ f₂).States ⟨b, f₁⟩ ⟨b, f₂⟩ := ⟨rfl, .empty, rfl, rfl⟩
  have hends := hagree.ends (Nat.le_refl _) (Nat.le_refl _) hstart
  obtain ⟨ho, hb, hf⟩ := hends.outcome_eq_of_overridden
  refine ⟨ho, hb, hf, fun callee locals body g₁ g₂ => ?_⟩
  -- The frame of the caller shows up in the frame that is left, and nowhere else.
  simp only [activation, activation_eq, outcome_ending, final_ending, and_self]

/-! ### An instance -/

/-- A function that gives its argument, by default the variable `0` of the caller, and one
that reads the variable `2` without having bound it. -/
def peekProgram : Program :=
  (Bindings.empty.insert ⟨100⟩ ⟨"copy", [⟨⟨5⟩, some (.get ⟨0⟩)⟩],
    some (.block [.set ⟨1⟩ (.get ⟨5⟩), .ret (some (.get ⟨1⟩))])⟩).insert ⟨101⟩
    ⟨"peek", [], some (.expression (.get ⟨2⟩))⟩

/-- The first function is called and its value is kept, then the second one is called. -/
def peekRoot : Node := .block [.set ⟨3⟩ (.call ⟨100⟩ []), .call ⟨101⟩ []]

theorem not_reads_peekRoot (v : VariableId) : ¬ peekRoot.Reads v := by
  have hcall : ∀ callee, ¬ (Node.call callee []).Reads v := by
    rintro callee (_ | ⟨hp, -⟩)
    cases hp
  rintro (_ | ⟨hp, hread⟩)
  rcases List.mem_pair.1 hp with rfl | rfl
  · cases hread with
    | part hp hread =>
      rw [List.mem_singleton.1 hp] at hread
      exact hcall _ hread
  · exact hcall _ hread

theorem eq_of_defaultReads_peekProgram {v : VariableId} (h : peekProgram.DefaultReads v) :
    v = ⟨0⟩ := by
  obtain ⟨p, ⟨s, d, hd, q, hq, hp⟩, hread⟩ := h
  rw [peekProgram, Bindings.get?_insert, Bindings.get?_insert] at hd
  split at hd
  · cases hd
    cases hq
  · split at hd
    · cases hd
      rw [List.mem_singleton.1 hq] at hp
      cases hp
      cases hread with
      | self => rfl
      | part hp _ => cases hp
    · cases hd

/-- Whether the caller has the variable `2` or not, the function does not find it. -/
theorem evaluate_depends_on_reads_peek :
    let f₁ : Frame := (Bindings.empty.insert ⟨0⟩ (.int 1)).insert ⟨2⟩ (.int 9)
    let f₂ : Frame := Bindings.empty.insert ⟨0⟩ (.int 1)
    let run := fun f => evaluate ⟨⟨20, 10⟩, peekProgram, .reserved⟩ 0 peekRoot ⟨.full 20, f⟩
    (∀ v, peekRoot.Reads v ∨ peekProgram.DefaultReads v → f₁.get? v = f₂.get? v) ∧
      f₁.get? ⟨2⟩ ≠ f₂.get? ⟨2⟩ ∧
      outcome (run f₁) = .error (.failing (.unboundVariable ⟨2⟩)) ∧
      outcome (run f₁) = outcome (run f₂) ∧
      (final (run f₁)).budget = (final (run f₂)).budget ∧
      ∃ δ : Frame, (final (run f₁)).frame = f₁.override δ ∧
        (final (run f₂)).frame = f₂.override δ := by
  intro f₁ f₂ run
  have hagree : ∀ v, peekRoot.Reads v ∨ peekProgram.DefaultReads v → f₁.get? v = f₂.get? v := by
    rintro v (hv | hv)
    · exact absurd hv (not_reads_peekRoot v)
    · rw [eq_of_defaultReads_peekProgram hv]
      decide
  have h := evaluate_depends_on_reads peekProgram .reserved peekRoot hagree ⟨20, 10⟩ 0 (.full 20)
  exact ⟨hagree, by decide, by decide +kernel, h.1, h.2.1, h.2.2.1⟩

end ConstFold
