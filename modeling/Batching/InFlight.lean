/-
**The in-flight map.**

The batching task keeps its entries in an `IntMap<u64, Entry>`. A hash map offers no order, so
the model keeps what is observable: the keys, in the order an iteration visits them, and the
value under each key. That the keys are distinct and are exactly the ids with a value is carried
by the structure, so no map of the model breaks it.

* `insert` (also a write through `get_mut`), `remove` and `retain` as the batcher uses them, each
  with its lookup and key lemmas, tagged for `simp`;
* `InFlight.ext`: two maps with the same keys and the same values are equal.
-/

import Mathlib.Data.List.Nodup

namespace Batching

/-- The in-flight map: keys in iteration order, and the value under each id. -/
structure InFlight (α : Type) where
  keys : List Nat
  get : Nat → Option α
  nodup : keys.Nodup
  mem_keys : ∀ id, id ∈ keys ↔ (get id).isSome

namespace InFlight

variable {α : Type} (m : InFlight α)

/-- The empty map. -/
def empty : InFlight α := ⟨[], fun _ => none, List.nodup_nil, by simp⟩

/-- `insert(id, value)`, which replaces the value of a present key in place. -/
def insert (id : Nat) (a : α) : InFlight α where
  keys := if id ∈ m.keys then m.keys else m.keys ++ [id]
  get k := if k = id then some a else m.get k
  nodup := by
    split
    · exact m.nodup
    · exact List.nodup_append.mpr ⟨m.nodup, List.nodup_singleton id, by simpa using ‹_›⟩
  mem_keys k := by
    by_cases h : k = id
    · subst h; split <;> simp_all
    · split <;> simp [h, m.mem_keys]

/-- `remove(&id)`. -/
def remove (id : Nat) : InFlight α where
  keys := m.keys.erase id
  get k := if k = id then none else m.get k
  nodup := m.nodup.erase id
  mem_keys k := by
    rw [m.nodup.mem_erase_iff]
    by_cases h : k = id <;> simp [h, m.mem_keys]

/-- `retain(keep)`: the entries whose id `keep` accepts. -/
def retain (keep : Nat → Bool) : InFlight α where
  keys := m.keys.filter keep
  get k := if keep k then m.get k else none
  nodup := m.nodup.filter keep
  mem_keys k := by
    by_cases h : keep k <;> simp [h, m.mem_keys]

/-- `len()`. -/
def len : Nat := m.keys.length

theorem ext {m m' : InFlight α} (keys : m.keys = m'.keys) (get : ∀ id, m.get id = m'.get id) :
    m = m' := by
  cases m; cases m'
  cases keys
  obtain rfl : _ = _ := funext get
  rfl

theorem mem_keys_of_get {id : Nat} {a : α} (h : m.get id = some a) : id ∈ m.keys :=
  (m.mem_keys id).mpr (by simp [h])

theorem get_eq_none_iff {id : Nat} : m.get id = none ↔ id ∉ m.keys := by
  simp [m.mem_keys]

@[simp] theorem get_empty (id : Nat) : (empty : InFlight α).get id = none := rfl

@[simp] theorem keys_empty : (empty : InFlight α).keys = [] := rfl

@[simp] theorem get_insert (id k : Nat) (a : α) :
    (m.insert id a).get k = if k = id then some a else m.get k := rfl

@[simp] theorem get_remove (id k : Nat) :
    (m.remove id).get k = if k = id then none else m.get k := rfl

@[simp] theorem get_retain (keep : Nat → Bool) (k : Nat) :
    (m.retain keep).get k = if keep k then m.get k else none := rfl

@[simp] theorem keys_remove (id : Nat) : (m.remove id).keys = m.keys.erase id := rfl

@[simp] theorem keys_retain (keep : Nat → Bool) : (m.retain keep).keys = m.keys.filter keep :=
  rfl

theorem keys_insert (id : Nat) (a : α) :
    (m.insert id a).keys = if id ∈ m.keys then m.keys else m.keys ++ [id] := rfl

theorem keys_insert_of_mem {id : Nat} (a : α) (h : id ∈ m.keys) : (m.insert id a).keys = m.keys :=
  if_pos h

end InFlight

end Batching
