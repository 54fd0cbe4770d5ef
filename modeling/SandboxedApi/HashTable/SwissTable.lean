import SandboxedApi.Lists

/-! # The room of a swiss table

`absl::flat_hash_map` keeps its entries in `capacity` slots, a power of two less one, with a
control byte each, and counts in `growth_left` how many more entries fit before it must rehash.
An `emplace` of a new key into a table with no room left first grows it to
`NextCapacity(capacity) = 2 * capacity + 1` slots, which moves every entry: every iterator into
the table is invalid after it. An `erase` turns its slot empty, and gives the room back, when
the `kWidth` control bytes around the slot hold an empty one; in a table of fewer than `kWidth`
slots they always do, and no slot is ever left a tombstone. In a larger table the answer depends
on where the hashes put the entries, which the model does not follow: there `erase` has no
result.

The entries are a list read as a map (`ListMap`): an `emplace` of a new key puts it last. The
order in which a loop over the table meets them is fixed by the hashes and not followed: it is
an `IterationOrder`, some permutation of the entries in the order they went in.
-/
namespace SwissTable

/-- The control bytes a probe reads at once (SSE2). -/
def kWidth : Nat := 16

def nextCapacity (capacity : Nat) : Nat := 2 * capacity + 1

/-- `CapacityToGrowth`: a table takes seven entries in eight slots. -/
def capacityToGrowth (capacity : Nat) : Nat := capacity - capacity / 8

/-- The order a range-for over a hash table visits its elements in, as a function of the order
they were inserted in. -/
structure IterationOrder (α : Type) where
  order : List α → List α
  perm : ∀ l, (order l).Perm l

structure Table (κ ν : Type) where
  entries : List (κ × ν)
  capacity : Nat
  growthLeft : Nat

namespace Table

variable {κ ν : Type}

def empty : Table κ ν := ⟨[],0,0⟩

@[simp] theorem capacity_empty : (empty : Table κ ν).capacity = 0 := rfl

@[simp] theorem growthLeft_empty : (empty : Table κ ν).growthLeft = 0 := rfl

variable [BEq κ]

def find? (t : Table κ ν) (k : κ) : Option ν := t.entries.lookup k

/-- `emplace(k, v)`, and whether it rehashed the table. -/
def emplace (t : Table κ ν) (k : κ) (v : ν) : Table κ ν × Bool :=
  if (t.find? k).isSome then (t,false)
  else if t.growthLeft = 0 then
    (⟨t.entries ++ [(k,v)],nextCapacity t.capacity,
      capacityToGrowth (nextCapacity t.capacity) - (t.entries.length + 1)⟩,true)
  else (⟨t.entries ++ [(k,v)],t.capacity,t.growthLeft - 1⟩,false)

/-- `erase(k)`; `none` in a table of `kWidth` slots or more, where whether the slot is left a
tombstone depends on the hashes. -/
def erase (t : Table κ ν) (k : κ) : Option (Table κ ν) :=
  if (t.find? k).isSome then
    if t.capacity < kWidth then some ⟨t.entries.filter fun e => e.1 != k,t.capacity,t.growthLeft + 1⟩
    else none
  else some t

@[simp] theorem find?_empty (k : κ) : (empty : Table κ ν).find? k = none := rfl

section Room

variable {t : Table κ ν} {k : κ} {v : ν}

theorem entries_emplace : (t.emplace k v).1.entries = ListMap.insertIfAbsent k v t.entries := by
  unfold emplace ListMap.insertIfAbsent find?
  split_ifs <;> rfl

/-- An `emplace` into a table with room keeps its slots and takes one place of the room, or none
for a key that is there. -/
theorem emplace_of_room (h : 0 < t.growthLeft) :
    (t.emplace k v).2 = false ∧ (t.emplace k v).1.capacity = t.capacity ∧
      t.growthLeft ≤ (t.emplace k v).1.growthLeft + 1 := by
  unfold emplace
  split_ifs with hk hg
  · simp
  · omega
  · simp only [true_and]
    omega

/-- In a table of fewer than `kWidth` slots, an `erase` has a result, keeps the slots and gives
back the room of an entry it removes. -/
theorem erase_of_small (h : t.capacity < kWidth) :
    ∃ t', t.erase k = some t' ∧ t'.capacity = t.capacity ∧ t.growthLeft ≤ t'.growthLeft ∧
      ((t.find? k).isSome → t'.growthLeft = t.growthLeft + 1) := by
  unfold erase
  split_ifs with hk
  · exact ⟨_,rfl,rfl,Nat.le_succ _,fun _ => rfl⟩
  · exact ⟨t,rfl,rfl,Nat.le_refl _,fun h' => absurd h' hk⟩

end Room

section Lawful

variable [LawfulBEq κ] {t : Table κ ν} {k : κ}

theorem find?_emplace (v : ν) (n : κ) :
    (t.emplace k v).1.find? n = if n == k then some ((t.find? k).getD v) else t.find? n := by
  rw [find?,entries_emplace,ListMap.lookup_insertIfAbsent_eq_ite]
  rfl

theorem find?_erase {t' : Table κ ν} (h : t.erase k = some t') (n : κ) :
    t'.find? n = if n == k then none else t.find? n := by
  unfold erase at h
  split_ifs at h with hk hw
  · cases h
    exact ListMap.lookup_filter_ne t.entries k n
  · cases h
    by_cases hn : n = k
    · subst hn
      simpa using hk
    · simp [hn]


end Lawful

end Table

end SwissTable
