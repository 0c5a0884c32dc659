/-!
# Least recently used

A bounded dictionary that drops the entry whose last use lies furthest back.  The entries
stand in the order of their last use, latest first.  Looking a key up is a use of it, and so
is giving it a value.
-/

namespace FeatureFlags

/-- Entries in the order of their last use, latest first. -/
structure Lru (κ ν : Type) where
  /-- The largest number of entries. -/
  capacity : Nat
  /-- The entries, the one used last in front. -/
  entries : List (κ × ν)
deriving DecidableEq, Repr

namespace Lru

variable {κ ν : Type}

/-- No entries, and room for as many as the capacity says. -/
def empty (capacity : Nat) : Lru κ ν := ⟨capacity, []⟩

/-- The number of entries. -/
def size (c : Lru κ ν) : Nat := c.entries.length

/-- Whether there is no entry. -/
def isEmpty (c : Lru κ ν) : Bool := c.entries.isEmpty

/-- The same cache without its entries. -/
def clear (c : Lru κ ν) : Lru κ ν := { c with entries := [] }

variable [DecidableEq κ]

/-- The value of a key, without counting as a use of it. -/
def peek? (c : Lru κ ν) (k : κ) : Option ν := (c.entries.find? (·.1 = k)).map Prod.snd

/-- The entries of the other keys. -/
def others (c : Lru κ ν) (k : κ) : List (κ × ν) := c.entries.filter (·.1 ≠ k)

/-- The value of a key, and the cache in which the key was used last. -/
def get (c : Lru κ ν) (k : κ) : Option ν × Lru κ ν :=
  match c.peek? k with
  | none => (none, c)
  | some v => (some v, { c with entries := (k, v) :: c.others k })

theorem fst_get (c : Lru κ ν) (k : κ) : (c.get k).1 = c.peek? k := by
  simp only [get]
  split <;> simp_all

theorem snd_get_of_peek?_eq_none {c : Lru κ ν} {k : κ} (h : c.peek? k = none) :
    (c.get k).2 = c := by
  simp only [get, h]

theorem peek?_get (c : Lru κ ν) (k : κ) : (c.get k).2.peek? k = c.peek? k := by
  simp only [get]
  split
  · rfl
  · next v hv =>
    rw [hv]
    simp [peek?]

theorem mem_entries_of_peek? {c : Lru κ ν} {k : κ} {v : ν} (h : c.peek? k = some v) :
    (k, v) ∈ c.entries := by
  obtain ⟨e, he, rfl⟩ := Option.map_eq_some_iff.1 h
  have hk : e.1 = k := by simpa using List.find?_some he
  exact hk ▸ List.mem_of_find?_eq_some he

theorem not_mem_entries_of_peek?_eq_none {c : Lru κ ν} {k : κ} (h : c.peek? k = none) (v : ν) :
    (k, v) ∉ c.entries := by
  intro hv
  have hk := List.find?_eq_none.1 (Option.map_eq_none_iff.1 h) _ hv
  exact hk (decide_eq_true rfl)

/-- A look-up brings no new entry. -/
theorem mem_entries_of_mem_get {c : Lru κ ν} {k : κ} {e : κ × ν} (h : e ∈ (c.get k).2.entries) :
    e ∈ c.entries := by
  simp only [get] at h
  split at h
  · exact h
  · next hv =>
    rcases List.mem_cons.1 h with rfl | h
    · exact mem_entries_of_peek? hv
    · exact (List.mem_filter.1 h).1

/-- Gives a key a value.  When the cache is full, the entry used least recently goes. -/
def put (c : Lru κ ν) (k : κ) (v : ν) : Lru κ ν :=
  { c with entries := ((k, v) :: c.others k).take c.capacity }

/-- A value that was put is there, unless there is no room at all. -/
theorem peek?_put (c : Lru κ ν) (k : κ) (v : ν) :
    (c.put k v).peek? k = if c.capacity = 0 then none else some v := by
  simp only [put, peek?]
  cases c.capacity with
  | zero => simp
  | succ n => simp

/-- Putting an entry brings no other one. -/
theorem mem_entries_of_mem_put {c : Lru κ ν} {k : κ} {v : ν} {e : κ × ν}
    (h : e ∈ (c.put k v).entries) : e = (k, v) ∨ e ∈ c.entries := by
  rcases List.mem_cons.1 (List.mem_of_mem_take h) with rfl | h
  · exact .inl rfl
  · exact .inr (List.mem_filter.1 h).1

theorem size_put_le (c : Lru κ ν) (k : κ) (v : ν) : (c.put k v).size ≤ c.capacity := by
  simp only [put, size, List.length_take]
  omega

end Lru

end FeatureFlags
