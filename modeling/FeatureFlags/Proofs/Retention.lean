import FeatureFlags.Proofs.Collections
import FeatureFlags.ResolveCache

/-!
# What a bounded cache retains

What is found in a cache can be told from its past alone, without a look at its entries.  A key is
touched when it is given a value, and when it is looked up and found.  A key is found exactly when
it was given a value since the cache was cleared, and fewer different keys than there is room for
were touched after it was touched last.  Then the value is the one it was given last.

The invariant is that the keys of the entries are the first of the different keys that were
touched, the latest first, as far as there is room (`Retains`).  Each request keeps it
(`Retains.step`), and so do any number of requests (`retains_run`).
-/

namespace FeatureFlags

namespace Lru

variable {κ ν : Type}

/-! ## The past of a cache -/

/-- What is asked of a cache. -/
inductive Request (κ ν : Type) where
  /-- To give a key a value. -/
  | put (k : κ) (v : ν)
  /-- To look a key up. -/
  | get (k : κ)
  /-- To forget every entry. -/
  | clear

/-- What happened to a cache. -/
inductive Event (κ ν : Type) where
  /-- A key was given a value. -/
  | put (k : κ) (v : ν)
  /-- A key was looked up and found. -/
  | hit (k : κ)
  /-- A key was looked up and not found. -/
  | miss (k : κ)
  /-- Every entry was forgotten. -/
  | clear

namespace Event

/-- The key that was touched, if one was. -/
def touched? : Event κ ν → Option κ
  | put k _ | hit k => some k
  | miss _ | clear => none

/-- The key that was given a value, with this value. -/
def assigned? : Event κ ν → Option (κ × ν)
  | put k v => some (k, v)
  | hit _ | miss _ | clear => none

/-- Whether every entry was forgotten. -/
def isClear : Event κ ν → Bool
  | clear => true
  | put _ _ | hit _ | miss _ => false

end Event

/-- What happened since the cache was cleared, the latest first. -/
def sinceClear (past : List (Event κ ν)) : List (Event κ ν) := past.takeWhile fun e => !e.isClear

/-- The keys that were touched since the cache was cleared, the latest first. -/
def touches (past : List (Event κ ν)) : List κ := (sinceClear past).filterMap Event.touched?

/-- The values that were given since the cache was cleared, each with its key, the latest first. -/
def assignments (past : List (Event κ ν)) : List (κ × ν) :=
  (sinceClear past).filterMap Event.assigned?

/-- A key that was given a value was touched. -/
theorem fst_mem_touches {past : List (Event κ ν)} {e : κ × ν} (h : e ∈ assignments past) :
    e.1 ∈ touches past := by
  obtain ⟨event, hevent, he⟩ := List.mem_filterMap.1 h
  refine List.mem_filterMap.2 ⟨event, hevent, ?_⟩
  cases event with
  | put k v => rw [← Option.some.inj he, Event.touched?]
  | hit k => cases he
  | miss k => cases he
  | clear => cases he

variable [DecidableEq κ]

/-- The other keys that were touched after a key was touched last. -/
def touchedAfter (past : List (Event κ ν)) (k : κ) : Finset κ :=
  ((touches past).takeWhile (· ≠ k)).toFinset

/-- The keys that were given a value since the cache was cleared. -/
def assignedKeys (past : List (Event κ ν)) : Finset κ := ((assignments past).map Prod.fst).toFinset

/-- The value that a key was given last since the cache was cleared. -/
def lastAssigned? (past : List (Event κ ν)) (k : κ) : Option ν :=
  (assignments past).lookup k

/-- A cache with its past, the latest event first. -/
structure History (κ ν : Type) where
  /-- The cache. -/
  cache : Lru κ ν
  /-- What happened to it. -/
  past : List (Event κ ν)

/-- The cache and its past after one more request. -/
def History.step (h : History κ ν) : Request κ ν → History κ ν
  | .put k v => ⟨h.cache.put k v, .put k v :: h.past⟩
  | .get k =>
    match h.cache.get k with
    | (some _, cache) => ⟨cache, .hit k :: h.past⟩
    | (none, cache) => ⟨cache, .miss k :: h.past⟩
  | .clear => ⟨h.cache.clear, .clear :: h.past⟩

/-- A cache after some requests in their order, with what happened to it. -/
def run (c : Lru κ ν) (requests : List (Request κ ν)) : History κ ν :=
  requests.foldl History.step ⟨c, []⟩

/-! ## Room for the latest keys -/

section Room

variable {l : List κ} {k : κ} {n : Nat}

/-- Without repetition, an element may be dropped before or after a list is cut off, if one place
less is left in the end. -/
theorem take_filter_take (h : l.Nodup) (k : κ) (n : Nat) :
    ((l.take (n + 1)).filter (· ≠ k)).take n = (l.filter (· ≠ k)).take n := by
  induction l generalizing n with
  | nil => rfl
  | cons a rest ih =>
    obtain ⟨ha, hrest⟩ := List.nodup_cons.1 h
    rw [List.take_succ_cons]
    by_cases hk : a = k
    · subst hk
      have hself {l : List κ} (hl : l ⊆ rest) : l.filter (· ≠ a) = l := by
        refine List.filter_eq_self.2 fun b hb => decide_eq_true ?_
        rintro rfl
        exact ha (hl hb)
      rw [List.filter_cons_of_neg (by simp), List.filter_cons_of_neg (by simp),
        hself (List.take_subset n rest), hself (List.Subset.refl rest), List.take_take,
        Nat.min_self]
    · rw [List.filter_cons_of_pos (by simpa using hk), List.filter_cons_of_pos (by simpa using hk)]
      cases n with
      | zero => rfl
      | succ n => rw [List.take_succ_cons, List.take_succ_cons, ih hrest]

/-- A key comes to the front, and the last one goes if there is no room. -/
theorem take_cons_filter_take (h : l.Nodup) (k : κ) (n : Nat) :
    (k :: (l.take n).filter (· ≠ k)).take n = (k :: l.filter (· ≠ k)).take n := by
  cases n with
  | zero => rfl
  | succ n => rw [List.take_succ_cons, List.take_succ_cons, take_filter_take h]

/-- A key that has a place comes to the front, and all the others stay. -/
theorem cons_filter_take_of_mem (h : l.Nodup) (hk : k ∈ l.take n) :
    k :: (l.take n).filter (· ≠ k) = (k :: l.filter (· ≠ k)).take n := by
  have hlt : ((l.take n).filter (· ≠ k)).length < (l.take n).length :=
    List.length_filter_lt_length_iff_exists.2 ⟨k, hk, by simp⟩
  have hle : (k :: (l.take n).filter (· ≠ k)).length ≤ n := by
    rw [List.length_take] at hlt
    rw [List.length_cons]
    omega
  rw [← take_cons_filter_take h, List.take_of_length_le hle]

end Room

/-! ## The invariant -/

/-- The cache has the keys that were touched last, each with the value it was given last. -/
structure Retains (n : Nat) (h : History κ ν) : Prop where
  /-- There is as much room as at the start. -/
  capacity : h.cache.capacity = n
  /-- The keys are the latest different ones that there is room for. -/
  keys : h.cache.entries.map Prod.fst = (touches h.past).eraseDups.take n
  /-- A key has the value it was given last. -/
  values {k : κ} {v : ν} : (k, v) ∈ h.cache.entries → lastAssigned? h.past k = some v
  /-- A key was given a value before it was found. -/
  assigned {k : κ} : k ∈ touches h.past → k ∈ (assignments h.past).map Prod.fst

variable {n : Nat} {h : History κ ν} {k : κ} {v : ν}

theorem retains_empty (n : Nat) : Retains n (⟨empty n, []⟩ : History κ ν) where
  capacity := rfl
  keys := List.take_nil.symm
  values h := nomatch h
  assigned h := nomatch h

theorem map_fst_others (c : Lru κ ν) (k : κ) :
    (c.others k).map Prod.fst = (c.entries.map Prod.fst).filter (· ≠ k) := by
  rw [others, List.filter_map]
  rfl

theorem mem_others {c : Lru κ ν} {a : κ} : (a, v) ∈ c.others k ↔ (a, v) ∈ c.entries ∧ a ≠ k := by
  rw [others, List.mem_filter, decide_eq_true_iff]

theorem step_get_of_hit (hk : h.cache.peek? k = some v) :
    h.step (.get k) =
      ⟨{ h.cache with entries := (k, v) :: h.cache.others k }, .hit k :: h.past⟩ := by
  simp only [History.step, get, hk]

theorem step_get_of_miss (hk : h.cache.peek? k = none) :
    h.step (.get k) = ⟨h.cache, .miss k :: h.past⟩ := by
  simp only [History.step, get, hk]

namespace Retains

theorem mem_touches (hr : Retains n h) (hk : (k, v) ∈ h.cache.entries) : k ∈ touches h.past := by
  have hkey : k ∈ h.cache.entries.map Prod.fst := List.mem_map_of_mem hk
  rw [hr.keys] at hkey
  exact List.mem_eraseDups.1 (List.mem_of_mem_take hkey)

/-- A value that is set comes to the front, and the key that was touched least recently may go. -/
theorem put (hr : Retains n h) (k : κ) (v : ν) : Retains n (h.step (.put k v)) where
  capacity := hr.capacity
  keys := by
    show (((k, v) :: h.cache.others k).take h.cache.capacity).map Prod.fst =
      (k :: touches h.past).eraseDups.take n
    rw [hr.capacity, List.map_take, List.map_cons, map_fst_others, hr.keys, eraseDups_cons,
      take_cons_filter_take (nodup_eraseDups _)]
  values {a w} hmem := by
    have hlast : lastAssigned? (h.step (.put k v)).past a =
        if k = a then some v else lastAssigned? h.past a := Dict.lookup_cons a k v _
    rw [hlast]
    rcases List.mem_cons.1 (List.mem_of_mem_take hmem) with heq | hmem
    · obtain ⟨rfl, rfl⟩ := Prod.mk.inj heq
      rw [if_pos rfl]
    · obtain ⟨hmem, hne⟩ := mem_others.1 hmem
      rw [if_neg (Ne.symm hne)]
      exact hr.values hmem
  assigned {a} hmem := by
    show a ∈ k :: (assignments h.past).map Prod.fst
    rcases List.mem_cons.1 hmem with rfl | hmem
    · exact List.mem_cons_self
    · exact List.mem_cons_of_mem k (hr.assigned hmem)

/-- A key that is found comes to the front with its value. -/
theorem hit (hr : Retains n h) (hk : h.cache.peek? k = some v) :
    Retains n (h.step (.get k)) := by
  have hentry : (k, v) ∈ h.cache.entries := mem_entries_of_peek? hk
  have hplace : k ∈ (touches h.past).eraseDups.take n :=
    hr.keys ▸ List.mem_map_of_mem hentry
  rw [step_get_of_hit hk]
  refine ⟨hr.capacity, ?_, fun {a w} hmem => ?_, fun {a} hmem => ?_⟩
  · show k :: (h.cache.others k).map Prod.fst = (k :: touches h.past).eraseDups.take n
    rw [map_fst_others, hr.keys, eraseDups_cons,
      cons_filter_take_of_mem (nodup_eraseDups _) hplace]
  · rcases List.mem_cons.1 hmem with heq | hmem
    · obtain ⟨rfl, rfl⟩ := Prod.mk.inj heq
      exact hr.values hentry
    · exact hr.values (mem_others.1 hmem).1
  · rcases List.mem_cons.1 hmem with rfl | hmem
    · exact hr.assigned (hr.mem_touches hentry)
    · exact hr.assigned hmem

/-- A key that is not found changes nothing. -/
theorem miss (hr : Retains n h) (hk : h.cache.peek? k = none) :
    Retains n (h.step (.get k)) := by
  rw [step_get_of_miss hk]
  exact ⟨hr.capacity, hr.keys, hr.values, hr.assigned⟩

theorem clear (hr : Retains n h) : Retains n (h.step .clear) where
  capacity := hr.capacity
  keys := List.take_nil.symm
  values hmem := nomatch hmem
  assigned hmem := nomatch hmem

theorem step (hr : Retains n h) (q : Request κ ν) : Retains n (h.step q) := by
  cases q with
  | put k v => exact hr.put k v
  | get k =>
    cases hk : h.cache.peek? k with
    | none => exact hr.miss hk
    | some v => exact hr.hit hk
  | clear => exact hr.clear

end Retains

/-- The cache holds the keys touched last after every run, by induction on its requests. -/
theorem retains_run (n : Nat) (requests : List (Request κ ν)) :
    Retains n ((empty n).run requests) := by
  suffices h : ∀ h : History κ ν, Retains n h → Retains n (requests.foldl History.step h) from
    h _ (retains_empty n)
  induction requests with
  | nil => exact fun h hr => hr
  | cons q rest ih => exact fun h hr => ih _ (hr.step q)

/-! ## What is found -/

theorem mem_touches_of_lastAssigned? {past : List (Event κ ν)} (h : lastAssigned? past k = some v) :
    k ∈ touches past :=
  fst_mem_touches (Dict.mem_of_lookup h)

namespace Retains

/-- A key is found exactly when it has a place among the keys that were touched last. -/
theorem peek?_eq_some_iff (hr : Retains n h) :
    h.cache.peek? k = some v ↔
      lastAssigned? h.past k = some v ∧ (touchedAfter h.past k).card < n := by
  have hplace (htouched : k ∈ touches h.past) :
      k ∈ h.cache.entries.map Prod.fst ↔ (touchedAfter h.past k).card < n := by
    rw [hr.keys, mem_take_eraseDups_iff htouched, touchedAfter]
  constructor
  · intro hk
    have hentry : (k, v) ∈ h.cache.entries := mem_entries_of_peek? hk
    exact ⟨hr.values hentry, (hplace (hr.mem_touches hentry)).1 (List.mem_map_of_mem hentry)⟩
  · rintro ⟨hlast, hroom⟩
    have hkey := (hplace (mem_touches_of_lastAssigned? hlast)).2 hroom
    obtain ⟨⟨_, w⟩, hentry, rfl⟩ := List.mem_map.1 hkey
    cases hk : h.cache.peek? _ with
    | none => exact absurd hentry (not_mem_entries_of_peek?_eq_none hk w)
    | some w' => rw [← hlast, hr.values (mem_entries_of_peek? hk)]

theorem size_eq (hr : Retains n h) : h.cache.size = min n (assignedKeys h.past).card := by
  have hkeys : (touches h.past).toFinset = assignedKeys h.past := by
    ext k
    rw [assignedKeys, List.mem_toFinset, List.mem_toFinset]
    refine ⟨hr.assigned, fun hk => ?_⟩
    obtain ⟨e, he, rfl⟩ := List.mem_map.1 hk
    exact fst_mem_touches he
  calc
    h.cache.size = (h.cache.entries.map Prod.fst).length := (List.length_map _).symm
    _ = min n (touches h.past).eraseDups.length := by rw [hr.keys, List.length_take]
    _ = min n (assignedKeys h.past).card := by rw [length_eraseDups, hkeys]

end Retains

/-- A look-up that finds its key counts as a use of it, one that does not counts for nothing. -/
example :
    let h := (empty 2 : Lru Nat Bool).run [.put 1 true, .put 2 false, .get 3, .get 1, .put 4 true]
    (h.cache.peek? 1, h.cache.peek? 2, touches h.past) = (some true, none, [4, 1, 2, 1]) := by
  decide

end Lru

namespace LruResolveCache

open Lru

/-- An answer is found in a cache exactly when it was kept since the cache was cleared, and fewer
other questions than there is room for were touched after this one was touched last.  It is the
answer that was kept last.  The cache is full, or has an answer to every question that one was kept
for since it was cleared. -/
theorem found_iff_recent (n : Nat) (requests : List (Lru.Request (String × Chain) CacheEntry)) :
    let room := if n = 0 then 1024 else n
    let h := (ofCapacity n).run requests
    (∀ key chain entry, (h.cache.get (key, chain)).1 = some entry ↔
      lastAssigned? h.past (key, chain) = some entry ∧
        (touchedAfter h.past (key, chain)).card < room) ∧
    h.cache.size = min room (assignedKeys h.past).card := by
  intro room h
  have hr : Retains room h := retains_run room requests
  refine ⟨fun key chain entry => ?_, hr.size_eq⟩
  rw [fst_get]
  exact hr.peek?_eq_some_iff

end LruResolveCache

end FeatureFlags
