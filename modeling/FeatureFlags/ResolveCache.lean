import FeatureFlags.Collection.Lru
import FeatureFlags.Trace

/-!
# The resolve cache

A cache holds the answers of earlier resolutions, each under its canonical key and its chain.
It is a bounded cache that drops the answer used least recently, or a cache that keeps
nothing.  A change of an override empties it.
-/

namespace FeatureFlags

/-- The answer of an earlier resolution. -/
structure CacheEntry where
  /-- The value. -/
  value : Bool
  /-- How it came about. -/
  trace : Trace
deriving DecidableEq, Repr, Inhabited

/-- The answers kept in a bounded cache. -/
abbrev LruResolveCache := Lru (String × Chain) CacheEntry

namespace LruResolveCache

/-- The number of answers a cache holds when no number is asked for. -/
def defaultCapacity : Nat := 1024

/-- The empty cache of a capacity, zero standing for the default one. -/
def ofCapacity (n : Nat) : LruResolveCache := Lru.empty (if n = 0 then defaultCapacity else n)

end LruResolveCache

/-- A cache of answers. -/
inductive ResolveCache where
  /-- Nothing is kept. -/
  | noop
  /-- The answers used last are kept. -/
  | lru (cache : LruResolveCache)
deriving DecidableEq, Repr, Inhabited

namespace ResolveCache

/-- The answers that are kept, each with its key and its chain. -/
def entries : ResolveCache → List ((String × Chain) × CacheEntry)
  | noop => []
  | lru cache => cache.entries

/-- The answer kept for a key and a chain, and the cache after it was used. -/
def get (c : ResolveCache) (key : String) (chain : Chain) : Option CacheEntry × ResolveCache :=
  match c with
  | noop => (none, noop)
  | lru cache =>
    let (entry, cache) := cache.get (key, chain)
    (entry, lru cache)

/-- Keeps an answer for a key and a chain. -/
def put (c : ResolveCache) (key : String) (chain : Chain) (entry : CacheEntry) : ResolveCache :=
  match c with
  | noop => noop
  | lru cache => lru (cache.put (key, chain) entry)

/-- Forgets every answer. -/
def clear : ResolveCache → ResolveCache
  | noop => noop
  | lru cache => lru cache.clear

@[simp] theorem entries_noop : noop.entries = [] := rfl

@[simp] theorem entries_clear (c : ResolveCache) : c.clear.entries = [] := by
  cases c <;> rfl

variable {c : ResolveCache} {key : String} {chain : Chain} {entry : CacheEntry}

theorem mem_entries_of_fst_get (h : (c.get key chain).1 = some entry) :
    ((key, chain), entry) ∈ c.entries := by
  cases c with
  | noop => cases h
  | lru cache => exact Lru.mem_entries_of_peek? ((cache.fst_get _).symm.trans h)

theorem mem_entries_of_mem_get {e : (String × Chain) × CacheEntry}
    (h : e ∈ (c.get key chain).2.entries) : e ∈ c.entries := by
  cases c with
  | noop => exact h
  | lru cache => exact Lru.mem_entries_of_mem_get h

/-- A look-up that is made again finds the same. -/
theorem fst_get_get (c : ResolveCache) (key : String) (chain : Chain) :
    ((c.get key chain).2.get key chain).1 = (c.get key chain).1 := by
  cases c with
  | noop => rfl
  | lru cache =>
    simp only [get, Lru.fst_get]
    exact cache.peek?_get (key, chain)

/-- What is found after an answer was kept is this answer, if anything. -/
theorem eq_of_fst_get_put {entry' : CacheEntry}
    (h : ((c.put key chain entry).get key chain).1 = some entry') : entry' = entry := by
  cases c with
  | noop => cases h
  | lru cache =>
    simp only [put, get, Lru.fst_get, Lru.peek?_put] at h
    split at h
    · cases h
    · exact (Option.some.inj h).symm

/-- A look-up that finds nothing is no use of the cache. -/
theorem snd_get_of_fst_get_eq_none (h : (c.get key chain).1 = none) : (c.get key chain).2 = c := by
  cases c with
  | noop => rfl
  | lru cache =>
    exact congrArg lru (Lru.snd_get_of_peek?_eq_none ((cache.fst_get _).symm.trans h))

/-- A look-up that found nothing leaves nothing behind. -/
theorem not_mem_entries_of_fst_get_eq_none (h : (c.get key chain).1 = none) (entry : CacheEntry) :
    ((key, chain), entry) ∉ (c.get key chain).2.entries := by
  intro he
  have hmem := mem_entries_of_mem_get he
  cases c with
  | noop => cases hmem
  | lru cache =>
    exact Lru.not_mem_entries_of_peek?_eq_none ((cache.fst_get _).symm.trans h) entry hmem

theorem mem_entries_of_mem_put {e : (String × Chain) × CacheEntry}
    (h : e ∈ (c.put key chain entry).entries) : e = ((key, chain), entry) ∨ e ∈ c.entries := by
  cases c with
  | noop => exact .inr h
  | lru cache => exact Lru.mem_entries_of_mem_put h

end ResolveCache

end FeatureFlags
