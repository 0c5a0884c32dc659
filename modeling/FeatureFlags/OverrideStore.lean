import FeatureFlags.Actor
import FeatureFlags.Collection.Dict
import FeatureFlags.Error
import FeatureFlags.Log
import FeatureFlags.OverrideState
import FeatureFlags.Text.Blank

/-!
# The override store

The store keeps one record for each feature key and scope that was written: the state and who
wrote it.  Clearing an override is a write too, and leaves a record of the cleared state.
Only `delete` makes a record go away.

Keys count without blank characters around them, and an empty key cannot be written.  Scopes
are compared field by field.

Two lemmas say what a write and a deletion do to the records: `record?_put` and
`record?_delete`.  Both change the record of one key and one scope and no other.
-/

namespace FeatureFlags

open Text (trim)

/-- What was last written for a feature at a scope. -/
structure OverrideRecord where
  /-- The state. -/
  state : OverrideState
  /-- Who wrote it. -/
  actor : Actor
deriving DecidableEq, Repr, Inhabited

/-- The records of one feature. -/
abbrev ScopeRecords := Dict Scope OverrideRecord

/-- The records of all features. -/
structure OverrideStore where
  /-- The records of each feature that has any. -/
  features : Dict String ScopeRecords
deriving DecidableEq, Inhabited

namespace OverrideStore

/-- The store without records. -/
def empty : OverrideStore := ⟨∅⟩

/-! ## Reading -/

/-- The records of a feature. -/
def scopes (s : OverrideStore) (key : String) : ScopeRecords :=
  (s.features.find? (trim key)).getD ∅

/-- The record of a feature at a scope. -/
def record? (s : OverrideStore) (key : String) (scope : Scope) : Option OverrideRecord :=
  (s.scopes key).find? scope

/-- The state of a feature at a scope. -/
def get (s : OverrideStore) (key : String) (scope : Scope) : OverrideState :=
  (s.record? key scope).elim .missing OverrideRecord.state

/-- The records of a feature in the order of their scopes. -/
def recordsFor (s : OverrideStore) (key : String) : List (Scope × OverrideRecord) :=
  (s.scopes key).entries

/-- What is stored for a feature at the scopes of a chain, in the order of the chain. -/
def getAll (s : OverrideStore) (key : String) (chain : Chain) : List OverrideMatch :=
  chain.filterMap fun scope => (s.record? key scope).map fun r => ⟨scope, r.state⟩

/-- The number of records. -/
def size (s : OverrideStore) : Nat := s.features.values.foldl (fun n d => n + d.size) 0

/-- Whether there is no record. -/
def isEmpty (s : OverrideStore) : Bool := s.size = 0

/-! ## Writing -/

/-- The store in which a feature has the given record at a scope. -/
def put (s : OverrideStore) (key : String) (scope : Scope) (r : OverrideRecord) : OverrideStore :=
  ⟨s.features.insert (trim key) ((s.scopes key).insert scope r)⟩

/-- Writes a value, or clears the override when there is none. -/
def write (s : OverrideStore) (key : String) (scope : Scope) (value : Option Bool)
    (actor : Actor) : Except Error OverrideStore :=
  if trim key = "" then .error (.ofCode .featureKeyRequired)
  else .ok (s.put key scope ⟨.ofWrite value, actor⟩)

/-- The line of the log about a write that went through. -/
def writeRecord (key : String) (scope : Scope) (value : Option Bool) : LogRecord where
  level := .debug
  message := "storing override"
  fields := [("key", trim key), ("scope", scope.display),
    ("state", (OverrideState.ofWrite value).name)]

/-- Removes a record, and says whether there was one. -/
def delete (s : OverrideStore) (key : String) (scope : Scope) : Bool × OverrideStore :=
  match s.features.find? (trim key) with
  | none => (false, s)
  | some scopes =>
    let rest := scopes.erase scope
    (scopes.contains scope,
      ⟨if rest.isEmpty then s.features.erase (trim key) else s.features.insert (trim key) rest⟩)

/-- The store without records. -/
def clear (_ : OverrideStore) : OverrideStore := empty

/-! ## What `record?` gives -/

@[simp] theorem record?_empty (key : String) (scope : Scope) : empty.record? key scope = none := rfl

theorem scopes_put (s : OverrideStore) (key k : String) (scope : Scope) (r : OverrideRecord) :
    (s.put key scope r).scopes k =
      if trim key = trim k then (s.scopes k).insert scope r else s.scopes k := by
  simp only [scopes, put, Dict.find?_insert]
  split
  · next h => simp [h]
  · rfl

theorem record?_put (s : OverrideStore) (key k : String) (scope p : Scope) (r : OverrideRecord) :
    (s.put key scope r).record? k p =
      if trim key = trim k ∧ scope = p then some r else s.record? k p := by
  simp only [record?, scopes_put]
  by_cases hk : trim key = trim k
  · simp [hk, Dict.find?_insert]
  · simp [hk]

theorem fst_delete (s : OverrideStore) (key : String) (scope : Scope) :
    (s.delete key scope).1 = (s.record? key scope).isSome := by
  simp only [delete, record?, scopes]
  split
  · next h => simp [h]
  · next h => simp [h, Dict.contains]

theorem scopes_delete (s : OverrideStore) (key k : String) (scope : Scope) :
    (s.delete key scope).2.scopes k =
      if trim key = trim k then (s.scopes k).erase scope else s.scopes k := by
  simp only [delete]
  split
  · next h =>
    split
    · next hk => simp [scopes, ← hk, h]; rfl
    · rfl
  · next d h =>
    simp only [scopes]
    split
    · next he =>
      rw [Dict.find?_erase]
      split
      · next hk => simp [← hk, h, Dict.eq_empty_of_isEmpty he]
      · rfl
    · rw [Dict.find?_insert]
      split
      · next hk => simp [← hk, h]
      · rfl

theorem record?_delete (s : OverrideStore) (key k : String) (scope p : Scope) :
    (s.delete key scope).2.record? k p =
      if trim key = trim k ∧ scope = p then none else s.record? k p := by
  simp only [record?, scopes_delete]
  by_cases hk : trim key = trim k
  · simp [hk, Dict.find?_erase]
  · simp [hk]

/-! ## What `getAll` gives -/

variable {s s' : OverrideStore} {key : String} {chain : Chain} {p : Scope} {m : OverrideMatch}

theorem mem_getAll :
    m ∈ s.getAll key chain ↔
      m.scope ∈ chain ∧ ∃ r, s.record? key m.scope = some r ∧ m.state = r.state := by
  obtain ⟨scope, state⟩ := m
  simp only [getAll, List.mem_filterMap, Option.map_eq_some_iff, OverrideMatch.mk.injEq]
  constructor
  · rintro ⟨p, hp, r, hr, rfl, rfl⟩
    exact ⟨hp, r, hr, rfl⟩
  · rintro ⟨hp, r, hr, rfl⟩
    exact ⟨scope, hp, r, hr, rfl, rfl⟩

theorem get_eq_of_mem_getAll (h : m ∈ s.getAll key chain) : s.get key m.scope = m.state := by
  obtain ⟨-, r, hr, hstate⟩ := mem_getAll.1 h
  rw [get, hr, hstate]
  rfl

theorem exists_record_of_hasValue (h : (s.get key p).hasValue = true) :
    ∃ r, s.record? key p = some r ∧ r.state = s.get key p := by
  unfold get at h ⊢
  cases hr : s.record? key p with
  | none =>
    rw [hr] at h
    cases h
  | some r => exact ⟨r, rfl, rfl⟩

theorem mem_getAll_of_hasValue (hp : p ∈ chain) (h : (s.get key p).hasValue = true) :
    ⟨p, s.get key p⟩ ∈ s.getAll key chain := by
  obtain ⟨r, hr, hstate⟩ := exists_record_of_hasValue h
  exact mem_getAll.2 ⟨hp, r, hr, hstate.symm⟩

theorem getAll_append (s : OverrideStore) (key : String) (chain rest : Chain) :
    s.getAll key (chain ++ rest) = s.getAll key chain ++ s.getAll key rest :=
  List.filterMap_append

theorem getAll_cons_of_hasValue (h : (s.get key p).hasValue = true) :
    s.getAll key (p :: chain) = ⟨p, s.get key p⟩ :: s.getAll key chain := by
  obtain ⟨r, hr, hstate⟩ := exists_record_of_hasValue h
  rw [← hstate]
  exact List.filterMap_cons_some (by rw [hr]; rfl)

/-- What is found in a chain depends on the records at its scopes only. -/
theorem getAll_congr (h : ∀ p ∈ chain, s'.record? key p = s.record? key p) :
    s'.getAll key chain = s.getAll key chain := by
  induction chain with
  | nil => rfl
  | cons p rest ih =>
    obtain ⟨hp, hrest⟩ := List.forall_mem_cons.1 h
    have hfound := ih hrest
    unfold getAll at hfound ⊢
    rw [List.filterMap_cons, List.filterMap_cons, hp, hfound]

end OverrideStore

end FeatureFlags
