import FeatureFlags.Gate.Update
import FeatureFlags.Proofs.LegacyKeys

/-!
# What a change leaves in the store

A gate that writes to the store either refuses a change, and then nothing happens, or writes
one record under the canonical key and all its legacy keys, at one scope.  No write of these
fails, since none of the keys is empty.

`record?_update` says it in one equation: the record of any key at any scope after a change.
-/

namespace FeatureFlags

open Text (trim)

variable {g : Gate} {store : OverrideStore} {key k : String} {scope p : Scope}

namespace Gate

/-! ## Records of a change -/

/-- The record that a change leaves behind. -/
def Change.record (c : Change) : OverrideRecord := ⟨.ofWrite c.value, c.actor⟩

/-- The store after a change is written under some keys. -/
def Change.putUnder (c : Change) (store : OverrideStore) (keys : List String) : OverrideStore :=
  keys.foldl (fun s k => s.put k c.scope c.record) store

/-- A change sets the records of its keys at its scope, and no others. -/
theorem Change.record?_putUnder (c : Change) (store : OverrideStore) (keys : List String)
    (k : String) (p : Scope) :
    (c.putUnder store keys).record? k p =
      if trim k ∈ keys.map trim ∧ c.scope = p then some c.record else store.record? k p := by
  induction keys generalizing store with
  | nil => simp [putUnder]
  | cons key rest ih =>
    rw [putUnder, List.foldl_cons, ← putUnder, ih, OverrideStore.record?_put]
    simp only [List.map_cons, List.mem_cons]
    by_cases hp : c.scope = p
    · by_cases hrest : trim k ∈ rest.map trim
      · simp [hp, hrest]
      · simp [hp, hrest, eq_comm]
    · simp [hp]

/-! ## Writes that go through -/

theorem value_writeKey (writer : OverrideWriter) (store : OverrideStore) (c : Change)
    (key : String) :
    (writeKey writer store c key).value = writer.write store key c.scope c.value c.actor := by
  simp only [writeKey, Observed.value_bind]
  cases writer.write store key c.scope c.value c.actor <;> rfl

/-- The store takes every key but an empty one. -/
theorem value_writeKey_ofStore (c : Change) (store : OverrideStore) (hkey : trim key ≠ "") :
    (writeKey .ofStore store c key).value = .ok (store.put key c.scope c.record) := by
  simp only [value_writeKey, OverrideWriter.ofStore, OverrideStore.write, hkey, if_false]
  rfl

/-- In the store all legacy keys are written, and no write fails. -/
theorem value_writeAliases_ofStore (c : Change) (store : OverrideStore) {keys : List String}
    (hkeys : ∀ k ∈ keys, trim k ≠ "") :
    (writeAliases .ofStore c store keys).value = (c.putUnder store keys, none) := by
  induction keys generalizing store with
  | nil => rfl
  | cons key rest ih =>
    obtain ⟨hkey, hrest⟩ := List.forall_mem_cons.1 hkeys
    simp only [writeAliases, Observed.value_bind, value_writeKey_ofStore c store hkey]
    exact ih _ hrest

/-! ## Changes -/

/-- The change that an update asks for. -/
def changeFor (g : Gate) (key : String) (scope : Scope) (value : Option Bool) (actor : Actor) :
    Change :=
  ⟨g.aliases.normalize key, g.policy.normalizeScope scope, value, actor⟩

/-- The keys that a change of a key writes, the canonical one first. -/
def writtenKeys (g : Gate) (key : String) : List String :=
  g.aliases.normalize key :: g.aliases.aliasesFor (g.aliases.normalize key)

/-- Whether a change of a key at a scope has everything it needs. -/
def Accepts (g : Gate) (key : String) (scope : Scope) : Prop :=
  trim key ≠ "" ∧ (g.policy.normalizeScope scope).hasRequiredIds = true

instance : Decidable (g.Accepts key scope) := inferInstanceAs (Decidable (_ ∧ _))

/-- A change that has a key writes under no empty key. -/
theorem trim_ne_empty_of_mem_writtenKeys (hkey : trim key ≠ "") (hk : k ∈ g.writtenKeys key) :
    trim k ≠ "" := by
  have haliases := g.consistent_aliases
  rcases List.mem_cons.1 hk with rfl | hk
  · rw [haliases.trim_normalize, Ne, haliases.normalize_eq_empty_iff]
    exact hkey
  · exact haliases.trim_ne_empty_of_mem_aliasesFor hk

/-- With a key, an identifier and a writer, a change goes ahead. -/
theorem prepare_of_accepts {writer : OverrideWriter}
    (hwriter : g.collaborators.writer = some writer) (h : g.Accepts key scope)
    (value : Option Bool) (actor : Actor) :
    g.prepare key scope value actor = .ok (g.changeFor key scope value actor, writer) := by
  simp only [prepare, normalize_ne_empty h.1, h.2, hwriter, if_false, Bool.not_true,
    Bool.false_eq_true]
  rfl

/-- The place of the errors of a change whose scope is known. -/
def scopePlace (g : Gate) (key : String) (scope : Scope) (value : Option Bool) : ErrorMeta :=
  { g.updatePlace key value with scope := some (g.policy.normalizeScope scope) }

/-- A change without a key is refused, whatever else it lacks. -/
theorem prepare_of_empty (hkey : g.aliases.normalize key = "") (scope : Scope)
    (value : Option Bool) (actor : Actor) :
    g.prepare key scope value actor =
      .error (.ofCode .featureKeyRequired (g.updatePlace key value)) :=
  if_pos hkey

/-- With a key, a scope without its identifier is what the change is refused for. -/
theorem prepare_of_incomplete (hkey : g.aliases.normalize key ≠ "")
    (hids : (g.policy.normalizeScope scope).hasRequiredIds = false) (value : Option Bool)
    (actor : Actor) :
    g.prepare key scope value actor =
      .error (.withText .scopeRequired
        ((g.policy.normalizeScope scope).kind.name ++ " scope requires an identifier")
        (g.scopePlace key scope value)) := by
  simp only [prepare, hkey, hids, if_false, Bool.not_false, if_true]
  rfl

/-- With a key and an identifier, a missing writer is what the change is refused for. -/
theorem prepare_of_no_writer (hkey : g.aliases.normalize key ≠ "")
    (hids : (g.policy.normalizeScope scope).hasRequiredIds = true)
    (hwriter : g.collaborators.writer = none) (value : Option Bool) (actor : Actor) :
    g.prepare key scope value actor =
      .error (.ofCode .overrideStoreRequired (g.scopePlace key scope value)) := by
  simp only [prepare, hkey, hids, hwriter, if_false, Bool.not_true, Bool.false_eq_true]
  rfl

theorem prepare_of_not_accepts (h : ¬ g.Accepts key scope) (value : Option Bool) (actor : Actor) :
    ∃ e, g.prepare key scope value actor = .error e := by
  by_cases hkey : g.aliases.normalize key = ""
  · exact ⟨_, prepare_of_empty hkey scope value actor⟩
  · have hids : (g.policy.normalizeScope scope).hasRequiredIds = false := by
      rw [← Bool.not_eq_true]
      intro hids
      exact h ⟨fun htrim => hkey ((g.consistent_aliases.normalize_eq_empty_iff key).2 htrim), hids⟩
    exact ⟨_, prepare_of_incomplete hkey hids value actor⟩

/-- Nothing happens when something is missing. -/
theorem update_of_prepare_error {value : Option Bool} {actor : Actor} {e : Error}
    (h : g.prepare key scope value actor = .error e) (s : GateState) :
    g.update s key scope value actor = ⟨(.error e, s), []⟩ := by
  simp only [update, h]
  rfl

/-- A change that is refused leaves everything as it was. -/
theorem value_update_of_not_accepts (h : ¬ g.Accepts key scope) (value : Option Bool)
    (actor : Actor) : ∃ e, ∀ s, (g.update s key scope value actor).value = (.error e, s) := by
  obtain ⟨e, he⟩ := prepare_of_not_accepts h value actor
  exact ⟨e, fun s => congrArg Observed.value (update_of_prepare_error he s)⟩

/-- A change that has everything it needs is written under all its keys and empties the cache. -/
theorem value_update_of_accepts (hwriter : g.collaborators.writer = some .ofStore)
    (h : g.Accepts key scope) (s : GateState) (value : Option Bool) (actor : Actor) :
    (g.update s key scope value actor).value =
      (.ok (), ⟨(g.changeFor key scope value actor).putUnder s.store (g.writtenKeys key),
        s.cache.clear⟩) := by
  have hkeys : ∀ k ∈ g.writtenKeys key, trim k ≠ "" :=
    fun k hk => trim_ne_empty_of_mem_writtenKeys h.1 hk
  obtain ⟨hkey, haliases⟩ := List.forall_mem_cons.1 hkeys
  have hcanonical := value_writeKey_ofStore (g.changeFor key scope value actor) s.store hkey
  have hlegacy := fun store =>
    value_writeAliases_ofStore (g.changeFor key scope value actor) store haliases
  simp only [update, prepare_of_accepts hwriter h, Observed.value_bind]
  simp only [changeFor] at hcanonical hlegacy ⊢
  simp only [hcanonical, Observed.value_bind, Observed.value_pure, hlegacy]
  rfl

/-- The records after a change are told by one equation, whether it was accepted or refused. -/
theorem record?_update (hwriter : g.collaborators.writer = some .ofStore) (s : GateState)
    (key : String) (scope : Scope) (value : Option Bool) (actor : Actor) (k : String) (p : Scope) :
    (g.update s key scope value actor).value.2.store.record? k p =
      if g.Accepts key scope ∧ trim k ∈ (g.writtenKeys key).map trim ∧
          g.policy.normalizeScope scope = p then
        some ⟨.ofWrite value, actor⟩
      else s.store.record? k p := by
  by_cases h : g.Accepts key scope
  · rw [value_update_of_accepts hwriter h, Change.record?_putUnder]
    simp only [h, true_and]
    rfl
  · obtain ⟨e, he⟩ := value_update_of_not_accepts h value actor
    simp only [he, h, false_and, if_false]

/-- Only a change that has everything it needs goes through. -/
theorem accepts_of_update_eq_ok {s : GateState} {value : Option Bool} {actor : Actor}
    (h : (g.update s key scope value actor).value.1 = .ok ()) : g.Accepts key scope := by
  by_contra hrefused
  obtain ⟨e, he⟩ := value_update_of_not_accepts hrefused value actor
  rw [he] at h
  cases h

/-- A change leaves the states at other scopes as they are. -/
theorem get_update_of_ne (hwriter : g.collaborators.writer = some .ofStore) (s : GateState)
    (value : Option Bool) (actor : Actor) (hp : g.policy.normalizeScope scope ≠ p) :
    (g.update s key scope value actor).value.2.store.get k p = s.store.get k p := by
  rw [OverrideStore.get, record?_update hwriter, if_neg fun h => hp h.2.2, OverrideStore.get]

/-- An accepted change is the state under each of its keys at its scope. -/
theorem get_update_of_accepts (hwriter : g.collaborators.writer = some .ofStore)
    (h : g.Accepts key scope) (s : GateState) (value : Option Bool) (actor : Actor)
    (hk : k ∈ g.writtenKeys key) :
    (g.update s key scope value actor).value.2.store.get k (g.policy.normalizeScope scope) =
      .ofWrite value := by
  have hkey : trim k ∈ (g.writtenKeys key).map trim := List.mem_map_of_mem hk
  rw [OverrideStore.get, record?_update hwriter, if_pos ⟨h, hkey, rfl⟩]
  rfl

end Gate

end FeatureFlags
