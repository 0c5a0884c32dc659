import FeatureFlags.Proofs.ChangeEffects
import FeatureFlags.Proofs.LowercaseForm
import FeatureFlags.Proofs.Replay

/-!
# The standard spelling

The standard rule spells an identifier as the lowercase of its trimmed text.  This is a normal form:
it is trimmed and in lowercase, so the rule settles after one step, and blank characters around an
identifier never count.

So a gate with the standard rule recognizes the roles and permissions it gave out.  A scope that it
wrote, or that stands in a chain it asked, is taken for the same scope when its identifier comes
back, with blank characters around it or without.  This holds for every writer, and for the records
of the store after every run.
-/

namespace FeatureFlags

open Text

namespace ChainPolicy

variable {p : ChainPolicy} {s : Scope} {id id' : String}

/-! ## Identifiers -/

theorem normalizeId_standard (hp : p.normalizer = .standard) (id : String) :
    p.normalizeId id = lowercase (trim id) := by
  rw [normalizeId, hp, Normalizer.standard]
  split
  · next hblank => rw [hblank, lowercase_eq_empty_iff.2 rfl]
  · rw [trim_trim]

theorem trim_normalizeId_standard (hp : p.normalizer = .standard) (id : String) :
    trim (p.normalizeId id) = p.normalizeId id := by
  rw [normalizeId_standard hp, trim_lowercase (trim_trim id)]

/-- The standard rule settles. -/
theorem settles_standard (hp : p.normalizer = .standard) : p.Settles := by
  intro id
  rw [normalizeId_standard hp (p.normalizeId id), trim_normalizeId_standard hp,
    normalizeId_standard hp, lowercase_lowercase]

/-- Whatever the rule, blank characters around an identifier do not count. -/
theorem normalizeId_of_padded (p : ChainPolicy) (h : Padded id id') :
    p.normalizeId id' = p.normalizeId id := by
  rw [normalizeId, h.trim_eq, ← normalizeId]

/-! ## Scopes that come back -/

/-- The identifier of a role or a permission leads back to its scope, whatever blank characters are
put around it. -/
structure Recognizes (p : ChainPolicy) (s : Scope) : Prop where
  /-- The identifier is spelled as it is in the scope. -/
  id {id : String} : Padded s.id id → p.normalizeId id = s.id
  /-- The scope with this identifier is taken for the scope. -/
  scope {id : String} : Padded s.id id → p.normalizeScope { s with id } = s

theorem recognizes_of_normalizeScope_eq_self (hkind : s.kind.isRolePerm = true)
    (h : p.normalizeScope s = s) : p.Recognizes s := by
  obtain ⟨kind, id, tenantId, orgId⟩ := s
  rw [normalizeScope_of_isRolePerm hkind, Scope.mk.injEq] at h
  obtain ⟨-, hid, htenant, horg⟩ := h
  have hspelled {id' : String} (hpad : Padded id id') : p.normalizeId id' = id := by
    rw [p.normalizeId_of_padded hpad, hid]
  refine ⟨hspelled, fun {id'} hpad => ?_⟩
  rw [normalizeScope_of_isRolePerm hkind, hspelled hpad, htenant, horg]

end ChainPolicy

namespace Gate

variable {g : Gate} {st : GateState} {key k : String} {scope s : Scope} {value v : Option Bool}
  {actor : Actor}

/-! ## Scopes that are written -/

theorem scope_of_prepare {c : Change} {writer : OverrideWriter}
    (h : g.prepare key scope value actor = .ok (c, writer)) :
    c.scope = g.policy.normalizeScope scope := by
  simp only [prepare] at h
  split at h
  · cases h
  · split at h
    · cases h
    · split at h
      · cases h
      · cases h
        rfl

/-- A change writes at no other scope than the normalized one, whoever the writer is. -/
theorem scope_of_mem_calls_update
    (h : .writeOverride k s v ∈ Effect.calls (g.update st key scope value actor).effects) :
    s = g.policy.normalizeScope scope := by
  cases hprepare : g.prepare key scope value actor with
  | error e =>
    rw [update_of_prepare_error hprepare] at h
    cases h
  | ok prepared =>
    obtain ⟨c, writer⟩ := prepared
    obtain ⟨tried, last, failure, hperforms⟩ := performs_update hprepare st
    rw [hperforms.calls] at h
    obtain ⟨a, -, heq⟩ := List.mem_map.1 h
    rw [← scope_of_prepare hprepare]
    exact (Call.writeOverride.inj heq).2.1.symm

/-- Every record of the store is at a scope in its normal spelling. -/
def InNormalSpelling (g : Gate) (store : OverrideStore) : Prop :=
  ∀ key s r, store.record? key s = some r → g.policy.normalizeScope s = s

section Records

variable (hp : g.policy.Settles) (hwriter : g.collaborators.writer = some .ofStore)
include hp hwriter

theorem inNormalSpelling_update (h : g.InNormalSpelling st.store) (key : String) (scope : Scope)
    (value : Option Bool) (actor : Actor) :
    g.InNormalSpelling (g.update st key scope value actor).value.2.store := by
  intro k s r hr
  rw [record?_update hwriter] at hr
  split at hr
  · next hwritten =>
    rw [← hwritten.2.2, hp.normalizeScope_normalizeScope]
  · exact h k s r hr

/-- Everything that is written through a gate is stored in normal spelling, by induction on the
requests. -/
theorem inNormalSpelling_run (h : g.InNormalSpelling st.store) (requests : List Request) :
    g.InNormalSpelling (g.run st requests).2.store := by
  induction requests generalizing st with
  | nil => exact h
  | cons q rest ih =>
    refine ih ?_
    cases q with
    | resolve context key provided => exact h
    | update key scope value actor =>
      exact inNormalSpelling_update hp hwriter h key scope value actor

end Records

end Gate

/-! ## The main theorem -/

/-- The standard spelling of an identifier is its own spelling, has no blank character at either
end, is empty only for blank identifiers and does not depend on blank characters around the
identifier.  So the roles and permissions that a gate writes at or asks for are recognized when
they come back, and the records at them are found. -/
theorem standard_spelling_comes_back (p : ChainPolicy) (hp : p.normalizer = .standard) :
    (∀ x, p.normalizeId (p.normalizeId x) = p.normalizeId x ∧
      (∀ c ∈ (p.normalizeId x).toList.head?, isBlank c = false) ∧
      (∀ c ∈ (p.normalizeId x).toList.getLast?, isBlank c = false) ∧
      (p.normalizeId x = "" ↔ AllBlank x) ∧
      ∀ y, Padded x y → p.normalizeId y = p.normalizeId x) ∧
    ∀ g : Gate, g.policy = p →
      (∀ st key scope value actor k s v,
        .writeOverride k s v ∈ Effect.calls (g.update st key scope value actor).effects →
        s.kind.isRolePerm = true → p.Recognizes s) ∧
      (g.collaborators.writer = some .ofStore → ∀ cache requests key s r,
        let store := (g.run ⟨.empty, cache⟩ requests).2.store
        store.record? key s = some r → s.kind.isRolePerm = true →
        p.Recognizes s ∧ ∀ id given, Padded s.id id → { s with id } ∈ given →
          ⟨s, r.state⟩ ∈ store.getAll key (g.providedChain given)) ∧
      ∀ context provided chain, (g.chainFor context provided).value = .ok chain →
        ∀ s ∈ chain, s.kind.isRolePerm = true → p.Recognizes s := by
  have hsettles := ChainPolicy.settles_standard hp
  refine ⟨fun x => ?_, ?_⟩
  · have htrimmed := ChainPolicy.trim_normalizeId_standard hp x
    rw [← String.toList_inj, toList_trim, trimList_eq_self_iff_ends] at htrimmed
    refine ⟨hsettles x, htrimmed.1, htrimmed.2, ?_, fun y hy => p.normalizeId_of_padded hy⟩
    rw [ChainPolicy.normalizeId_eq_empty_iff hp, trim_eq_empty_iff]
  · rintro g rfl
    refine ⟨?_, ?_, ?_⟩
    · intro st key scope value actor k s v hcall hkind
      obtain rfl := Gate.scope_of_mem_calls_update hcall
      exact ChainPolicy.recognizes_of_normalizeScope_eq_self hkind
        (hsettles.normalizeScope_normalizeScope scope)
    · intro hwriter cache requests key s r store hr hkind
      have hempty : g.InNormalSpelling (GateState.mk .empty cache).store :=
        fun _ _ _ h => nomatch h
      have hnormal : g.InNormalSpelling store :=
        Gate.inNormalSpelling_run hsettles hwriter hempty requests
      have hs := ChainPolicy.recognizes_of_normalizeScope_eq_self hkind (hnormal key s r hr)
      refine ⟨hs, fun id given hpad hgiven => OverrideStore.mem_getAll.2 ⟨?_, r, hr, rfl⟩⟩
      exact Gate.mem_providedChain (List.mem_map.2 ⟨_, hgiven, hs.scope hpad⟩)
    · intro context provided chain hchain s hs hkind
      refine ChainPolicy.recognizes_of_normalizeScope_eq_self hkind ?_
      exact ChainPolicy.normalizeScope_of_mem (Gate.normalizeChain_of_chainFor hsettles hchain) hs

/-- A gate with the standard rule. -/
def Gate.lowercasing : Gate where
  config := {}
  accepted := GateConfig.incompleteScope?_default
  normalizer := .standard
  collaborators := { reader := some .ofStore, writer := some .ofStore }

/-- The feature was turned on for a role that is given in capitals, with a sigma at its end. -/
def onForCapitals : List Request :=
  [.update "f" (.role " ΜΕΓΑΣ") (some true) ⟨"ann", "user", "Ann"⟩]

theorem standard_spelling_comes_back_inCapitals :
    let p := Gate.lowercasing.policy
    let store := (Gate.lowercasing.run .initial onForCapitals).2.store
    p.normalizeId " ΜΕΓΑΣ" = "μεγας" ∧ p.normalizeId "μεγας" = "μεγας" ∧
      store.record? "f" (.role "μεγας") = some ⟨.enabled, ⟨"ann", "user", "Ann"⟩⟩ ∧
      ⟨.role "μεγας", .enabled⟩ ∈
        store.getAll "f" (Gate.lowercasing.providedChain [.role "\u2003μεγας "]) := by
  intro p store
  have hid : p.normalizeId " ΜΕΓΑΣ" = "μεγας" := by decide +kernel
  have hrecord : store.record? "f" (.role "μεγας") =
      some ⟨.enabled, ⟨"ann", "user", "Ann"⟩⟩ := by decide +kernel
  have hpadded : Padded "μεγας" "\u2003μεγας " :=
    ⟨"\u2003", " ", by decide +kernel, by decide +kernel, by decide +kernel⟩
  obtain ⟨hnormal, hback⟩ := standard_spelling_comes_back p rfl
  obtain ⟨-, hstored, -⟩ := hback .lowercasing rfl
  obtain ⟨-, hfound⟩ := hstored rfl _ onForCapitals "f" _ _ hrecord rfl
  refine ⟨hid, ?_, hrecord, hfound _ _ hpadded List.mem_cons_self⟩
  have hagain := (hnormal " ΜΕΓΑΣ").1
  rwa [hid] at hagain

end FeatureFlags
