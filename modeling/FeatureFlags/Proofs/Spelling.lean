import FeatureFlags.ChainPolicy
import FeatureFlags.Proofs.Trimming

/-!
# Normal spelling

A scope is in its normal spelling when normalizing leaves it as it is.  If the rule for
identifiers settles after one step, so does that for scopes, whatever their kind and however
their fields contradict each other.  Every chain of an actor is in its normal spelling.

Normalizing and putting the system at the end of a chain can be done in either order.
-/

namespace FeatureFlags

open Text (trim trim_trim lowercase_eq_empty_iff)

namespace Scope

theorem orElse_self (s : String) : orElse s s = s := by
  rw [orElse, ite_self]

/-- The choice between two trimmed texts is trimmed. -/
theorem trim_orElse_trim (s t : String) :
    trim (orElse (trim s) (trim t)) = orElse (trim s) (trim t) := by
  rw [orElse]
  split
  · exact trim_trim t
  · exact trim_trim s

theorem id_trimmed_of_isRolePerm {s : Scope} (hkind : s.kind.isRolePerm = true) :
    s.trimmed.id = trim s.id := by
  obtain ⟨kind, id, tenantId, orgId⟩ := s
  cases kind with
  | role => rfl
  | perm => rfl
  | system => cases hkind
  | tenant => cases hkind
  | org => cases hkind
  | user => cases hkind

/-- A trimmed scope is trimmed already. -/
theorem trimmed_trimmed (s : Scope) : s.trimmed.trimmed = s.trimmed := by
  obtain ⟨kind, id, tenantId, orgId⟩ := s
  cases kind with
  | system => rfl
  | tenant => simp only [trimmed, tenant, trim_orElse_trim, orElse_self]
  | org => simp only [trimmed, org, trim_orElse_trim, orElse_self, trim_trim]
  | user => simp only [trimmed, trim_trim]
  | role => simp only [trimmed, trim_trim]
  | perm => simp only [trimmed, trim_trim]

end Scope

namespace ChainPolicy

variable {p : ChainPolicy}

/-! ## Scopes -/

/-- The identifier of a role or a permission is trimmed before anything else. -/
theorem normalizeId_trim (p : ChainPolicy) (id : String) :
    p.normalizeId (trim id) = p.normalizeId id := by
  simp only [normalizeId, trim_trim]

/-- The identifiers of roles and permissions have a spelling of their own. -/
theorem normalizeScope_of_isRolePerm {kind : ScopeKind} (hkind : kind.isRolePerm = true)
    (id tenantId orgId : String) :
    p.normalizeScope ⟨kind, id, tenantId, orgId⟩ =
      ⟨kind, p.normalizeId id, trim tenantId, trim orgId⟩ := by
  cases kind with
  | role => simp only [normalizeScope, Scope.trimmed, hkind, if_true, normalizeId_trim]
  | perm => simp only [normalizeScope, Scope.trimmed, hkind, if_true, normalizeId_trim]
  | system => cases hkind
  | tenant => cases hkind
  | org => cases hkind
  | user => cases hkind

/-- The other scopes are only trimmed. -/
theorem normalizeScope_of_not_isRolePerm {s : Scope} (hkind : s.kind.isRolePerm = false) :
    p.normalizeScope s = s.trimmed := by
  simp only [normalizeScope, s.kind_trimmed, hkind, Bool.false_eq_true, if_false]

theorem normalizeScope_system (p : ChainPolicy) : p.normalizeScope .system = .system :=
  normalizeScope_of_not_isRolePerm rfl

/-- The standard rule leaves nothing of an identifier only if it is blank. -/
theorem normalizeId_eq_empty_iff (hp : p.normalizer = .standard) {id : String} :
    p.normalizeId id = "" ↔ trim id = "" := by
  rw [normalizeId, hp]
  split
  · next h => simp only [h]
  · next h => simp only [Normalizer.standard, lowercase_eq_empty_iff, trim_trim, h]

/-- With the standard rule a normalized scope has its identifier if the trimmed one has. -/
theorem hasRequiredIds_normalizeScope (hp : p.normalizer = .standard) (s : Scope) :
    (p.normalizeScope s).hasRequiredIds = s.trimmed.hasRequiredIds := by
  cases hkind : s.kind.isRolePerm with
  | false => rw [normalizeScope_of_not_isRolePerm hkind]
  | true =>
    obtain ⟨kind, id, tenantId, orgId⟩ := s
    have hid : p.normalizeId id ≠ "" ↔ trim id ≠ "" := not_congr (normalizeId_eq_empty_iff hp)
    rw [Bool.eq_iff_iff, Scope.hasRequiredIds_iff, Scope.hasRequiredIds_iff, kind_normalizeScope,
      Scope.kind_trimmed, normalizeScope_of_isRolePerm hkind, hid,
      Scope.id_trimmed_of_isRolePerm hkind]

/-! ## Chains -/

/-- Normalizing a chain neither adds the system nor drops it. -/
theorem hasSystem_normalizeChain (p : ChainPolicy) (c : Chain) :
    Chain.hasSystem (p.normalizeChain c) = c.hasSystem := by
  simp only [Chain.hasSystem, normalizeChain, List.any_map]
  congr 1
  funext s
  simp only [Function.comp_apply, Scope.isSystem, kind_normalizeScope]

/-- The system can be put at the end before or after normalizing. -/
theorem normalizeChain_withSystem (p : ChainPolicy) (c : Chain) :
    p.normalizeChain c.withSystem = Chain.withSystem (p.normalizeChain c) := by
  simp only [Chain.withSystem, hasSystem_normalizeChain]
  split
  · rfl
  · exact List.map_append

/-- A chain of normalized scopes is normalized. -/
theorem normalizeChain_eq_self {c : Chain} (h : ∀ s ∈ c, p.normalizeScope s = s) :
    p.normalizeChain c = c :=
  (List.map_congr_left h).trans (List.map_id' c)

/-- In a normalized chain every scope is normalized. -/
theorem normalizeScope_of_mem {c : Chain} {s : Scope} (h : p.normalizeChain c = c) (hs : s ∈ c) :
    p.normalizeScope s = s :=
  List.map_inj_left.1 (h.trans (List.map_id' c).symm) s hs

/-! ## Rules that settle -/

/-- The rule for identifiers changes nothing when it is applied a second time. -/
def Settles (p : ChainPolicy) : Prop := ∀ id, p.normalizeId (p.normalizeId id) = p.normalizeId id

namespace Settles

variable (hp : p.Settles)
include hp

/-- Where the rule for identifiers settles at once, so does the one for scopes. -/
theorem normalizeScope_normalizeScope (s : Scope) :
    p.normalizeScope (p.normalizeScope s) = p.normalizeScope s := by
  cases hkind : s.kind.isRolePerm with
  | true =>
    obtain ⟨kind, id, tenantId, orgId⟩ := s
    simp only [normalizeScope_of_isRolePerm hkind, hp id, trim_trim]
  | false =>
    have htrimmed : s.trimmed.kind.isRolePerm = false := by rwa [s.kind_trimmed]
    rw [normalizeScope_of_not_isRolePerm hkind, normalizeScope_of_not_isRolePerm htrimmed,
      s.trimmed_trimmed]

/-- A chain is normalized after one go. -/
theorem normalizeChain_normalizeChain (c : Chain) :
    p.normalizeChain (p.normalizeChain c) = p.normalizeChain c := by
  refine normalizeChain_eq_self fun s hs => ?_
  obtain ⟨s, -, rfl⟩ := List.mem_map.1 hs
  exact hp.normalizeScope_normalizeScope s

/-- Normalized identifiers need no further go. -/
theorem normalizeId_of_mem_normalizeIds {ids : List String} {id : String}
    (h : id ∈ p.normalizeIds ids) : p.normalizeId id = id := by
  obtain ⟨-, a, -, rfl⟩ := mem_normalizeIds.1 h
  exact hp a

/-- Roles and permissions that are held are in their normal spelling, wherever that is. -/
theorem normalizeScope_of_mem_holdings {kind : ScopeKind} (hkind : kind.isRolePerm = true)
    {ids : List String} {tenant org : String} {s : Scope}
    (h : s ∈ holdings kind (p.normalizeIds ids) (trim tenant) (trim org)) :
    p.normalizeScope s = s := by
  obtain ⟨id, hid, h⟩ := List.mem_flatMap.1 h
  have hspelled := hp.normalizeId_of_mem_normalizeIds hid
  rcases List.mem_cons.1 h with rfl | h
  · rw [normalizeScope_of_isRolePerm hkind, hspelled]
    rfl
  · split at h
    · cases h
    · rw [List.mem_singleton.1 h, normalizeScope_of_isRolePerm hkind, hspelled, trim_trim,
        trim_trim]

/-- The scopes that are derived from claims are normalized. -/
theorem normalizeScope_of_mem_scopesOf {c : Claims} {kind : ScopeKind} {s : Scope}
    (h : s ∈ p.scopesOf c kind) : p.normalizeScope s = s := by
  cases kind with
  | system => rw [List.mem_singleton.1 h, normalizeScope_system]
  | tenant =>
    rw [eq_of_mem_unlessEmpty h, normalizeScope_of_not_isRolePerm rfl]
    simp only [Scope.trimmed, Scope.tenant, trim_trim, Scope.orElse_self]
  | org =>
    rw [eq_of_mem_unlessEmpty h, normalizeScope_of_not_isRolePerm rfl]
    simp only [Scope.trimmed, Scope.org, trim_trim, Scope.orElse_self]
  | user =>
    rw [eq_of_mem_unlessEmpty h, normalizeScope_of_not_isRolePerm rfl]
    simp only [Scope.trimmed, Scope.user, trim_trim]
  | role => exact hp.normalizeScope_of_mem_holdings rfl h
  | perm => exact hp.normalizeScope_of_mem_holdings rfl h

/-- The chain of an actor is in its normal spelling. -/
theorem normalizeChain_derive (c : Claims) : p.normalizeChain (p.derive c) = p.derive c := by
  rw [derive, normalizeChain_withSystem]
  refine congrArg Chain.withSystem (normalizeChain_eq_self fun s hs => ?_)
  obtain ⟨kind, -, hs⟩ := List.mem_flatMap.1 hs
  exact hp.normalizeScope_of_mem_scopesOf hs

end Settles

end ChainPolicy

end FeatureFlags
