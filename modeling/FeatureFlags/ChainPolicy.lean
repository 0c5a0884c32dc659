import FeatureFlags.Actor
import FeatureFlags.Collection.Sorted
import FeatureFlags.Scope.Chain
import FeatureFlags.Text.Lowercase

/-!
# From claims to a chain

A policy says how a chain is derived from the claims of an actor.  The order of kinds is the
order of the scopes in the chain.  A role or permission is in the chain twice when the claims
name a tenant or an organisation: wherever it is held, and then as held there.  The system is
always in the chain, at its end unless the order gives it another place.

The identifiers of roles and permissions are normalized: trimmed, and then passed to the
normalizer of the policy.  Identifiers that come out empty are dropped.  The others come
without repetition, in ascending order or in the order in which they are held.

A scope to be written and a chain that is given from outside are normalized the same way, so
that what is written at a scope is found through every spelling of it.
-/

namespace FeatureFlags

open Text (trim lowercase)

/-- A spelling rule for the identifiers of roles and permissions. -/
abbrev Normalizer := String → String

/-- The rule that trims and lowercases. -/
def Normalizer.standard : Normalizer := fun s => lowercase (trim s)

/-- How chains are derived from claims. -/
structure ChainPolicy where
  /-- The order of the kinds. -/
  order : List ScopeKind
  /-- Whether roles and permissions stay in the order in which they are held. -/
  preserveOrder : Bool
  /-- The spelling rule for the identifiers of roles and permissions. -/
  normalizer : Normalizer

namespace ChainPolicy

/-- The order of kinds of a policy that has none of its own. -/
def defaultOrder : List ScopeKind := [.user, .role, .perm, .org, .tenant, .system]

/-- An order without repetition, or the default order in the stead of an empty one. -/
def effectiveOrder (order : List ScopeKind) : List ScopeKind :=
  if order.isEmpty then defaultOrder else order.eraseDups

theorem mem_effectiveOrder {order : List ScopeKind} {kind : ScopeKind} :
    kind ∈ effectiveOrder order ↔ order = [] ∨ kind ∈ order := by
  rw [effectiveOrder]
  cases order with
  | nil => cases kind <;> simp [defaultOrder]
  | cons k rest => simp

theorem effectiveOrder_ne_nil (order : List ScopeKind) : effectiveOrder order ≠ [] := by
  cases order with
  | nil => exact List.cons_ne_nil _ _
  | cons k rest => exact List.ne_nil_of_mem (mem_effectiveOrder.2 (.inr List.mem_cons_self))

/-- The policy with an order of kinds that may be empty or repeat itself. -/
def make (order : List ScopeKind) (preserveOrder : Bool) (normalizer : Normalizer) : ChainPolicy :=
  ⟨effectiveOrder order, preserveOrder, normalizer⟩

/-- The policy with the default order, sorted identifiers and the standard spelling. -/
def standard : ChainPolicy := ⟨defaultOrder, false, .standard⟩

/-! ## Spelling -/

/-- The identifier of a role or a permission as it is stored and looked for. -/
def normalizeId (p : ChainPolicy) (id : String) : String :=
  if trim id = "" then "" else p.normalizer (trim id)

/-- A scope as it is stored and looked for. -/
def normalizeScope (p : ChainPolicy) (s : Scope) : Scope :=
  let t := s.trimmed
  if t.kind.isRolePerm then { t with id := p.normalizeId t.id } else t

theorem kind_normalizeScope (p : ChainPolicy) (s : Scope) :
    (p.normalizeScope s).kind = s.kind := by
  simp only [normalizeScope]
  split
  · exact s.kind_trimmed
  · exact s.kind_trimmed

/-- A chain as it is looked for. -/
def normalizeChain (p : ChainPolicy) (c : Chain) : Chain := c.map p.normalizeScope

/-- The identifiers of roles or permissions as they come into a chain. -/
def normalizeIds (p : ChainPolicy) (ids : List String) : List String :=
  let kept := (ids.map p.normalizeId).filter (· ≠ "")
  if p.preserveOrder then kept.eraseDups else sortedDistinct kept

theorem mem_normalizeIds {p : ChainPolicy} {ids : List String} {id : String} :
    id ∈ p.normalizeIds ids ↔ id ≠ "" ∧ ∃ a ∈ ids, p.normalizeId a = id := by
  simp only [normalizeIds]
  split <;> simp [mem_sortedDistinct, and_comm]

/-! ## Derivation -/

/-- A scope if its identifier is not empty. -/
def unlessEmpty (id : String) (s : Scope) : Chain := if id = "" then [] else [s]

/-- The scopes of roles or permissions: each wherever it is held, and then as held in the
tenant and the organisation if there is one of them. -/
def holdings (kind : ScopeKind) (ids : List String) (tenant org : String) : Chain :=
  ids.flatMap fun id =>
    ⟨kind, id, "", ""⟩ :: if tenant = "" ∧ org = "" then [] else [⟨kind, id, tenant, org⟩]

/-- The scopes of one kind that the claims lead to. -/
def scopesOf (p : ChainPolicy) (c : Claims) : ScopeKind → Chain
  | .user => unlessEmpty (trim c.subjectId)
      (.user (trim c.tenantId) (trim c.orgId) (trim c.subjectId))
  | .role => holdings .role (p.normalizeIds c.roles) (trim c.tenantId) (trim c.orgId)
  | .perm => holdings .perm (p.normalizeIds c.perms) (trim c.tenantId) (trim c.orgId)
  | .org => unlessEmpty (trim c.orgId) (.org (trim c.tenantId) (trim c.orgId))
  | .tenant => unlessEmpty (trim c.tenantId) (.tenant (trim c.tenantId))
  | .system => [.system]

theorem eq_of_mem_unlessEmpty {id : String} {s t : Scope} (h : t ∈ unlessEmpty id s) : t = s := by
  rw [unlessEmpty] at h
  split at h
  · cases h
  · exact List.mem_singleton.1 h

theorem kind_of_mem_holdings {kind : ScopeKind} {ids : List String} {tenant org : String}
    {s : Scope} (h : s ∈ holdings kind ids tenant org) : s.kind = kind := by
  obtain ⟨id, -, h⟩ := List.mem_flatMap.1 h
  rcases List.mem_cons.1 h with rfl | h
  · rfl
  · split at h
    · cases h
    · rw [List.mem_singleton.1 h]

theorem kind_of_mem_scopesOf {p : ChainPolicy} {c : Claims} {kind : ScopeKind} {s : Scope}
    (h : s ∈ p.scopesOf c kind) : s.kind = kind := by
  cases kind with
  | system => rw [List.mem_singleton.1 h, Scope.system]
  | tenant => rw [eq_of_mem_unlessEmpty h, Scope.tenant]
  | org => rw [eq_of_mem_unlessEmpty h, Scope.org]
  | user => rw [eq_of_mem_unlessEmpty h, Scope.user]
  | role => exact kind_of_mem_holdings h
  | perm => exact kind_of_mem_holdings h

/-- The chain of an actor. -/
def derive (p : ChainPolicy) (c : Claims) : Chain :=
  Chain.withSystem (p.order.flatMap (p.scopesOf c))

/-- The system is in every chain of an actor. -/
theorem system_mem_derive (p : ChainPolicy) (c : Claims) : Scope.system ∈ p.derive c := by
  rw [derive, Chain.mem_withSystem]
  cases h : Chain.hasSystem (p.order.flatMap (p.scopesOf c)) with
  | false => exact .inr ⟨rfl, rfl⟩
  | true =>
    obtain ⟨s, hs, hsystem⟩ := List.any_eq_true.1 h
    obtain ⟨kind, hkind, hs⟩ := List.mem_flatMap.1 hs
    obtain rfl : kind = .system := (kind_of_mem_scopesOf hs).symm.trans (of_decide_eq_true hsystem)
    exact .inl (List.mem_flatMap.2 ⟨.system, hkind, List.mem_singleton_self _⟩)

end ChainPolicy

end FeatureFlags
