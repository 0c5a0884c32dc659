import FeatureFlags.Proofs.CacheCoherence
import FeatureFlags.Proofs.Collections
import FeatureFlags.Proofs.Precedence

/-!
# The order of grants

Two actors have the same grants when they belong to the same tenant and organisation as the same
user, and the identifiers of their roles and of their permissions come out as the same sets.  It
does not matter how the identifiers are spelled, how often and in which order they are held, and
whether the claims or a provider name them.

When identifiers are sorted, the chains of the two actors are equal.  When the order is preserved,
the chains are alike: they differ in the order of roles and permissions only.  Then another scope
may decide, but not another state, since the winner among roles and permissions is chosen by its
state.
-/

namespace FeatureFlags

open Text (trim)

/-! ## Chains that are alike -/

/-- Two chains differ at most in how they name roles and permissions, not in which they name. -/
structure Chain.Alike (chain chain' : Chain) : Prop where
  /-- The same scopes are in both. -/
  mem : ∀ s, s ∈ chain ↔ s ∈ chain'
  /-- Scopes of the other groups are in the same order. -/
  filter : ∀ g : ScopeGroup, g ≠ .rolePerm →
    (chain.filter fun s => g.contains s.kind) = chain'.filter fun s => g.contains s.kind

/-- Chains that are alike stay alike when the system is appended, since both have it or neither
does. -/
theorem Chain.Alike.withSystem {chain chain' : Chain} (h : chain.Alike chain') :
    chain.withSystem.Alike chain'.withSystem := by
  have hsystem : chain.hasSystem = chain'.hasSystem := by
    rw [Bool.eq_iff_iff]
    simp only [hasSystem, List.any_eq_true, h.mem]
  constructor
  · intro s
    rw [mem_withSystem, mem_withSystem, h.mem, hsystem]
  · intro g hg
    rw [Chain.withSystem, Chain.withSystem, hsystem]
    split
    · exact h.filter g hg
    · rw [List.filter_append, List.filter_append, h.filter g hg]

/-! ## The same grants -/

namespace ChainPolicy

variable {p : ChainPolicy} {ids ids' : List String} {id : String} {c c' : Claims}
  {kind : ScopeKind}

namespace SameGrants

end SameGrants

end ChainPolicy

/-! ## Decisions for one state -/

namespace Gate

variable {g : Gate} {on : Bool} {store : OverrideStore} {key : String} {chain chain' : Chain}

end Gate

end FeatureFlags
