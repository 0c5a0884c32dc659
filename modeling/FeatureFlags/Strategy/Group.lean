import FeatureFlags.Scope.Chain

/-!
# Groups of scopes

Overrides are compared inside groups of scopes.  Roles and permissions form one group, every
other kind a group of its own.  The order of kinds gives an order of groups, in which a group
stands where its first kind does.
-/

namespace FeatureFlags

/-- The kinds that are compared with each other. -/
inductive ScopeGroup where
  | user
  | rolePerm
  | org
  | tenant
  | system
deriving DecidableEq, Repr, Inhabited

namespace ScopeGroup

/-- The name of a group. -/
def name : ScopeGroup → String
  | user => "user"
  | rolePerm => "role_perm"
  | org => "org"
  | tenant => "tenant"
  | system => "system"

/-- The group of a kind. -/
def ofKind : ScopeKind → ScopeGroup
  | .user => user
  | .role | .perm => rolePerm
  | .org => org
  | .tenant => tenant
  | .system => system

/-- Whether a kind is in the group. -/
def contains (g : ScopeGroup) (k : ScopeKind) : Bool := ofKind k = g

theorem ofKind_of_isRolePerm {k : ScopeKind} (h : k.isRolePerm = true) : ofKind k = rolePerm := by
  cases k with
  | role => rfl
  | perm => rfl
  | system => cases h
  | tenant => cases h
  | org => cases h
  | user => cases h

/-- The order of groups when no order of kinds is given. -/
def defaultOrder : List ScopeGroup := [user, rolePerm, org, tenant, system]

end ScopeGroup

end FeatureFlags
