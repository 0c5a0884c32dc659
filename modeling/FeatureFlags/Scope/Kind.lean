/-!
# Kinds of scope

A scope is a level of policy at which an override may be stored: the whole system, a tenant,
an organisation, a user, a role or a permission.  The kinds are ordered from the widest to
the narrowest.
-/

namespace FeatureFlags

/-- The levels of policy, the widest first. -/
inductive ScopeKind where
  | system
  | tenant
  | org
  | user
  | role
  | perm
deriving DecidableEq, Repr, Inhabited

namespace ScopeKind

/-- All kinds, the widest first. -/
def all : List ScopeKind := [system, tenant, org, user, role, perm]

/-- The name of a kind in displays and documents. -/
def name : ScopeKind → String
  | system => "system"
  | tenant => "tenant"
  | org => "org"
  | user => "user"
  | role => "role"
  | perm => "perm"

/-- The kind of a name. -/
def ofName? (s : String) : Option ScopeKind := all.find? (·.name = s)

theorem ofName?_name (k : ScopeKind) : ofName? k.name = some k := by
  cases k <;> rfl

/-- The place of a kind in the order. -/
def rank : ScopeKind → Nat
  | system => 0
  | tenant => 1
  | org => 2
  | user => 3
  | role => 4
  | perm => 5

theorem rank_injective {a b : ScopeKind} (h : a.rank = b.rank) : a = b := by
  cases a <;> cases b <;> simp_all [rank]

/-- Roles and permissions are known by an identifier that is normalized. -/
def isRolePerm : ScopeKind → Bool
  | role | perm => true
  | _ => false

end ScopeKind

end FeatureFlags
