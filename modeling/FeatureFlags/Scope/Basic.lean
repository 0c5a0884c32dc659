import FeatureFlags.Scope.Kind
import FeatureFlags.Text.Blank

/-!
# Scopes

A scope is one point of policy.  It has a kind, an identifier and the tenant and organisation
it belongs to; an absent identifier is the empty text.  Which fields mean something depends on
the kind:

* the system has none;
* a tenant is its own tenant, and an organisation its own organisation;
* a user, role or permission may be limited to a tenant, an organisation or both.

Scopes are ordered by kind, then by identifier, tenant and organisation.
-/

namespace FeatureFlags

open Text (trim)

/-- One point of policy. -/
structure Scope where
  /-- The level of policy. -/
  kind : ScopeKind
  /-- The identifier, empty for the system. -/
  id : String := ""
  /-- The tenant the scope is limited to, or empty. -/
  tenantId : String := ""
  /-- The organisation the scope is limited to, or empty. -/
  orgId : String := ""
deriving DecidableEq, Repr, Inhabited

namespace Scope

/-! ## The scopes of each kind -/

/-- The whole system. -/
def system : Scope := ⟨.system, "", "", ""⟩

/-- A tenant. -/
def tenant (id : String) : Scope := ⟨.tenant, id, id, ""⟩

/-- An organisation of a tenant. -/
def org (tenantId id : String) : Scope := ⟨.org, id, tenantId, id⟩

/-- A user of a tenant and an organisation. -/
def user (tenantId orgId id : String) : Scope := ⟨.user, id, tenantId, orgId⟩

/-- A role wherever it is held. -/
def role (id : String) : Scope := ⟨.role, id, "", ""⟩

/-- A role held in a tenant and an organisation. -/
def roleIn (id tenantId orgId : String) : Scope := ⟨.role, id, tenantId, orgId⟩

/-- A permission wherever it is held. -/
def perm (id : String) : Scope := ⟨.perm, id, "", ""⟩

/-- A permission held in a tenant and an organisation. -/
def permIn (id tenantId orgId : String) : Scope := ⟨.perm, id, tenantId, orgId⟩

/-! ## Properties -/

/-- Whether the scope is the whole system. -/
def isSystem (s : Scope) : Bool := s.kind = .system

/-- Whether the scope has the identifier its kind needs. -/
def hasRequiredIds (s : Scope) : Bool :=
  match s.kind with
  | .system => true
  | _ => s.id ≠ ""

theorem hasRequiredIds_iff {s : Scope} :
    s.hasRequiredIds = true ↔ s.kind = .system ∨ s.id ≠ "" := by
  obtain ⟨kind, id, tenantId, orgId⟩ := s
  cases kind <;> simp [hasRequiredIds]

/-- The first text unless it is empty, else the second. -/
def orElse (s t : String) : String := if s = "" then t else s

/-- The scope with trimmed identifiers and without those its kind does not use.  A tenant or
an organisation that is named in one of its two fields only is named in both. -/
def trimmed (s : Scope) : Scope :=
  match s.kind with
  | .system => system
  | .tenant => tenant (orElse (trim s.id) (trim s.tenantId))
  | .org => org (trim s.tenantId) (orElse (trim s.id) (trim s.orgId))
  | kind => ⟨kind, trim s.id, trim s.tenantId, trim s.orgId⟩

theorem kind_trimmed (s : Scope) : s.trimmed.kind = s.kind := by
  obtain ⟨kind, id, tenantId, orgId⟩ := s
  cases kind <;> rfl

/-- How a scope is shown.  A user, role or permission shows where it is limited to. -/
def display (s : Scope) : String :=
  match s.kind with
  | .system => "system"
  | .tenant | .org => s.kind.name ++ ":" ++ s.id
  | _ =>
    let place := if s.tenantId = "" ∧ s.orgId = "" then "" else "@" ++ s.tenantId ++ "/" ++ s.orgId
    s.kind.name ++ ":" ++ s.id ++ place

/-! ## The order -/

instance : Ord Scope where
  compare :=
    compareLex (compareOn fun s => s.kind.rank) <|
    compareLex (compareOn Scope.id) <|
    compareLex (compareOn Scope.tenantId) (compareOn Scope.orgId)

instance : Std.TransOrd Scope :=
  inferInstanceAs <| Std.TransCmp <|
    compareLex (compareOn fun s : Scope => s.kind.rank) <|
    compareLex (compareOn Scope.id) <|
    compareLex (compareOn Scope.tenantId) (compareOn Scope.orgId)

instance : Std.LawfulEqOrd Scope where
  eq_of_compare {a b} h := by
    change compareLex (compareOn fun s : Scope => s.kind.rank)
      (compareLex (compareOn Scope.id) <|
        compareLex (compareOn Scope.tenantId) (compareOn Scope.orgId)) a b = .eq at h
    simp only [compareLex, compareOn, Ordering.then_eq_eq] at h
    obtain ⟨hk, hi, ht, ho⟩ := h
    cases a; cases b
    simp only [Scope.mk.injEq]
    exact ⟨ScopeKind.rank_injective (Std.LawfulEqOrd.eq_of_compare hk),
      Std.LawfulEqOrd.eq_of_compare hi, Std.LawfulEqOrd.eq_of_compare ht,
      Std.LawfulEqOrd.eq_of_compare ho⟩

end Scope

end FeatureFlags
