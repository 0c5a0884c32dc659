import FeatureFlags.Context
import FeatureFlags.GateConfig
import FeatureFlags.ResolveCache
import FeatureFlags.Text.Inspect

/-!
# How values are shown to a developer

Every record is shown with its name and its fields in the order of their declaration, every
name of a kind or a mode as one word, and every text quoted.
-/

namespace FeatureFlags

/-- A kind as one word. -/
def ScopeKind.inspect : ScopeKind → String
  | system => "System"
  | tenant => "Tenant"
  | org => "Org"
  | user => "User"
  | role => "Role"
  | perm => "Perm"

/-- A mode as one word. -/
def ClaimsFailureMode.inspect : ClaimsFailureMode → String
  | failOpen => "FailOpen"
  | failClosed => "FailClosed"

/-- A scope with its fields. -/
def Scope.inspect (s : Scope) : String :=
  Inspect.record "ScopeRef" [("kind", s.kind.inspect), ("id", Inspect.text s.id),
    ("tenant_id", Inspect.text s.tenantId), ("org_id", Inspect.text s.orgId)]

/-- A chain with its scopes. -/
def Chain.inspect (c : Chain) : String :=
  "ScopeChain(" ++ Inspect.list (c.map Scope.inspect) ++ ")"

/-- Claims with their fields. -/
def Claims.inspect (c : Claims) : String :=
  Inspect.record "ActorClaims" [("subject_id", Inspect.text c.subjectId),
    ("tenant_id", Inspect.text c.tenantId), ("org_id", Inspect.text c.orgId),
    ("roles", Inspect.list (c.roles.map Inspect.text)),
    ("perms", Inspect.list (c.perms.map Inspect.text))]

/-- A context with the number of its values and its claims. -/
def Context.inspect (c : Context) : String :=
  Inspect.record "FeatureCtx" [("values", toString c.size),
    ("claims", Inspect.option Claims.inspect c.claims)]

/-- A policy with its settings. -/
def ChainPolicy.inspect (p : ChainPolicy) : String :=
  Inspect.record "ChainBuilder"
    [("scope_order", Inspect.list (p.order.map ScopeKind.inspect)),
      ("preserve_order", Inspect.bool p.preserveOrder),
      ("normalizer", Inspect.text "<function>")]

/-- A cache with its size and its capacity. -/
def LruResolveCache.inspect (c : LruResolveCache) : String :=
  Inspect.record "LruResolveCache" [("len", toString c.size), ("cap", toString c.capacity)]

/-- A configuration with its fields. -/
def GateConfig.inspect (c : GateConfig) : String :=
  Inspect.record "GateConfig"
    [("scope_order", Inspect.list (c.scopeOrder.map ScopeKind.inspect)),
      ("claims_failure_mode", c.claimsFailureMode.inspect),
      ("strict_store", Inspect.bool c.strictStore),
      ("preserve_role_perm_order", Inspect.bool c.preserveRolePermOrder),
      ("append_system_on_failure", Inspect.bool c.appendSystemOnFailure),
      ("append_system_on_provided_chain", Inspect.bool c.appendSystemOnProvidedChain),
      ("failure_fallback_chain", c.failureFallbackChain.inspect),
      ("aliases", Inspect.dict c.aliases.entries)]

end FeatureFlags
