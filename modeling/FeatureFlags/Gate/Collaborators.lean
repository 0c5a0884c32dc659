import FeatureFlags.Catalog
import FeatureFlags.Context
import FeatureFlags.DefaultTable
import FeatureFlags.Event
import FeatureFlags.Log
import FeatureFlags.OverrideStore
import FeatureFlags.Strategy.Basic

/-!
# The collaborators of a gate

A gate asks others for what it does not know: who the actor is, which overrides are stored,
and which defaults are configured.  Each may fail.  A reader and a writer work on the override
store that the gate is run with, and a write that fails leaves that store as it was.

Hooks are told of what a gate does.  What a hook does with it is seen in the log only.
-/

namespace FeatureFlags

/-- Reads the states of a key at the scopes of a chain. -/
abbrev OverrideReader := OverrideStore → String → Chain → Except Error (List OverrideMatch)

/-- The reader that gives what is in the store. -/
def OverrideReader.ofStore : OverrideReader := fun store key chain => .ok (store.getAll key chain)

/-- Writes overrides. -/
structure OverrideWriter where
  /-- The store after a write, which clears the override when there is no value. -/
  write : OverrideStore → String → Scope → Option Bool → Actor → Except Error OverrideStore
  /-- What a write that goes through leaves in the log. -/
  records : String → Scope → Option Bool → List LogRecord

/-- The writer that writes to the store. -/
def OverrideWriter.ofStore : OverrideWriter where
  write := OverrideStore.write
  records key scope value := [OverrideStore.writeRecord key scope value]

/-- Finds out who the actor is. -/
abbrev ClaimsProvider := Context → Except Error Claims

/-- The provider that takes the claims from the context.  Without any, the actor is
anonymous. -/
def ClaimsProvider.ofContext : ClaimsProvider := fun context => .ok (context.claims.getD {})

/-- Finds out which further permissions an actor holds. -/
abbrev PermissionProvider := Context → Claims → Except Error (List String)

/-- What is configured for a key as its default. -/
abbrev Defaults := String → Except Error DefaultResult

/-- No key has a default. -/
def Defaults.none : Defaults := fun _ => .ok .unset

/-- The defaults of a table. -/
def Defaults.ofTable (t : DefaultTable) : Defaults := fun key => .ok (.ofOption (t.get key))

/-- The defaults of a catalog. -/
def Defaults.ofCatalog (c : Catalog) : Defaults := fun key => .ok (.ofOption (c.defaultFor key))

/-- Is told of resolutions, and says what it leaves in the log. -/
abbrev ResolveHook := ResolveEvent → List LogRecord

/-- Is told of changes, and says what it leaves in the log. -/
abbrev ActivityHook := UpdateEvent → List LogRecord

/-- Everyone a gate works with. -/
structure Collaborators where
  /-- Reads overrides, if there are any. -/
  reader : Option OverrideReader := none
  /-- Writes overrides, if they may be written. -/
  writer : Option OverrideWriter := none
  /-- Finds out who the actor is. -/
  claims : ClaimsProvider := .ofContext
  /-- Finds out which further permissions the actor holds, if anyone does. -/
  permissions : Option PermissionProvider := none
  /-- Knows the defaults. -/
  defaults : Defaults := .none
  /-- Decides which override counts. -/
  strategy : Strategy := .restrictive
  /-- Are told of resolutions, in their order. -/
  resolveHooks : List ResolveHook := []
  /-- Are told of changes, in their order. -/
  activityHooks : List ActivityHook := []

end FeatureFlags
