import FeatureFlags.AliasTable
import FeatureFlags.ChainPolicy
import FeatureFlags.Json.Value
import FeatureFlags.Wire

/-!
# The configuration of a gate

A configuration says how chains are derived, what happens when a collaborator fails, and which
keys are legacy keys.  Every field has a default, so a document may leave out any of them.

A configuration is accepted when every scope of the fallback chain has the identifier its kind
needs.
-/

namespace FeatureFlags

/-- How a gate resolves. -/
structure GateConfig where
  /-- The order of kinds, in chains and in the comparison of overrides. -/
  scopeOrder : List ScopeKind := ChainPolicy.defaultOrder
  /-- What happens when the claims of the actor are not to be had. -/
  claimsFailureMode : ClaimsFailureMode := .failOpen
  /-- Whether a failure of the override store is final. -/
  strictStore : Bool := false
  /-- Whether roles and permissions stay in the order in which they are held. -/
  preserveRolePermOrder : Bool := false
  /-- Whether the system is put at the end of the fallback chain. -/
  appendSystemOnFailure : Bool := true
  /-- Whether the system is put at the end of a chain that is given. -/
  appendSystemOnProvidedChain : Bool := false
  /-- The chain that is asked when the claims are not to be had. -/
  failureFallbackChain : Chain := []
  /-- The canonical key of each legacy key. -/
  aliases : Dict String String := ∅
deriving DecidableEq, Inhabited

namespace GateConfig

/-- The legacy keys of the configuration. -/
def aliasTable (c : GateConfig) : AliasTable := .ofPairs c.aliases.entries

/-- The policy for chains of the configuration, with a spelling rule of the host. -/
def chainPolicy (c : GateConfig) (normalizer : Normalizer) : ChainPolicy :=
  .make c.scopeOrder c.preserveRolePermOrder normalizer

/-- The first scope of the fallback chain that lacks an identifier. -/
def incompleteScope? (c : GateConfig) : Option Scope :=
  c.failureFallbackChain.find? fun s => !s.hasRequiredIds

/-- The configuration in which every field has its default is accepted. -/
theorem incompleteScope?_default : ({} : GateConfig).incompleteScope? = none := rfl

/-- The error about a scope of the fallback chain that lacks an identifier. -/
def incompleteError (s : Scope) : Error :=
  .invalidConfig ("failure fallback scope '" ++ s.kind.name ++ "' has no identifier")

/-- The configuration itself, if it is accepted. -/
def validate (c : GateConfig) : Except Error GateConfig :=
  match c.incompleteScope? with
  | none => .ok c
  | some s => .error (incompleteError s)

/-! ## Documents -/

/-- The pairs of legacy and canonical keys as a document writes them. -/
def encodeAliases (aliases : Dict String String) : Json :=
  .obj (aliases.entries.map fun e => (e.1, .str e.2))

/-- A configuration as a document writes it. -/
def encode (c : GateConfig) : Json :=
  .obj [("scopeOrder", .arr (c.scopeOrder.map ScopeKind.encode)),
    ("claimsFailureMode", c.claimsFailureMode.encode),
    ("strictStore", .bool c.strictStore),
    ("preserveRolePermOrder", .bool c.preserveRolePermOrder),
    ("appendSystemOnFailure", .bool c.appendSystemOnFailure),
    ("appendSystemOnProvidedChain", .bool c.appendSystemOnProvidedChain),
    ("failureFallbackChain", c.failureFallbackChain.encode),
    ("aliases", encodeAliases c.aliases)]

/-- The names of the fields in the order of their declaration. -/
def fieldNames : List String :=
  ["scopeOrder", "claimsFailureMode", "strictStore", "preserveRolePermOrder",
    "appendSystemOnFailure", "appendSystemOnProvidedChain", "failureFallbackChain", "aliases"]

open JsonTree

variable {τ : Type} [JsonText τ]

/-- Reads the pairs of legacy and canonical keys, of which the last one of a legacy key
counts. -/
def decodeAliases? (t : JsonTree τ) : Option (Dict String String) :=
  (t.entries? text?).map Dict.ofList

/-- Reads a configuration. -/
def decode? (t : JsonTree τ) : Option GateConfig := do
  let fields ← t.fields? fieldNames
  let dflt : GateConfig := {}
  let scopeOrder ← optional? fields "scopeOrder" (list? ScopeKind.decode?) dflt.scopeOrder
  let claimsFailureMode ←
    optional? fields "claimsFailureMode" ClaimsFailureMode.decode? dflt.claimsFailureMode
  let strictStore ← optional? fields "strictStore" bool? dflt.strictStore
  let preserveRolePermOrder ←
    optional? fields "preserveRolePermOrder" bool? dflt.preserveRolePermOrder
  let appendSystemOnFailure ←
    optional? fields "appendSystemOnFailure" bool? dflt.appendSystemOnFailure
  let appendSystemOnProvidedChain ←
    optional? fields "appendSystemOnProvidedChain" bool? dflt.appendSystemOnProvidedChain
  let failureFallbackChain ←
    optional? fields "failureFallbackChain" Chain.decode? dflt.failureFallbackChain
  let aliases ← optional? fields "aliases" decodeAliases? dflt.aliases
  return ⟨scopeOrder, claimsFailureMode, strictStore, preserveRolePermOrder,
    appendSystemOnFailure, appendSystemOnProvidedChain, failureFallbackChain, aliases⟩

/-- The accepted configuration of a tree. -/
def ofTree (t : JsonTree τ) : Except Error GateConfig :=
  match decode? t with
  | none => .error .malformedConfig
  | some c => c.validate

/-- The accepted configuration of a text. -/
def ofText (text : String) : Except Error GateConfig :=
  match JsonDocument.ofText? text with
  | none => .error .malformedConfig
  | some t => ofTree t

end GateConfig

end FeatureFlags
