import FeatureFlags.Event
import FeatureFlags.Json.Decode

/-!
# Values in documents

How scopes, chains, claims, actors and states are written in a document, and how they are read
back.  The identifiers of a scope and all claims may be left out when they are empty.  The
fields of an actor and of a match may not.
-/

namespace FeatureFlags

open JsonTree

variable {τ : Type} [JsonText τ]

/-- An array of texts. -/
def Json.ofTexts (texts : List String) : Json := .arr (texts.map .str)

/-! ## Names -/

namespace ScopeKind

/-- A kind as a document writes it. -/
def encode (k : ScopeKind) : Json := .str k.name

/-- Reads a kind. -/
def decode? (t : JsonTree τ) : Option ScopeKind := t.name? ofName?

end ScopeKind

namespace OverrideState

/-- A state as a document writes it. -/
def encode (s : OverrideState) : Json := .str s.name

/-- Reads a state. -/
def decode? (t : JsonTree τ) : Option OverrideState := t.name? ofName?

end OverrideState

namespace ResolveSource

/-- A source as a document writes it. -/
def encode (s : ResolveSource) : Json := .str s.name

/-- Reads a source. -/
def decode? (t : JsonTree τ) : Option ResolveSource := t.name? ofName?

end ResolveSource

namespace ClaimsFailureMode

/-- A mode as a document writes it. -/
def encode (m : ClaimsFailureMode) : Json := .str m.name

/-- Reads a mode. -/
def decode? (t : JsonTree τ) : Option ClaimsFailureMode := t.name? ofName?

end ClaimsFailureMode

namespace UpdateAction

/-- An action as a document writes it. -/
def encode (a : UpdateAction) : Json := .str a.name

/-- Reads an action. -/
def decode? (t : JsonTree τ) : Option UpdateAction := t.name? ofName?

end UpdateAction

/-! ## Records -/

namespace Scope

/-- A scope as a document writes it. -/
def encode (s : Scope) : Json :=
  .obj [("kind", s.kind.encode), ("id", .str s.id), ("tenantId", .str s.tenantId),
    ("orgId", .str s.orgId)]

/-- Reads a scope. -/
def decode? (t : JsonTree τ) : Option Scope := do
  let fields ← t.fields? ["kind", "id", "tenantId", "orgId"]
  let kind ← required? fields "kind" ScopeKind.decode?
  let id ← optional? fields "id" text? ""
  let tenantId ← optional? fields "tenantId" text? ""
  let orgId ← optional? fields "orgId" text? ""
  return { kind, id, tenantId, orgId }

end Scope

namespace Chain

/-- A chain as a document writes it. -/
def encode (c : Chain) : Json := .arr (c.map Scope.encode)

/-- Reads a chain. -/
def decode? (t : JsonTree τ) : Option Chain := t.list? Scope.decode?

end Chain

namespace Claims

/-- Claims as a document writes them. -/
def encode (c : Claims) : Json :=
  .obj [("subjectId", .str c.subjectId), ("tenantId", .str c.tenantId), ("orgId", .str c.orgId),
    ("roles", Json.ofTexts c.roles), ("perms", Json.ofTexts c.perms)]

/-- Reads claims. -/
def decode? (t : JsonTree τ) : Option Claims := do
  let fields ← t.fields? ["subjectId", "tenantId", "orgId", "roles", "perms"]
  let subjectId ← optional? fields "subjectId" text? ""
  let tenantId ← optional? fields "tenantId" text? ""
  let orgId ← optional? fields "orgId" text? ""
  let roles ← optional? fields "roles" (list? text?) []
  let perms ← optional? fields "perms" (list? text?) []
  return { subjectId, tenantId, orgId, roles, perms }

end Claims

namespace Actor

/-- An actor as a document writes it. -/
def encode (a : Actor) : Json :=
  .obj [("id", .str a.id), ("type", .str a.sort), ("name", .str a.name)]

/-- Reads an actor. -/
def decode? (t : JsonTree τ) : Option Actor := do
  let fields ← t.fields? ["id", "type", "name"]
  let id ← required? fields "id" text?
  let sort ← required? fields "type" text?
  let name ← required? fields "name" text?
  return { id, sort, name }

end Actor

namespace OverrideMatch

/-- A match as a document writes it. -/
def encode (m : OverrideMatch) : Json :=
  .obj [("scope", m.scope.encode), ("state", m.state.encode)]

/-- Reads a match. -/
def decode? (t : JsonTree τ) : Option OverrideMatch := do
  let fields ← t.fields? ["scope", "state"]
  let scope ← required? fields "scope" Scope.decode?
  let state ← required? fields "state" OverrideState.decode?
  return { scope, state }

end OverrideMatch

end FeatureFlags
