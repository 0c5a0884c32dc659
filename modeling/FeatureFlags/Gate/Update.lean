import FeatureFlags.Gate.Resolve

/-!
# Changes

A change writes one override, or clears it, at exactly one scope.  It is written under the
canonical key first and then under every legacy key of it, in ascending order.

A change needs a key, a scope with the identifier its kind needs, and someone to write it; the
first of these that is missing is the error.  When the write under the canonical key fails,
nothing has happened.  When a later one fails, no more are tried, and the change counts as done
but the failure is its result.

A change that counts as done makes the gate forget every kept answer, is written to the log,
and is told to every activity hook.
-/

namespace FeatureFlags

namespace Gate

/-- A change of an override. -/
structure Change where
  /-- The canonical key. -/
  key : String
  /-- The scope that is written. -/
  scope : Scope
  /-- The value that is written, or none when the override is cleared. -/
  value : Option Bool
  /-- Who writes it. -/
  actor : Actor
deriving DecidableEq, Repr, Inhabited

/-! ## Writes -/

/-- The change is written under one key. -/
def writeKey (writer : OverrideWriter) (store : OverrideStore) (c : Change) (key : String) :
    Observed (Except Error OverrideStore) := do
  .ask (.writeOverride key c.scope c.value)
  match writer.write store key c.scope c.value c.actor with
  | .error e => pure (.error e)
  | .ok store => do
    .all ((writer.records key c.scope c.value).map .logged)
    pure (.ok store)

/-- The change is written under some legacy keys up to the first failure.  The result is the
store after the writes that went through, and the failure. -/
def writeAliases (writer : OverrideWriter) (c : Change) :
    OverrideStore → List String → Observed (OverrideStore × Option Error)
  | store, [] => pure (store, none)
  | store, legacy :: rest => do
    match ← writeKey writer store c legacy with
    | .ok store => writeAliases writer c store rest
    | .error e => do
      .log ⟨.warn, "alias override write failed",
        [("key", c.key), ("alias", legacy), ("error", e.message)]⟩
      pure (store, some e)

/-! ## The end of a change -/

/-- Every activity hook is told of a change. -/
def tellUpdate (g : Gate) (event : UpdateEvent) : Observed Unit :=
  .all (g.collaborators.activityHooks.zipIdx.flatMap fun (hook, i) =>
    .toldUpdate i event :: (hook event).map .logged)

/-- The line of the log about a change that counts as done. -/
def updateRecord (event : UpdateEvent) : LogRecord where
  level := .info
  message := "feature override updated"
  fields := [("key", event.normalizedKey), ("scope", event.scope.display),
    ("action", event.action.name), ("value", Inspect.option Inspect.bool event.value),
    ("actor", event.actor.id)]

/-! ## Changes -/

/-- The place of the errors of a change before its scope is known. -/
def updatePlace (g : Gate) (key : String) (value : Option Bool) : ErrorMeta :=
  .forKey (Text.trim key) (g.aliases.normalize key) (UpdateAction.ofWrite value).name

/-- The place of the errors of a change that is written. -/
def writePlace (g : Gate) (key : String) (scope : Scope) (value : Option Bool) : ErrorMeta :=
  { g.updatePlace key value with scope := some scope, store := some "override" }

/-- The change and its writer, unless something is missing. -/
def prepare (g : Gate) (key : String) (scope : Scope) (value : Option Bool) (actor : Actor) :
    Except Error (Change × OverrideWriter) :=
  let place := g.updatePlace key value
  let normalized := g.aliases.normalize key
  let scope := g.policy.normalizeScope scope
  let placed := { place with scope := some scope }
  if normalized = "" then .error (.ofCode .featureKeyRequired place)
  else if !scope.hasRequiredIds then
    .error (.withText .scopeRequired (scope.kind.name ++ " scope requires an identifier") placed)
  else
    match g.collaborators.writer with
    | none => .error (.ofCode .overrideStoreRequired placed)
    | some writer => .ok (⟨normalized, scope, value, actor⟩, writer)

/-- Writes an override, or clears it when there is no value.  The result says whether every
write went through, and comes with the state after it. -/
def update (g : Gate) (s : GateState) (key : String) (scope : Scope) (value : Option Bool)
    (actor : Actor) : Observed (Except Error Unit × GateState) := do
  match g.prepare key scope value actor with
  | .error e => pure (.error e, s)
  | .ok (c, writer) =>
    let failed (e : Error) := e.wrap .storeWriteFailed (g.writePlace key c.scope value)
    match ← writeKey writer s.store c c.key with
    | .error e => pure (.error (failed e), s)
    | .ok store => do
      let (store, failure) ← writeAliases writer c store (g.aliases.aliasesFor c.key)
      let event : UpdateEvent := ⟨Text.trim key, c.key, c.scope, c.actor, .ofWrite c.value, c.value⟩
      .log (updateRecord event)
      g.tellUpdate event
      pure (failure.elim (.ok ()) (.error ∘ failed), ⟨store, s.cache.clear⟩)

/-- Writes a value. -/
def set (g : Gate) (s : GateState) (key : String) (scope : Scope) (on : Bool) (actor : Actor) :
    Observed (Except Error Unit × GateState) :=
  g.update s key scope (some on) actor

/-- Clears an override. -/
def unset (g : Gate) (s : GateState) (key : String) (scope : Scope) (actor : Actor) :
    Observed (Except Error Unit × GateState) :=
  g.update s key scope none actor

end Gate

end FeatureFlags
