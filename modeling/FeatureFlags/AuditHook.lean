import FeatureFlags.Event
import FeatureFlags.Inspect
import FeatureFlags.Log

/-!
# The audit hook

The audit hook writes every resolution and every change to the log, each with what one wants to
know of it later.  The levels of its lines can be chosen.
-/

namespace FeatureFlags

/-- The levels of the lines of an audit hook. -/
structure AuditHook where
  /-- The level of a resolution that has an answer. -/
  resolveLevel : LogLevel := .debug
  /-- The level of a change. -/
  updateLevel : LogLevel := .info
  /-- The level of a resolution that failed. -/
  errorLevel : LogLevel := .warn
deriving DecidableEq, Repr, Inhabited

namespace AuditHook

/-- The message of the lines about resolutions. -/
def resolveMessage : String := "featuregate.resolve"

/-- The message of the lines about changes. -/
def updateMessage : String := "featuregate.update"

/-- The line about a resolution. -/
def resolveRecord (h : AuditHook) (event : ResolveEvent) : LogRecord :=
  match event.error with
  | some e => ⟨h.errorLevel, resolveMessage,
      [("key", event.normalizedKey), ("chain", Chain.display event.chain), ("code", e.code.name),
        ("error", e.message)]⟩
  | none => ⟨h.resolveLevel, resolveMessage,
      [("key", event.normalizedKey), ("value", Inspect.bool event.value),
        ("source", event.source.name), ("cache_hit", Inspect.bool event.trace.cacheHit),
        ("matched", Inspect.option Scope.inspect event.trace.overrides.scope),
        ("chain", Chain.display event.chain)]⟩

/-- The line about a change. -/
def updateRecord (h : AuditHook) (event : UpdateEvent) : LogRecord where
  level := h.updateLevel
  message := updateMessage
  fields := [("key", event.normalizedKey), ("scope", event.scope.display),
    ("action", event.action.name), ("value", Inspect.option Inspect.bool event.value),
    ("actor_id", event.actor.id), ("actor_type", event.actor.sort)]

/-- Whether a line of the log is one that an audit hook writes. -/
def wrote (r : LogRecord) : Bool := r.message = resolveMessage || r.message = updateMessage

end AuditHook

end FeatureFlags
