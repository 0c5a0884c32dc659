import FeatureFlags.Actor
import FeatureFlags.Trace

/-!
# Events

Hooks are told of every resolution, successful or not, and of every change of an override.
-/

namespace FeatureFlags

/-- A resolution that is over. -/
structure ResolveEvent where
  /-- The key that was asked for, trimmed. -/
  key : String
  /-- The canonical key. -/
  normalizedKey : String
  /-- The chain that was asked. -/
  chain : Chain
  /-- The answer. -/
  value : Bool
  /-- The layer that gave the answer. -/
  source : ResolveSource
  /-- Why it failed. -/
  error : Option Error
  /-- How it came to its answer. -/
  trace : Trace
deriving DecidableEq, Repr, Inhabited

/-- The event of a resolution with a trace, and with an error if it failed. -/
def ResolveEvent.ofTrace (t : Trace) (error : Option Error) : ResolveEvent where
  key := t.key
  normalizedKey := t.normalizedKey
  chain := t.chain
  value := t.value
  source := t.source
  error := error
  trace := t

/-- What a change does to an override. -/
inductive UpdateAction where
  /-- It is given a value. -/
  | set
  /-- It is cleared. -/
  | unset
deriving DecidableEq, Repr, Inhabited

namespace UpdateAction

/-- All actions. -/
def all : List UpdateAction := [set, unset]

/-- The name of an action. -/
def name : UpdateAction → String
  | set => "set"
  | unset => "unset"

/-- The action of a name. -/
def ofName? (s : String) : Option UpdateAction := all.find? (·.name = s)

theorem ofName?_name (a : UpdateAction) : ofName? a.name = some a := by
  cases a <;> rfl

/-- The action that writes a value, or clears it when there is none. -/
def ofWrite : Option Bool → UpdateAction
  | some _ => set
  | none => unset

theorem ofWrite_eq (value : Option Bool) :
    ofWrite value = if value.isSome then set else unset := by
  cases value <;> rfl

end UpdateAction

/-- A change of an override. -/
structure UpdateEvent where
  /-- The key that was given, trimmed. -/
  key : String
  /-- The canonical key. -/
  normalizedKey : String
  /-- The scope that was written. -/
  scope : Scope
  /-- Who wrote it. -/
  actor : Actor
  /-- What the change did. -/
  action : UpdateAction
  /-- The value that was written, or none when the override was cleared. -/
  value : Option Bool
deriving DecidableEq, Repr, Inhabited

end FeatureFlags
