import FeatureFlags.Error
import FeatureFlags.Strategy.Basic

/-!
# Traces

A trace tells how a resolution came to its answer: the chain that was asked, which overrides
decided, whether the defaults were asked and what they said, and whether the answer is a
repetition of an earlier one.
-/

namespace FeatureFlags

/-- Which layer gave the answer. -/
inductive ResolveSource where
  /-- A stored override. -/
  | override
  /-- A configured default. -/
  | default
  /-- Neither, so the feature is off. -/
  | fallback
deriving DecidableEq, Repr, Inhabited

namespace ResolveSource

/-- All sources. -/
def all : List ResolveSource := [override, default, fallback]

/-- The name of a source. -/
def name : ResolveSource → String
  | override => "override"
  | default => "default"
  | fallback => "fallback"

/-- The source of a name. -/
def ofName? (s : String) : Option ResolveSource := all.find? (·.name = s)

theorem ofName?_name (s : ResolveSource) : ofName? s.name = some s := by
  cases s <;> rfl

end ResolveSource

/-- What happens when the claims of the actor are not to be had. -/
inductive ClaimsFailureMode where
  /-- A fallback chain is asked. -/
  | failOpen
  /-- The resolution fails. -/
  | failClosed
deriving DecidableEq, Repr, Inhabited

namespace ClaimsFailureMode

/-- All modes. -/
def all : List ClaimsFailureMode := [failOpen, failClosed]

/-- The name of a mode. -/
def name : ClaimsFailureMode → String
  | failOpen => "fail_open"
  | failClosed => "fail_closed"

/-- The mode of a name. -/
def ofName? (s : String) : Option ClaimsFailureMode := all.find? (·.name = s)

theorem ofName?_name (m : ClaimsFailureMode) : ofName? m.name = some m := by
  cases m <;> rfl

end ClaimsFailureMode

/-- What the overrides said. -/
structure OverrideTrace extends Decision where
  /-- The legacy key under which the deciding override is stored. -/
  «alias» : Option String := none
  /-- Why the overrides could not be asked. -/
  error : Option Error := none
deriving DecidableEq, Repr, Inhabited

/-- What is configured for a feature as its default. -/
structure DefaultResult where
  /-- Whether a default is configured. -/
  isSet : Bool := false
  /-- The default, which counts only if it is configured. -/
  value : Bool := false
deriving DecidableEq, Repr, Inhabited

namespace DefaultResult

/-- No default is configured. -/
def unset : DefaultResult := {}

/-- A default is configured. -/
def of (value : Bool) : DefaultResult := ⟨true, value⟩

/-- The given default is configured, if there is one. -/
def ofOption (value : Option Bool) : DefaultResult := value.elim unset of

end DefaultResult

/-- What the defaults said. -/
structure DefaultTrace extends DefaultResult where
  /-- Whether the defaults were asked. -/
  checked : Bool := false
  /-- Why the defaults could not be asked. -/
  error : Option Error := none
deriving DecidableEq, Repr, Inhabited

/-- How a resolution came to its answer. -/
structure Trace where
  /-- The key that was asked for, trimmed. -/
  key : String
  /-- The canonical key. -/
  normalizedKey : String
  /-- The chain that was asked. -/
  chain : Chain := []
  /-- The answer. -/
  value : Bool := false
  /-- The layer that gave the answer. -/
  source : ResolveSource := .fallback
  /-- What the overrides said. -/
  overrides : OverrideTrace := {}
  /-- What the defaults said. -/
  defaults : DefaultTrace := {}
  /-- Whether the answer repeats an earlier one. -/
  cacheHit : Bool := false
  /-- The name of the strategy. -/
  strategy : String := ""
  /-- What would have happened without claims. -/
  claimsFailureMode : ClaimsFailureMode := .failOpen
deriving DecidableEq, Repr, Inhabited

/-- The first failure of a layer. -/
def Trace.error (t : Trace) : Option Error := t.overrides.error <|> t.defaults.error

end FeatureFlags
