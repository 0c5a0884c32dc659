import FeatureFlags.Scope.Chain

/-!
# States of an override

An override stored at a scope turns a feature on or off there.  A cleared override leaves a
record behind, so "cleared" and "never written" are two states, though neither decides
anything.
-/

namespace FeatureFlags

/-- What a store knows about a feature at one scope. -/
inductive OverrideState where
  /-- Nothing was ever written. -/
  | missing
  /-- The feature is on. -/
  | enabled
  /-- The feature is off. -/
  | disabled
  /-- The override was cleared. -/
  | unset
deriving DecidableEq, Repr, Inhabited

namespace OverrideState

/-- All states. -/
def all : List OverrideState := [missing, enabled, disabled, unset]

/-- The name of a state in displays and documents. -/
def name : OverrideState → String
  | missing => "missing"
  | enabled => "enabled"
  | disabled => "disabled"
  | unset => "unset"

/-- The state of a name. -/
def ofName? (s : String) : Option OverrideState := all.find? (·.name = s)

theorem ofName?_name (s : OverrideState) : ofName? s.name = some s := by
  cases s <;> rfl

/-- The state of an override that is written. -/
def ofBool (on : Bool) : OverrideState := if on then enabled else disabled

/-- The state that a write leaves behind, a value or a cleared override. -/
def ofWrite : Option Bool → OverrideState
  | some on => ofBool on
  | none => unset

/-- The value a state decides, if it decides one. -/
def value : OverrideState → Option Bool
  | enabled => some true
  | disabled => some false
  | missing | unset => none

/-- Whether the state decides a value. -/
def hasValue (s : OverrideState) : Bool := s.value.isSome

@[simp] theorem value_ofBool (on : Bool) : (ofBool on).value = some on := by
  cases on <;> rfl

theorem ofBool_injective {a b : Bool} (h : ofBool a = ofBool b) : a = b := by
  have hvalue := congrArg value h
  rw [value_ofBool, value_ofBool] at hvalue
  exact Option.some.inj hvalue

@[simp] theorem hasValue_ofBool (on : Bool) : (ofBool on).hasValue = true := by
  rw [hasValue, value_ofBool, Option.isSome_some]

theorem eq_ofBool_of_hasValue {s : OverrideState} (h : s.hasValue = true) :
    s = ofBool (s = .enabled) := by
  cases s with
  | missing => cases h
  | enabled => rfl
  | disabled => rfl
  | unset => cases h

theorem eq_or_eq_of_hasValue {s : OverrideState} (h : s.hasValue = true) (on : Bool) :
    s = ofBool on ∨ s = ofBool !on := by
  rw [eq_ofBool_of_hasValue h]
  cases decide (s = .enabled) <;> cases on <;> simp

@[simp] theorem value_ofWrite (v : Option Bool) : (ofWrite v).value = v := by
  cases v with
  | none => rfl
  | some on => exact value_ofBool on

end OverrideState

/-- The state a store reports for one scope. -/
structure OverrideMatch where
  /-- The scope. -/
  scope : Scope
  /-- The state there. -/
  state : OverrideState
deriving DecidableEq, Repr

/-- The value the state decides, if it decides one. -/
def OverrideMatch.value (m : OverrideMatch) : Option Bool := m.state.value

end FeatureFlags
