import FeatureFlags.Error
import FeatureFlags.Log
import FeatureFlags.Text.Blank
import FeatureFlags.Text.Inspect

/-!
# Guards

A guard lets a caller pass when a feature is on.  It asks for the key of the feature and then
for its fallback keys, until one of them is on or cannot be resolved.  When all are off the
caller is turned away, with a message of the host if there is one.
-/

namespace FeatureFlags

open Text (trim)

/-- Why a caller is turned away. -/
inductive Rejection where
  /-- The feature and its fallback keys are off. -/
  | disabled (key : String)
  /-- The host has its own words for it. -/
  | message (text : String)
  /-- The feature cannot be resolved. -/
  | gate (error : Error)
deriving DecidableEq, Repr, Inhabited

namespace Rejection

/-- How a rejection is shown. -/
def display : Rejection → String
  | disabled key => if key = "" then "feature disabled" else "feature disabled: " ++ key
  | message text => text
  | gate e => "feature gate error: " ++ e.message

/-- Whether an error is the cause of the rejection. -/
def hasCause : Rejection → Bool
  | gate _ => true
  | _ => false

end Rejection

/-- What a guard does beyond asking for its key. -/
structure GuardOptions where
  /-- The keys that let a caller pass as well. -/
  fallbackKeys : List String := []
  /-- What the caller is told when all keys are off. -/
  disabledMessage : Option String := none
  /-- What the caller is told when a key cannot be resolved. -/
  errorMapper : Option (Error → Rejection) := none

namespace GuardOptions

/-- What the caller is told when a key cannot be resolved. -/
def ofError (o : GuardOptions) (e : Error) : Rejection :=
  match o.errorMapper with
  | some mapper => mapper e
  | none => .gate e

/-- What the caller is told when all keys are off. -/
def ofDisabled (o : GuardOptions) (key : String) : Rejection :=
  match o.disabledMessage with
  | some text => .message text
  | none => .disabled (trim key)

/-- The outcome of a guard, given the last answer it got. -/
def judge (o : GuardOptions) (key : String) : Except Error Bool → Except Rejection Unit
  | .ok true => .ok ()
  | .ok false => .error (o.ofDisabled key)
  | .error e => .error (o.ofError e)

/-- The options with their settings. -/
def inspect (o : GuardOptions) : String :=
  Inspect.record "RequireOpts"
    [("fallback_keys", Inspect.list (o.fallbackKeys.map Inspect.text)),
      ("disabled_message", Inspect.option Inspect.text o.disabledMessage),
      ("error_mapper", Inspect.bool o.errorMapper.isSome)]

end GuardOptions

namespace Guard

variable {m : Type → Type} [Monad m]

/-- The first answer other than "off", or "off" when there is no other. -/
def firstAnswer (enabled : String → m (Except Error Bool)) : List String → m (Except Error Bool)
  | [] => pure (.ok false)
  | key :: rest => do
    match ← enabled key with
    | .ok false => firstAnswer enabled rest
    | answer => pure answer

/-- The line of the log about a caller who is turned away because all keys are off. -/
def rejectionRecord (key : String) : LogRecord where
  level := .debug
  message := "feature guard rejected"
  fields := [("key", key)]

/-- Lets the caller pass when the key or a fallback key is on.  That all are off is written to
the log. -/
def require (enabled : String → m (Except Error Bool)) (log : LogRecord → m Unit) (key : String)
    (o : GuardOptions) : m (Except Rejection Unit) := do
  let answer ← firstAnswer enabled (key :: o.fallbackKeys)
  match answer with
  | .ok false => log (rejectionRecord key)
  | _ => pure ()
  return o.judge key answer

end Guard

end FeatureFlags
