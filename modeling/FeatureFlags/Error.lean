import FeatureFlags.Scope.Chain

/-!
# Errors

An error has a code, a message and what is known about the place it arose at.  An error may
be raised on its own, or it may wrap the one that caused it, and so on down to the first.
The innermost cause may come from outside this library and then has no code.

`Error.rootCode` is the code of the innermost error that has one.  `Error.message` shows the
whole sequence, the outermost first.
-/

namespace FeatureFlags

/-! ## Codes -/

/-- Whose fault an error is. -/
inductive ErrorKind where
  /-- The caller gave an empty key or an incomplete scope. -/
  | badInput
  /-- A collaborator is missing or the configuration is wrong. -/
  | operation
  /-- A collaborator failed. -/
  | external
  /-- The library broke a rule of its own. -/
  | internal
deriving DecidableEq, Repr, Inhabited

/-- The name of a kind of error. -/
def ErrorKind.name : ErrorKind → String
  | badInput => "bad_input"
  | operation => "operation"
  | external => "external"
  | internal => "internal"

/-- What went wrong. -/
inductive ErrorCode where
  | featureKeyRequired
  | overrideStoreRequired
  | scopeRequired
  | scopeResolveFailed
  | storeReadFailed
  | storeWriteFailed
  | defaultLookupFailed
  | adapterFailed
  | configInvalid
  | internal
deriving DecidableEq, Repr, Inhabited

namespace ErrorCode

/-- All codes. -/
def all : List ErrorCode :=
  [featureKeyRequired, overrideStoreRequired, scopeRequired, scopeResolveFailed, storeReadFailed,
    storeWriteFailed, defaultLookupFailed, adapterFailed, configInvalid, internal]

/-- The stable name of a code. -/
def name : ErrorCode → String
  | featureKeyRequired => "FEATURE_KEY_REQUIRED"
  | overrideStoreRequired => "OVERRIDE_STORE_REQUIRED"
  | scopeRequired => "SCOPE_REQUIRED"
  | scopeResolveFailed => "SCOPE_RESOLVE_FAILED"
  | storeReadFailed => "STORE_READ_FAILED"
  | storeWriteFailed => "STORE_WRITE_FAILED"
  | defaultLookupFailed => "DEFAULT_LOOKUP_FAILED"
  | adapterFailed => "ADAPTER_FAILED"
  | configInvalid => "CONFIG_INVALID"
  | internal => "INTERNAL"

/-- The code of a name. -/
def ofName? (s : String) : Option ErrorCode := all.find? (·.name = s)

theorem ofName?_name (c : ErrorCode) : ofName? c.name = some c := by
  cases c <;> rfl

/-- Whose fault an error with this code is. -/
def kind : ErrorCode → ErrorKind
  | featureKeyRequired | scopeRequired => .badInput
  | overrideStoreRequired | configInvalid => .operation
  | scopeResolveFailed | storeReadFailed | storeWriteFailed | defaultLookupFailed
  | adapterFailed => .external
  | internal => .internal

/-- The message of an error that has none of its own. -/
def defaultText : ErrorCode → String
  | featureKeyRequired => "feature key required"
  | overrideStoreRequired => "override store not configured"
  | scopeRequired => "scope is required"
  | scopeResolveFailed => "claims resolution failed"
  | storeReadFailed => "override store read failed"
  | storeWriteFailed => "override store write failed"
  | defaultLookupFailed => "default lookup failed"
  | adapterFailed => "adapter failed"
  | configInvalid => "invalid configuration"
  | internal => "internal error"

end ErrorCode

/-! ## Errors and their causes -/

/-- What is known about the place an error arose at. -/
structure ErrorMeta where
  /-- The key that was asked for. -/
  featureKey : Option String := none
  /-- That key after normalization. -/
  normalizedKey : Option String := none
  /-- The scope that was to be written. -/
  scope : Option Scope := none
  /-- The chain that was asked. -/
  chain : Option Chain := none
  /-- The store that was asked. -/
  store : Option String := none
  /-- What was being done. -/
  operation : Option String := none
  /-- Whether a failure of the store is final. -/
  strict : Option Bool := none
deriving DecidableEq, Repr, Inhabited

/-- The place is the resolution or the change of a key. -/
def ErrorMeta.forKey (key normalized operation : String) : ErrorMeta :=
  { featureKey := some key, normalizedKey := some normalized, operation := some operation }

/-- One error without its cause. -/
structure ErrorLayer where
  /-- What went wrong. -/
  code : ErrorCode
  /-- The message. -/
  text : String
  /-- The place it arose at. -/
  place : ErrorMeta := {}
deriving DecidableEq, Repr, Inhabited

/-- The layer of a code with its own message. -/
def ErrorLayer.ofCode (code : ErrorCode) (place : ErrorMeta := {}) : ErrorLayer :=
  ⟨code, code.defaultText, place⟩

/-- A cause from outside. -/
inductive ForeignCause where
  /-- A failure with a text. -/
  | failure (text : String)
  /-- A document that cannot be read.  It has no text. -/
  | malformedDocument
deriving DecidableEq, Repr, Inhabited

/-- An error with its causes. -/
inductive Error where
  /-- An error without a cause. -/
  | raised (layer : ErrorLayer)
  /-- An error with a cause from outside. -/
  | foreign (layer : ErrorLayer) (cause : ForeignCause)
  /-- An error that another one caused. -/
  | wrapped (layer : ErrorLayer) (cause : Error)
deriving DecidableEq, Repr, Inhabited

namespace Error

/-- The error of a code, with the message of the code. -/
def ofCode (code : ErrorCode) (place : ErrorMeta := {}) : Error := raised (.ofCode code place)

/-- The error of a code, with a message of its own. -/
def withText (code : ErrorCode) (text : String) (place : ErrorMeta := {}) : Error :=
  raised ⟨code, text, place⟩

/-- The error of a code that another error caused. -/
def wrap (cause : Error) (code : ErrorCode) (place : ErrorMeta := {}) : Error :=
  wrapped (.ofCode code place) cause

/-- The failure of a collaborator. -/
def adapter (text : String) : Error := withText .adapterFailed text

/-- The configuration is a document that cannot be read. -/
def malformedConfig : Error := foreign (.ofCode .configInvalid) .malformedDocument

/-- The configuration can be read but must not be used. -/
def invalidConfig (text : String) : Error := withText .configInvalid text

/-- The outermost error without its cause. -/
def layer : Error → ErrorLayer
  | raised l | foreign l _ | wrapped l _ => l

/-- The code of the outermost error. -/
def code (e : Error) : ErrorCode := e.layer.code

/-- Whose fault the error is. -/
def kind (e : Error) : ErrorKind := e.code.kind

/-- The text of the outermost error. -/
def text (e : Error) : String := e.layer.text

/-- The place the outermost error arose at. -/
def place (e : Error) : ErrorMeta := e.layer.place

/-- The same error at another place. -/
def withPlace (place : ErrorMeta) : Error → Error
  | raised l => raised { l with place }
  | foreign l cause => foreign { l with place } cause
  | wrapped l cause => wrapped { l with place } cause

/-- The code of the innermost error that has one. -/
def rootCode : Error → ErrorCode
  | raised l | foreign l _ => l.code
  | wrapped _ cause => cause.rootCode

/-- The number of causes below the outermost error. -/
def depth : Error → Nat
  | raised _ => 0
  | foreign _ _ => 1
  | wrapped _ cause => cause.depth + 1

@[simp] theorem code_ofCode (code : ErrorCode) (place : ErrorMeta) :
    (ofCode code place).code = code := rfl

@[simp] theorem code_wrap (e : Error) (code : ErrorCode) (place : ErrorMeta) :
    (e.wrap code place).code = code := rfl

@[simp] theorem rootCode_wrap (e : Error) (code : ErrorCode) (place : ErrorMeta) :
    (e.wrap code place).rootCode = e.rootCode := rfl

@[simp] theorem depth_wrap (e : Error) (code : ErrorCode) (place : ErrorMeta) :
    (e.wrap code place).depth = e.depth + 1 := rfl

@[simp] theorem place_withPlace (e : Error) (place : ErrorMeta) :
    (e.withPlace place).place = place := by
  cases e <;> rfl

end Error

/-! ## Messages -/

/-- How one error is shown: its text and code, then the key and the operation if known. -/
def ErrorLayer.display (l : ErrorLayer) : String :=
  l.text ++ " (" ++ l.code.name ++ ")"
    ++ (match l.place.normalizedKey with | some key => " key=" ++ key | none => "")
    ++ (match l.place.operation with | some op => " op=" ++ op | none => "")

/-- How an error is shown with its causes, each after a colon. -/
def Error.message : Error → String
  | raised l => l.display
  | foreign l (.failure text) => l.display ++ ": " ++ text
  | foreign l .malformedDocument => l.display
  | wrapped l cause => l.display ++ ": " ++ cause.message

end FeatureFlags
