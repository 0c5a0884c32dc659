/-!
# Log records

A record has a level, a message and named fields whose values are texts.  A record passes a
filter when it is at least as grave as the filter asks.
-/

namespace FeatureFlags

/-- How grave a record is. -/
inductive LogLevel where
  | error
  | warn
  | info
  | debug
  | trace
deriving DecidableEq, Repr, Inhabited

namespace LogLevel

/-- All levels, the gravest first. -/
def all : List LogLevel := [error, warn, info, debug, trace]

/-- The name of a level. -/
def name : LogLevel → String
  | error => "error"
  | warn => "warn"
  | info => "info"
  | debug => "debug"
  | trace => "trace"

/-- The level of a name. -/
def ofName? (s : String) : Option LogLevel := all.find? (·.name = s)

theorem ofName?_name (l : LogLevel) : ofName? l.name = some l := by
  cases l <;> rfl

/-- The place of a level in the order, the gravest first. -/
def rank : LogLevel → Nat
  | error => 0
  | warn => 1
  | info => 2
  | debug => 3
  | trace => 4

end LogLevel

/-- One line of the log. -/
structure LogRecord where
  /-- How grave it is. -/
  level : LogLevel
  /-- What happened. -/
  message : String
  /-- What it happened to, each with its name. -/
  fields : List (String × String) := []
deriving DecidableEq, Repr, Inhabited

/-- Whether a record is at least as grave as the given level. -/
def LogRecord.reaches (r : LogRecord) (limit : LogLevel) : Bool := r.level.rank ≤ limit.rank

end FeatureFlags
