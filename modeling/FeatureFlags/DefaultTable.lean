import FeatureFlags.AliasTable
import FeatureFlags.Error
import FeatureFlags.Json.Value
import FeatureFlags.Log

/-!
# Configured defaults

A default says whether a feature is on when no override decides.  The table gets its entries
from a list of keys and values, or from a nested JSON object.  There the names along the way
to a leaf, joined with a delimiter, are the key.  A truth value is a default, null says that
the feature has none, and any other leaf is passed over.

A legacy key stands for its canonical key, and an entry whose key comes out empty is passed
over.
-/

namespace FeatureFlags

open Text (trim)

/-! ## Leaves of a value -/

namespace Json

/-- The path of a member behind the path of its object. -/
def joinPath (delimiter path name : String) : String :=
  if path = "" then name else path ++ delimiter ++ name

mutual

/-- The leaves of a value that stands at a path, each with its own path. -/
def leaves (delimiter path : String) : Json → List (String × Json)
  | .obj members => memberLeaves delimiter path members
  | .null => [(path, .null)]
  | .bool b => [(path, .bool b)]
  | .num n => [(path, .num n)]
  | .str s => [(path, .str s)]
  | .arr items => [(path, .arr items)]

/-- The leaves of the members of an object that stands at a path. -/
def memberLeaves (delimiter path : String) : List (String × Json) → List (String × Json)
  | [] => []
  | (name, v) :: rest =>
    leaves delimiter (joinPath delimiter path name) v ++ memberLeaves delimiter path rest

end

/-- What a leaf says about a default, if it says anything. -/
def asDefault? : Json → Option (Option Bool)
  | .bool b => some (some b)
  | .null => some none
  | _ => none

end Json

/-! ## The table -/

/-- The default of each feature that has an entry, which may say that there is none. -/
structure DefaultTable where
  /-- The entries. -/
  entries : Dict String (Option Bool)
deriving DecidableEq, Inhabited

namespace DefaultTable

/-- The table without entries. -/
def empty : DefaultTable := ⟨∅⟩

/-- The delimiter of paths unless another one is given. -/
def defaultDelimiter : String := "."

/-- Adds an entry, unless its key comes out empty. -/
def add (aliases : AliasTable) (t : DefaultTable) (key : String) (value : Option Bool) :
    DefaultTable :=
  let k := aliases.normalize key
  if k = "" then t else ⟨t.entries.insert k value⟩

/-- The table of keys and values, added in their order. -/
def ofBools (values : List (String × Bool)) (aliases : AliasTable) : DefaultTable :=
  values.foldl (fun t e => t.add aliases e.1 (some e.2)) empty

/-- The table of the leaves of a value. -/
def ofLeaves (aliases : AliasTable) (leaves : List (String × Json)) : DefaultTable :=
  leaves.foldl (fun t e => e.2.asDefault?.elim t (t.add aliases e.1)) empty

/-- The table of a value, which has to be an object. -/
def ofJson (v : Json) (delimiter : String) (aliases : AliasTable) : Except Error DefaultTable :=
  match v with
  | .obj members => .ok (ofLeaves aliases (Json.memberLeaves delimiter "" members))
  | _ => .error (.invalidConfig "defaults must be a JSON object")

/-- The table of the value that a text writes. -/
def ofText (text delimiter : String) (aliases : AliasTable) : Except Error DefaultTable :=
  match Json.ofText? text with
  | none => .error .malformedConfig
  | some v => ofJson v delimiter aliases

/-- The default of a feature. -/
def get (t : DefaultTable) (key : String) : Option Bool := (t.entries.find? (trim key)).join

/-- The number of entries. -/
def size (t : DefaultTable) : Nat := t.entries.size

/-- Whether there is no entry. -/
def isEmpty (t : DefaultTable) : Bool := t.entries.isEmpty

/-! ## The log -/

/-- The paths of the leaves of an object that say nothing about a default. -/
def ignoredPaths (v : Json) (delimiter : String) : List String :=
  match v with
  | .obj members =>
    ((Json.memberLeaves delimiter "" members).filter fun e => e.2.asDefault?.isNone).map Prod.fst
  | _ => []

/-- The line of the log about a leaf that says nothing about a default. -/
def ignoredRecord (path : String) : LogRecord where
  level := .debug
  message := "ignoring non-boolean default at '" ++ path ++ "'"

/-- The log of reading a table off a value. -/
def readRecords (v : Json) (delimiter : String) : List LogRecord :=
  (ignoredPaths v delimiter).map ignoredRecord

/-- The log of reading a table off a text. -/
def readTextRecords (text delimiter : String) : List LogRecord :=
  (Json.ofText? text).elim [] fun v => readRecords v delimiter

end DefaultTable

end FeatureFlags
