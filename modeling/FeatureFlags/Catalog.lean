import FeatureFlags.Collection.Dict
import FeatureFlags.Error
import FeatureFlags.Log
import FeatureFlags.Text.Blank

/-!
# The catalog of features

Features are registered one after the other, each under a key of its own.  Then the registry
is frozen into a catalog, which lists the features in ascending order of their keys and serves
their defaults.  A feature is looked up by the place of its key in the list.
-/

namespace FeatureFlags

open Text (trim)

/-! ## Features -/

/-- What is known about a feature. -/
structure Feature where
  /-- The canonical key. -/
  key : String
  /-- What the feature is for. -/
  description : String
  /-- Whether the feature is on when no override decides. -/
  default : Option Bool
deriving DecidableEq, Repr, Inhabited

/-- The feature with a trimmed key, which must not be empty, and a description, which must be
given. -/
def Feature.make (key : String) (description : Option String) (default : Option Bool) :
    Except Error Feature :=
  if trim key = "" then .error (.ofCode .featureKeyRequired)
  else
    match description with
    | none => .error (.invalidConfig ("feature '" ++ trim key ++ "' has no description"))
    | some text => .ok ⟨trim key, text, default⟩

/-! ## The registry -/

/-- The features registered so far. -/
structure FeatureRegistry where
  /-- The features, the one registered last in front. -/
  features : List Feature := []
deriving DecidableEq, Repr, Inhabited

namespace FeatureRegistry

/-- The registry without features. -/
def empty : FeatureRegistry := {}

/-- The feature registered under exactly the given key. -/
def find? (r : FeatureRegistry) (key : String) : Option Feature := r.features.find? (·.key = key)

/-- Registers a feature, unless its key is taken. -/
def register (r : FeatureRegistry) (f : Feature) : Except Error FeatureRegistry :=
  if (r.find? f.key).isSome then
    .error (.invalidConfig ("feature '" ++ f.key ++ "' is already registered"))
  else .ok ⟨f :: r.features⟩

/-- The number of features. -/
def size (r : FeatureRegistry) : Nat := r.features.length

/-- Whether there is no feature. -/
def isEmpty (r : FeatureRegistry) : Bool := r.features.isEmpty

/-- The line of the log about a feature that was registered. -/
def registerRecord (f : Feature) : LogRecord where
  level := .debug
  message := "Registering feature: " ++ f.key

/-- The line of the log about a registry that is frozen. -/
def freezeRecord (r : FeatureRegistry) : LogRecord where
  level := .info
  message := "Freezing feature registry with " ++ toString r.size ++ " definitions"

end FeatureRegistry

/-! ## The catalog -/

/-- Features in ascending order of their keys. -/
structure Catalog where
  /-- The features. -/
  features : List Feature
  /-- The place of each key in the list of features. -/
  places : Dict String Nat
deriving DecidableEq, Inhabited

/-- The catalog of features in their order, in which every key is known by its place. -/
def Catalog.ofFeatures (features : List Feature) : Catalog :=
  ⟨features, .ofList (features.zipIdx.map fun (f, i) => (f.key, i))⟩

/-- The catalog of the registered features. -/
def FeatureRegistry.freeze (r : FeatureRegistry) : Catalog :=
  .ofFeatures (sortedBy (compareOn Feature.key) r.features)

namespace Catalog

/-- The feature of a key. -/
def get (c : Catalog) (key : String) : Option Feature :=
  (c.places.find? (trim key)).bind fun i => c.features[i]?

/-- The features whose keys start with a text. -/
def startingWith (c : Catalog) (text : String) : List Feature :=
  c.features.filter fun f => text.toList.isPrefixOf f.key.toList

/-- The default of a feature. -/
def defaultFor (c : Catalog) (key : String) : Option Bool := (c.get key).bind Feature.default

/-- The number of features. -/
def size (c : Catalog) : Nat := c.features.length

/-- Whether there is no feature. -/
def isEmpty (c : Catalog) : Bool := c.features.isEmpty

end Catalog

end FeatureFlags
