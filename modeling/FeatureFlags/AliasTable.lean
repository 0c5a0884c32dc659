import FeatureFlags.Collection.Dict
import FeatureFlags.Text.Blank

/-!
# Legacy keys

A feature that was renamed is still known under its legacy keys.  The table sends a legacy
key to the canonical key of the feature, and the canonical key back to its legacy keys in
ascending order.

Keys count without blank characters around them.  A pair with an empty key, or of a key with
itself, is passed over.  A legacy key belongs to one canonical key; giving it another moves
it.
-/

namespace FeatureFlags

open Text (trim)

/-- Legacy keys and their canonical keys, in both directions. -/
structure AliasTable where
  /-- The canonical key of each legacy key. -/
  canonicalOf : Dict String String
  /-- The legacy keys of each canonical key, in ascending order. -/
  aliasesOf : Dict String (List String)
deriving DecidableEq, Inhabited

namespace AliasTable

/-- The table without legacy keys. -/
def empty : AliasTable := ⟨∅, ∅⟩

/-- The legacy keys of a canonical key that is already trimmed. -/
def listed (t : AliasTable) (canonical : String) : List String :=
  (t.aliasesOf.find? canonical).getD []

/-- The table without the place of a legacy key in the list of its canonical key. -/
def unlist (t : AliasTable) (legacy : String) : AliasTable :=
  match t.canonicalOf.find? legacy with
  | none => t
  | some previous =>
    { t with aliasesOf := t.aliasesOf.insert previous ((t.listed previous).filter (· ≠ legacy)) }

/-- Makes a key the legacy key of another one. -/
def link (t : AliasTable) (legacy canonical : String) : AliasTable :=
  let rest := t.unlist legacy
  { canonicalOf := t.canonicalOf.insert legacy canonical
    aliasesOf := rest.aliasesOf.insert canonical (sorted (rest.listed canonical ++ [legacy])) }

/-- Whether a pair of trimmed keys says anything. -/
def Effective (legacy canonical : String) : Prop :=
  legacy ≠ "" ∧ canonical ≠ "" ∧ legacy ≠ canonical

instance (legacy canonical : String) : Decidable (Effective legacy canonical) :=
  inferInstanceAs (Decidable (_ ∧ _ ∧ _))

/-- Makes a key the legacy key of another one, unless the pair says nothing. -/
def insert (t : AliasTable) (legacy canonical : String) : AliasTable :=
  if Effective (trim legacy) (trim canonical) then t.link (trim legacy) (trim canonical) else t

/-- The table of pairs of a legacy and a canonical key, inserted in their order. -/
def ofPairs (pairs : List (String × String)) : AliasTable :=
  pairs.foldl (fun t p => t.insert p.1 p.2) empty

/-- The number of legacy keys. -/
def size (t : AliasTable) : Nat := t.canonicalOf.size

/-- Whether there is no legacy key. -/
def isEmpty (t : AliasTable) : Bool := t.canonicalOf.isEmpty

/-- The canonical key of a key, which is the trimmed key itself unless that is a legacy key. -/
def normalize (t : AliasTable) (key : String) : String :=
  (t.canonicalOf.find? (trim key)).getD (trim key)

/-- The canonical key of a key, and whether it differs from the key. -/
def resolve (t : AliasTable) (key : String) : String × Bool :=
  let normalized := t.normalize key
  (normalized, normalized ≠ "" && normalized ≠ trim key)

/-- Whether a key is a legacy key. -/
def isAlias (t : AliasTable) (key : String) : Bool := t.canonicalOf.contains (trim key)

/-- The legacy keys of a canonical key, in ascending order. -/
def aliasesFor (t : AliasTable) (canonical : String) : List String := t.listed (trim canonical)

end AliasTable

end FeatureFlags
