import FeatureFlags.Collection.Dict
import FeatureFlags.Json.Document

/-!
# From a document to a value

A document has a value when all its texts are texts, all its numbers can be read as doubles,
and containers are nested at most `maxDepth` deep.  Of the members with the same name the last
one counts, and the members of a value stand in ascending order of their names.
-/

namespace FeatureFlags

namespace Json

/-- The object with the given members, of which the last one of a name counts. -/
def object (members : List (String × Json)) : Json := .obj (Dict.ofList members).entries

/-- How deep containers may be nested in a document that has a value. -/
def maxDepth : Nat := 127

mutual

/-- The value of a document with containers nested at most as deep as the number says. -/
def ofDocument? (depth : Nat) : JsonDocument → Option Json
  | .null => some .null
  | .bool b => some (.bool b)
  | .num n => if n.isFinite then some (.num n) else none
  | .str s => (JsonText.text? s).map .str
  | .arr items =>
    match depth with
    | 0 => none
    | depth + 1 => (itemsOf? depth items).map .arr
  | .obj members =>
    match depth with
    | 0 => none
    | depth + 1 => (membersOf? depth members).map object

/-- The values of the items of an array. -/
def itemsOf? (depth : Nat) : List JsonDocument → Option (List Json)
  | [] => some []
  | v :: rest => (ofDocument? depth v).bind fun w => (itemsOf? depth rest).map (w :: ·)

/-- The members of an object with their values. -/
def membersOf? (depth : Nat) : List (RawText × JsonDocument) → Option (List (String × Json))
  | [] => some []
  | (name, v) :: rest =>
    (JsonText.text? name).bind fun n =>
      (ofDocument? depth v).bind fun w => (membersOf? depth rest).map ((n, w) :: ·)

end

/-- The value that a text writes. -/
def ofText? (text : String) : Option Json :=
  (JsonDocument.ofText? text).bind (ofDocument? maxDepth)

end Json

end FeatureFlags
