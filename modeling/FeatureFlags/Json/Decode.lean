import FeatureFlags.Json.Tree

/-!
# Decoding

A decoder reads a value of some type off a tree, or fails.  Null is never a value of a type
other than its own.

A record is an object, or an array of the fields in the order of their declaration.  The
members of an object may stand in any order, and members with unknown names are passed over,
though their names have to be texts.  A known name must not come twice.  An array may stop
before its last fields and must not go on behind them.

A name of a fixed set is a text, or an object whose one member has that name and the value
null.
-/

namespace FeatureFlags

namespace JsonTree

variable {τ α : Type} [JsonText τ]

/-- A text. -/
def text? : JsonTree τ → Option String
  | .str s => JsonText.text? s
  | _ => none

/-- A truth value. -/
def bool? : JsonTree τ → Option Bool
  | .bool b => some b
  | _ => none

/-- Whether a tree is null. -/
def isNull : JsonTree τ → Bool
  | .null => true
  | _ => false

/-- The results of a decoder on every tree of a list, if it fails on none. -/
def all? (decode : JsonTree τ → Option α) : List (JsonTree τ) → Option (List α)
  | [] => some []
  | t :: rest => (decode t).bind fun a => (all? decode rest).map (a :: ·)

/-- An array of values. -/
def list? (decode : JsonTree τ → Option α) : JsonTree τ → Option (List α)
  | .arr items => all? decode items
  | _ => none

/-- A name, given the value of each name. -/
def name? (ofName? : String → Option α) : JsonTree τ → Option α
  | .str s => (JsonText.text? s).bind ofName?
  | .obj [(s, v)] => if v.isNull then (JsonText.text? s).bind ofName? else none
  | _ => none

/-! ## Objects and records -/

/-- The members of an object, if all their names are texts. -/
def named? : List (τ × JsonTree τ) → Option (List (String × JsonTree τ))
  | [] => some []
  | (s, v) :: rest => (JsonText.text? s).bind fun name => (named? rest).map ((name, v) :: ·)

/-- The members with known names, if no such name comes twice. -/
def known? (names : List String) (members : List (String × JsonTree τ)) :
    Option (List (String × JsonTree τ)) :=
  let known := members.filter fun m => names.contains m.1
  if (known.map Prod.fst).Nodup then some known else none

/-- The fields of a record that are given, by name. -/
def fields? (names : List String) : JsonTree τ → Option (List (String × JsonTree τ))
  | .obj members => (named? members).bind (known? names)
  | .arr items => if items.length ≤ names.length then some (names.zip items) else none
  | _ => none

/-- The first field of a name. -/
def field? (fields : List (String × JsonTree τ)) (name : String) : Option (JsonTree τ) :=
  (fields.find? (·.1 = name)).map Prod.snd

/-- A field that has to be given. -/
def required? (fields : List (String × JsonTree τ)) (name : String)
    (decode : JsonTree τ → Option α) : Option α :=
  (field? fields name).bind decode

/-- A field that has a value when it is not given. -/
def optional? (fields : List (String × JsonTree τ)) (name : String)
    (decode : JsonTree τ → Option α) (otherwise : α) : Option α :=
  (field? fields name).elim (some otherwise) decode

/-- The members of an object with their values decoded, in their order. -/
def entries? (decode : JsonTree τ → Option α) : JsonTree τ → Option (List (String × α))
  | .obj members =>
    (named? members).bind fun named =>
      (all? decode (named.map Prod.snd)).map ((named.map Prod.fst).zip ·)
  | _ => none

end JsonTree

end FeatureFlags
