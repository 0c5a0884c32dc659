import FeatureFlags.Json.Token

/-!
# From tokens to a tree

The tokens are read one after the other.  The containers that are open are kept on a stack,
the innermost on top, each with the parts read so far.  `Expected` says what may come next
inside the innermost one.  A document is a single value with nothing behind it.
-/

namespace FeatureFlags

namespace JsonDocument

/-- A container that is still open, with its parts, the last one first. -/
inductive Frame where
  /-- An array. -/
  | array (items : List JsonDocument)
  /-- An object, and the name of the member whose value is to come. -/
  | object (members : List (RawText × JsonDocument)) (name : RawText)

/-- What may come next. -/
inductive Expected where
  /-- A value. -/
  | value
  /-- A value, or the end of an array without items. -/
  | valueOrEnd
  /-- The name of a member of an object with the members read so far. -/
  | name (members : List (RawText × JsonDocument))
  /-- The name of a member, or the end of an object without members. -/
  | nameOrEnd
  /-- The colon behind the name of a member. -/
  | colon
  /-- A comma, or the end of the innermost container. -/
  | commaOrEnd
  /-- Nothing, since the document is complete. -/
  | nothing (document : JsonDocument)

/-- A document that is read in part. -/
structure Partial where
  /-- The open containers, the innermost first. -/
  frames : List Frame
  /-- What may come next. -/
  expected : Expected

/-- A value is complete. -/
def complete (v : JsonDocument) : List Frame → Partial
  | [] => ⟨[], .nothing v⟩
  | .array items :: frames => ⟨.array (v :: items) :: frames, .commaOrEnd⟩
  | .object members name :: frames => ⟨.object ((name, v) :: members) name :: frames, .commaOrEnd⟩

/-- A token at a place where a value must come. -/
def value? (frames : List Frame) : JsonToken → Option Partial
  | .null => some (complete .null frames)
  | .bool b => some (complete (.bool b) frames)
  | .num n => some (complete (.num n) frames)
  | .str s => some (complete (.str s) frames)
  | .openArray => some ⟨.array [] :: frames, .valueOrEnd⟩
  | .openObject => some ⟨frames, .nameOrEnd⟩
  | _ => none

/-- A token behind a complete part of the innermost container. -/
def next? : List Frame → JsonToken → Option Partial
  | .array items :: frames, .comma => some ⟨.array items :: frames, .value⟩
  | .array items :: frames, .closeArray => some (complete (.arr items.reverse) frames)
  | .object members _ :: frames, .comma => some ⟨frames, .name members⟩
  | .object members _ :: frames, .closeObject => some (complete (.obj members.reverse) frames)
  | _, _ => none

/-- One token. -/
def step? (p : Partial) (t : JsonToken) : Option Partial :=
  match p.expected with
  | .value => value? p.frames t
  | .valueOrEnd => if t = .closeArray then next? p.frames t else value? p.frames t
  | .name members =>
    match t with
    | .str s => some ⟨.object members s :: p.frames, .colon⟩
    | _ => none
  | .nameOrEnd =>
    match t with
    | .str s => some ⟨.object [] s :: p.frames, .colon⟩
    | .closeObject => some (complete (.obj []) p.frames)
    | _ => none
  | .colon => if t = .colon then some ⟨p.frames, .value⟩ else none
  | .commaOrEnd => next? p.frames t
  | .nothing _ => none

/-- The document of the remaining tokens. -/
def build? : Partial → List JsonToken → Option JsonDocument
  | ⟨_, .nothing document⟩, [] => some document
  | _, [] => none
  | p, t :: rest =>
    match step? p t with
    | none => none
    | some q => build? q rest

/-- The document that a text writes. -/
def ofText? (text : String) : Option JsonDocument :=
  (JsonToken.ofText? text).bind (build? ⟨[], .value⟩)

end JsonDocument

end FeatureFlags
