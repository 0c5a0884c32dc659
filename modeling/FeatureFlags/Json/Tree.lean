import FeatureFlags.Json.Number

/-!
# Document trees

A tree is what a JSON document says: null, a truth value, a number, a text, an array or an
object.  The members of an object stand in a list.

The type of the texts is a parameter.  In a value every text is a `String`.  In a document
that was only read so far a text may still fail to be one, because an escape stands for half a
character; this is no harm in a part of the document that nobody looks at.  `JsonText.text?`
gives the text if it is one.
-/

namespace FeatureFlags

/-- What a JSON document says, with texts of the given type. -/
inductive JsonTree (τ : Type) where
  | null
  | bool (b : Bool)
  | num (n : NumberLiteral)
  | str (s : τ)
  | arr (items : List (JsonTree τ))
  | obj (members : List (τ × JsonTree τ))
deriving Inhabited

/-- A JSON value. -/
abbrev Json := JsonTree String

/-- The texts of a document, which may fail to be texts. -/
class JsonText (τ : Type) where
  /-- The text, if it is one. -/
  text? : τ → Option String

instance : JsonText String := ⟨some⟩

/-! ## Escaped texts -/

/-- The code points of a text, where a character beyond the first plane may still be the two
halves that its escapes give. -/
abbrev EscapedText := List Nat

namespace EscapedText

/-- Whether a code point is the first half of a character. -/
def isHigh (n : Nat) : Bool := 0xD800 ≤ n && n ≤ 0xDBFF

/-- Whether a code point is the second half of a character. -/
def isLow (n : Nat) : Bool := 0xDC00 ≤ n && n ≤ 0xDFFF

/-- The character of two halves. -/
def join (high low : Nat) : Char := Char.ofNat (0x10000 + 0x400 * (high - 0xD800) + (low - 0xDC00))

/-- The characters of a text, unless a half stands alone. -/
def chars? : EscapedText → Option (List Char)
  | [] => some []
  | [n] => if isHigh n || isLow n then none else some [Char.ofNat n]
  | n :: m :: rest =>
    if isHigh n then
      if isLow m then (chars? rest).map (join n m :: ·) else none
    else if isLow n then none
    else (chars? (m :: rest)).map (Char.ofNat n :: ·)

end EscapedText

/-- A text as a document writes it. -/
structure RawText where
  /-- The code points. -/
  units : EscapedText
deriving DecidableEq, Repr, Inhabited

instance : JsonText RawText := ⟨fun t => (EscapedText.chars? t.units).map String.ofList⟩

/-- What a JSON document says before its texts are looked at. -/
abbrev JsonDocument := JsonTree RawText

end FeatureFlags
