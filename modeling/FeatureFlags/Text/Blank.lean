import FeatureFlags.Text.Ranges

/-!
# Blank characters

Keys and identifiers count without the blank characters around them.  A character is blank
when it has the Unicode property `White_Space`; this leaves out the zero-width space, the
word joiner and the byte order mark.

`trim` removes the blank characters at both ends and none inside.
-/

namespace FeatureFlags.Text

/-- The characters with the property `White_Space`. -/
def blankRanges : Ranges := [
  (0x0009, 0x000D), (0x0020, 0x0020), (0x0085, 0x0085), (0x00A0, 0x00A0), (0x1680, 0x1680),
  (0x2000, 0x200A), (0x2028, 0x2029), (0x202F, 0x202F), (0x205F, 0x205F), (0x3000, 0x3000)]

/-- Whether a character is blank. -/
def isBlank (c : Char) : Bool := blankRanges.covers c.toNat

/-- The characters without the blank ones at their end. -/
def dropBlankEnd (cs : List Char) : List Char := (cs.reverse.dropWhile isBlank).reverse

/-- The characters without the blank ones at either end. -/
def trimList (cs : List Char) : List Char := dropBlankEnd (cs.dropWhile isBlank)

/-- A text without the blank characters at either end. -/
def trim (s : String) : String := String.ofList (trimList s.toList)

@[simp] theorem toList_trim (s : String) : (trim s).toList = trimList s.toList := by
  simp [trim]

end FeatureFlags.Text
