/-!
# Ranges of code points

A property of characters is given as a list of ranges of code points, ends included, in
ascending order and without overlap.  A search stops at the first range that begins behind
the code point it looks for.
-/

namespace FeatureFlags.Text

/-- Ranges of code points, ends included. -/
abbrev Ranges := List (Nat × Nat)

/-- Whether a code point lies in one of the ranges. -/
def Ranges.covers : Ranges → Nat → Bool
  | [], _ => false
  | (low, high) :: rest, n => low ≤ n && (n ≤ high || Ranges.covers rest n)

end FeatureFlags.Text
