/-!
# Numbers in a document

A number is kept as it is written: its sign, the digits before and after the point, and the
power of ten it is scaled by.

`NumberLiteral.isFinite` says whether a number can be read as a double.  The leading digits
are taken as long as they fit in 64 bits, and the rest only counts as powers of ten.  Both the
taken digits and the power of ten are rounded to doubles, and their product must stay below
the bound from which a product is rounded to infinity.
-/

namespace FeatureFlags

/-- A number as it is written. -/
structure NumberLiteral where
  /-- Whether a minus sign comes first. -/
  negative : Bool
  /-- The digits before the point. -/
  whole : List Nat
  /-- The digits after the point. -/
  fraction : List Nat
  /-- The power of ten that scales the number. -/
  exponent : Int
deriving DecidableEq, Repr, Inhabited

namespace NumberLiteral

/-! ## Reading -/

/-- The value of a decimal digit. -/
def digit? (c : Char) : Option Nat := if c.isDigit then some (c.toNat - '0'.toNat) else none

/-- The digits at the start of the characters, and what follows them. -/
def takeDigits : List Char → List Nat × List Char
  | [] => ([], [])
  | c :: rest =>
    match digit? c with
    | none => ([], c :: rest)
    | some d => (d :: (takeDigits rest).1, (takeDigits rest).2)

/-- The number of digits in their order. -/
def ofDigits (digits : List Nat) : Nat := digits.foldl (fun n d => 10 * n + d) 0

/-- Whether digits may stand before the point: one at least, and no zero before another. -/
def wholeAllowed : List Nat → Bool
  | [] => false
  | 0 :: rest => rest.isEmpty
  | _ => true

/-- The part after the point, and what follows it. -/
def fraction? : List Char → Option (List Nat × List Char)
  | '.' :: rest =>
    match takeDigits rest with
    | ([], _) => none
    | taken => some taken
  | rest => some ([], rest)

/-- The digits of an exponent up to the end. -/
def exponentDigits? (cs : List Char) : Option Nat :=
  match takeDigits cs with
  | ([], _) => none
  | (digits, []) => some (ofDigits digits)
  | _ => none

/-- The exponent up to the end, zero if there is none. -/
def exponent? : List Char → Option Int
  | [] => some 0
  | c :: rest =>
    if c = 'e' ∨ c = 'E' then
      match rest with
      | '-' :: cs => (exponentDigits? cs).map fun n => -(n : Int)
      | '+' :: cs => (exponentDigits? cs).map Int.ofNat
      | cs => (exponentDigits? cs).map Int.ofNat
    else none

/-- The number without its sign. -/
def unsigned? (negative : Bool) (cs : List Char) : Option NumberLiteral :=
  let (whole, rest) := takeDigits cs
  if wholeAllowed whole then
    match fraction? rest with
    | none => none
    | some (fraction, rest) => (exponent? rest).map fun e => ⟨negative, whole, fraction, e⟩
  else none

/-- The number that the characters write. -/
def ofChars? : List Char → Option NumberLiteral
  | '-' :: cs => unsigned? true cs
  | cs => unsigned? false cs

/-! ## The range of doubles -/

/-- The digits taken as long as their number stays below a limit, and how many are left. -/
def takeBelow (limit : Nat) : Nat → List Nat → Nat × Nat
  | n, [] => (n, 0)
  | n, d :: rest => if 10 * n + d < limit then takeBelow limit (10 * n + d) rest
      else (n, rest.length + 1)

/-- The double nearest to a natural number, of two the one with the even last bit. -/
def nearestDouble (n : Nat) : Nat :=
  let dropped := n.log2 - 52
  let unit := Nat.pow 2 dropped
  let kept := n / unit
  let rest := 2 * (n % unit)
  if unit < rest ∨ (unit = rest ∧ kept % 2 = 1) then (kept + 1) * unit else kept * unit

/-- The least product that is rounded to infinity. -/
def infinityBound : Nat := Nat.pow 2 1024 - Nat.pow 2 970

/-- Whether the number can be read as a double. -/
def isFinite (n : NumberLiteral) : Bool :=
  let (taken, left) := takeBelow (Nat.pow 2 64) 0 (n.whole ++ n.fraction)
  let scale := n.exponent + left - n.fraction.length
  if taken = 0 ∨ scale < 0 then true
  else if 308 < scale then false
  else nearestDouble taken * nearestDouble (Nat.pow 10 scale.toNat) < infinityBound

end NumberLiteral

end FeatureFlags
