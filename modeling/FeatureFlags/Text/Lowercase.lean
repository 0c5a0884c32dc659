import FeatureFlags.Text.CaseTable

/-!
# Lowercase

`lowercase` is the full, language-independent lowercase mapping of Unicode.  A letter goes to
its lowercase letter with two exceptions.  The capital I with a dot above becomes an i and a
combining dot.  The capital sigma depends on its place: it becomes the final sigma at the end
of a word, and the ordinary small sigma elsewhere.

A sigma ends a word when a cased character comes before it and none comes after it.  Both
directions pass over case-ignorable characters, and both look at the text as it was before
the mapping.
-/

namespace FeatureFlags.Text

/-- Whether a character has case. -/
def isCased (c : Char) : Bool := casedRanges.covers c.toNat

/-- Whether a character is passed over when looking for a cased neighbour. -/
def isCaseIgnorable (c : Char) : Bool := caseIgnorableRanges.covers c.toNat

/-- Whether the run holds the code point. -/
def CaseRun.holds (r : CaseRun) (n : Nat) : Bool :=
  r.first ≤ n && n ≤ r.last && (n - r.first) % r.step == 0

/-- The lowercase of a code point by the first run that holds it. -/
def lowercaseCode : List CaseRun → Nat → Nat
  | [], n => n
  | r :: rest, n =>
      if n < r.first then n
      else if r.holds n then r.target + (n - r.first)
      else lowercaseCode rest n

/-- The lowercase of a character that does not depend on its place. -/
def lowercaseChar (c : Char) : List Char :=
  if c = 'İ' then ['i', '\u0307'] else [Char.ofNat (lowercaseCode lowercaseRuns c.toNat)]

/-- Whether the first character that is not case-ignorable has case. -/
def startsCased (cs : List Char) : Bool :=
  match cs.dropWhile isCaseIgnorable with
  | [] => false
  | c :: _ => isCased c

/-- The small sigma between the characters before it, last first, and those after it. -/
def smallSigma (before after : List Char) : Char :=
  if startsCased before && !startsCased after then 'ς' else 'σ'

/-- The lowercase of characters that follow others, given last first. -/
def lowercaseAfter (before : List Char) : List Char → List Char
  | [] => []
  | c :: rest =>
      (if c = 'Σ' then [smallSigma before rest] else lowercaseChar c) ++
        lowercaseAfter (c :: before) rest

/-- The lowercase of a list of characters. -/
def lowercaseList (cs : List Char) : List Char := lowercaseAfter [] cs

/-- The lowercase of a text. -/
def lowercase (s : String) : String := String.ofList (lowercaseList s.toList)

theorem lowercaseChar_ne_nil (c : Char) : lowercaseChar c ≠ [] := by
  rw [lowercaseChar]
  split
  · exact List.cons_ne_nil _ _
  · exact List.cons_ne_nil _ _

/-- No character is dropped. -/
theorem lowercaseAfter_eq_nil_iff {before cs : List Char} :
    lowercaseAfter before cs = [] ↔ cs = [] := by
  cases cs with
  | nil => simp [lowercaseAfter]
  | cons c rest =>
    simp only [lowercaseAfter, List.append_eq_nil_iff, reduceCtorEq, iff_false]
    rintro ⟨h, -⟩
    split at h
    · cases h
    · exact lowercaseChar_ne_nil c h

theorem lowercase_eq_empty_iff {s : String} : lowercase s = "" ↔ s = "" := by
  rw [lowercase, lowercaseList, String.ofList_eq_empty_iff, lowercaseAfter_eq_nil_iff,
    String.toList_eq_nil_iff]

end FeatureFlags.Text
