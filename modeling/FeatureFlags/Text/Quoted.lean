import FeatureFlags.Text.EscapeTable

/-!
# Quoted texts

A quoted text stands between double quotes.  The quote, the backslash, NUL, tab, line feed
and carriage return have a short escape.  A character that does not show by itself is written
by its number in hexadecimal, `\u{200b}`.  Every other character stands for itself.
-/

namespace FeatureFlags.Text

/-- The written form of one character inside a quoted text. -/
def quoteChar (c : Char) : List Char :=
  if c = '\x00' then ['\\', '0']
  else if c = '\t' then ['\\', 't']
  else if c = '\r' then ['\\', 'r']
  else if c = '\n' then ['\\', 'n']
  else if c = '\\' then ['\\', '\\']
  else if c = '"' then ['\\', '"']
  else if hiddenRanges.covers c.toNat then
    ['\\', 'u', '\x7b'] ++ Nat.toDigits 16 c.toNat ++ ['\x7d']
  else [c]

/-- A text between double quotes. -/
def quoted (s : String) : String :=
  String.ofList ('"' :: s.toList.flatMap quoteChar ++ ['"'])

end FeatureFlags.Text
