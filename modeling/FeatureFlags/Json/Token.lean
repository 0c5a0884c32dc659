import FeatureFlags.Json.Tree

/-!
# Tokens of a document

A document is a sequence of tokens: brackets, braces, commas, colons, the three words, numbers
and texts.  Blanks between tokens are spaces, tabs, line feeds and carriage returns.

The characters are read one after the other.  `Scan` says what has been seen of the token that
is not complete yet.  A word and a number end at the first character that cannot be part of
them, and that character begins what follows.
-/

namespace FeatureFlags

/-- The parts of a document. -/
inductive JsonToken where
  | openArray
  | closeArray
  | openObject
  | closeObject
  | comma
  | colon
  | null
  | bool (b : Bool)
  | num (n : NumberLiteral)
  | str (s : RawText)
deriving DecidableEq, Repr, Inhabited

namespace JsonToken

/-- What has been seen of a token that is not complete yet, the last character first. -/
inductive Scan where
  /-- No token has begun. -/
  | between
  /-- A word has begun. -/
  | word (seen : List Char)
  /-- A number has begun. -/
  | number (seen : List Char)
  /-- A text has begun. -/
  | text (seen : List Nat)
  /-- A text has begun, and a backslash came last. -/
  | escape (seen : List Nat)
  /-- A text has begun, and some of the four digits of an escape are still to come. -/
  | unicode (seen : List Nat) (value missing : Nat)
deriving DecidableEq, Repr, Inhabited

/-- The token of a word. -/
def ofWord? (word : List Char) : Option JsonToken :=
  if word = ['n', 'u', 'l', 'l'] then some null
  else if word = ['t', 'r', 'u', 'e'] then some (bool true)
  else if word = ['f', 'a', 'l', 's', 'e'] then some (bool false)
  else none

/-- The token that is one character long. -/
def ofMark? (c : Char) : Option JsonToken :=
  if c = '[' then some openArray
  else if c = ']' then some closeArray
  else if c = '\x7b' then some openObject
  else if c = '\x7d' then some closeObject
  else if c = ',' then some comma
  else if c = ':' then some colon
  else none

/-- The character that an escape of one letter stands for. -/
def unescape? (c : Char) : Option Nat :=
  if c = '"' then some 0x22
  else if c = '\\' then some 0x5C
  else if c = '/' then some 0x2F
  else if c = 'b' then some 0x08
  else if c = 'f' then some 0x0C
  else if c = 'n' then some 0x0A
  else if c = 'r' then some 0x0D
  else if c = 't' then some 0x09
  else none

/-- The value of a hexadecimal digit. -/
def hexDigit? (c : Char) : Option Nat :=
  if c.isDigit then some (c.toNat - '0'.toNat)
  else if 'a' ≤ c ∧ c ≤ 'f' then some (c.toNat - 'a'.toNat + 10)
  else if 'A' ≤ c ∧ c ≤ 'F' then some (c.toNat - 'A'.toNat + 10)
  else none

/-- Whether a character may stand between tokens. -/
def isSpace (c : Char) : Bool := c = ' ' || c = '\t' || c = '\n' || c = '\r'

/-- Whether a character may be part of a number. -/
def inNumber (c : Char) : Bool :=
  c.isDigit || c = '+' || c = '-' || c = '.' || c = 'e' || c = 'E'

/-- A character at a place where no token has begun. -/
def start? (c : Char) : Option (Scan × List JsonToken) :=
  if isSpace c then some (.between, [])
  else if c = '"' then some (.text [], [])
  else if c.isDigit || c = '-' then some (.number [c], [])
  else if c.isAlpha then some (.word [c], [])
  else (ofMark? c).map fun t => (.between, [t])

/-- A character behind a complete token. -/
def startAfter? (done : Option JsonToken) (c : Char) : Option (Scan × List JsonToken) :=
  match done, start? c with
  | some t, some (scan, tokens) => some (scan, t :: tokens)
  | _, _ => none

/-- One character: what has been seen after it, and the tokens it completes. -/
def step? : Scan → Char → Option (Scan × List JsonToken)
  | .between, c => start? c
  | .word seen, c =>
    if c.isAlpha then some (.word (c :: seen), []) else startAfter? (ofWord? seen.reverse) c
  | .number seen, c =>
    if inNumber c then some (.number (c :: seen), [])
    else startAfter? ((NumberLiteral.ofChars? seen.reverse).map num) c
  | .text seen, c =>
    if c = '"' then some (.between, [str ⟨seen.reverse⟩])
    else if c = '\\' then some (.escape seen, [])
    else if c.toNat < 0x20 then none
    else some (.text (c.toNat :: seen), [])
  | .escape seen, c =>
    if c = 'u' then some (.unicode seen 0 3, [])
    else (unescape? c).map fun n => (.text (n :: seen), [])
  | .unicode seen value missing, c =>
    match hexDigit? c with
    | none => none
    | some d =>
      match missing with
      | 0 => some (.text ((16 * value + d) :: seen), [])
      | left + 1 => some (.unicode seen (16 * value + d) left, [])

/-- The end of the document. -/
def finish? : Scan → Option (List JsonToken)
  | .between => some []
  | .word seen => (ofWord? seen.reverse).map ([·])
  | .number seen => (NumberLiteral.ofChars? seen.reverse).map ([num ·])
  | _ => none

/-- The tokens of the remaining characters. -/
def scan? : Scan → List Char → Option (List JsonToken)
  | s, [] => finish? s
  | s, c :: rest =>
    match step? s c with
    | none => none
    | some (next, tokens) => (scan? next rest).map (tokens ++ ·)

/-- The tokens of a document. -/
def ofText? (text : String) : Option (List JsonToken) := scan? .between text.toList

end JsonToken

end FeatureFlags
