import FeatureFlags.Text.Quoted

/-!
# Inspection texts

How the parts of a value are shown to a developer: records with named fields, lists, optional
values and truth values.
-/

namespace FeatureFlags.Inspect

/-- A truth value. -/
def bool (b : Bool) : String := if b then "true" else "false"

/-- A text, quoted. -/
def text (s : String) : String := Text.quoted s

/-- A list of shown items. -/
def list (items : List String) : String := "[" ++ ", ".intercalate items ++ "]"

/-- An optional value, given how its value is shown. -/
def option {α : Type} (inspect : α → String) : Option α → String
  | some a => "Some(" ++ inspect a ++ ")"
  | none => "None"

/-- Shown fields, each behind its name. -/
def fields (named : List (String × String)) : String :=
  ", ".intercalate (named.map fun f => f.1 ++ ": " ++ f.2)

/-- A record with a name and shown fields. -/
def record (name : String) (named : List (String × String)) : String :=
  name ++ " \x7b " ++ fields named ++ " \x7d"

/-- A record of which more fields are not shown. -/
def openRecord (name : String) (named : List (String × String)) : String :=
  name ++ " \x7b " ++ fields named ++ ", .. \x7d"

/-- A dictionary of texts. -/
def dict (entries : List (String × String)) : String :=
  "\x7b" ++ ", ".intercalate (entries.map fun e => text e.1 ++ ": " ++ text e.2) ++ "\x7d"

end FeatureFlags.Inspect
