import Failsafe.Toml.Text
/-
  Reading the keys of a TOML text.

  A key is a bare word, or a string on one line; several of them with dots between them are
  a dotted key, which leads through tables.
-/

namespace Failsafe.Toml

open Reader

/-- A dotted key. -/
abbrev Key := List String

/-- The written form of a key. -/
def Key.text (k : Key) : String := "`" ++ String.intercalate "." k ++ "`"

/-- How deep containers may be nested, and how many parts a key may have. -/
def nestingLimit : Nat := 79

/-- What is said when that limit is exceeded. -/
def tooDeep : String := "recursion limit exceeded"

/-- A character of a key without quotes. -/
def isBare (c : Char) : Bool := c.isAlphanum || c = '_' || c = '-'

/-- One part of a key. -/
def keyPart : Reader String := do
  match ← peek? with
  | some '"' => basicText
  | some '\'' => literalText
  | _ => String.ofList <$> takeSome isBare

/-- A dotted key, with the blanks around it. -/
def dottedKey : Reader Key :=
  let part : Reader String := do
    blanks
    let name ← keyPart
    blanks
    pure name
  let limited (k : Key) : Except (Option String) Key :=
    if k.length ≤ nestingLimit then .ok k else .error (some tooDeep)
  verify limited (label "key" (separated part (char '.')))

end Failsafe.Toml
