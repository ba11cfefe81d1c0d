import Failsafe.Toml.Fault
/-
  TOML values.

  A table is the list of its entries in the order in which they were made. Dates and times are
  kept as their canonical texts, floats as their bit patterns.

  A table whose first key is `momentKey` stands for a date, a time or both. What such a key has is
  kept together with the moment that its table stands for.
-/

namespace Failsafe.Toml

/-- A TOML value. -/
inductive Value where
  | text (s : String)
  | integer (n : Int)
  | float (bits : UInt64)
  | bool (b : Bool)
  /-- a date, a time or both -/
  | moment (s : String)
  | list (items : List Value)
  | table (entries : List (String × Value))
  /-- a value under `momentKey`, with the moment that it states or what is wrong with that -/
  | keyed (v : Value) (stated : Except Fault String)
deriving Repr, Inhabited

/-- The key that makes a table stand for a moment. -/
def momentKey : String := "$__toml_private_datetime"

/-- The word for the type of a value. -/
def Value.typeName : Value → String
  | .text _ => "string"
  | .integer _ => "integer"
  | .float _ => "float"
  | .bool _ => "boolean"
  | .moment _ => "datetime"
  | .list _ => "array"
  | .table _ => "inline table"
  | .keyed v _ => v.typeName

mutual

/-- The value after the tables in it that stand for moments have become these. The first fault
counts. -/
def Value.settled : Value → Except Fault Value
  | .list items => .list <$> Value.settledItems items
  | .table ((_, .keyed _ stated) :: _) => .moment <$> stated
  | .table entries => .table <$> Value.settledEntries entries
  | .keyed v _ => v.settled
  | v => .ok v

/-- The same for the items of a list. -/
def Value.settledItems : List Value → Except Fault (List Value)
  | [] => .ok []
  | v :: rest => do
    let v ← v.settled
    let l ← Value.settledItems rest
    .ok (v :: l)

/-- The same for the entries of a table. -/
def Value.settledEntries : List (String × Value) → Except Fault (List (String × Value))
  | [] => .ok []
  | (k, v) :: rest => do
    let v ← v.settled
    let l ← Value.settledEntries rest
    .ok ((k, v) :: l)

end

end Failsafe.Toml
