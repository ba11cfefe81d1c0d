import Failsafe.Text.Quoted
import Failsafe.Toml.Key
import Failsafe.Toml.Value
/-
  Tables while they are being written, statement by statement.

  A table may be made only once, but one that only stands on the way to another may still be
  opened. `Entries.alter` walks along a path and changes the table at its end; a `Conflict` says
  why that cannot be done.
-/

namespace Failsafe.Toml

/-- How a table came to be. -/
inductive Making where
  /-- by a header, as an item of a list or as a value -/
  | explicit
  /-- on the way of a header to another table -/
  | implied
  /-- on the way of a dotted key -/
  | dotted
deriving DecidableEq, Repr

/-- What stands under a key. -/
inductive Item where
  | value (v : Value)
  | table (making : Making) (entries : List (String × Item))
  /-- a list of tables with headers of their own -/
  | tables (items : List (List (String × Item)))

/-- The entries of a table. -/
abbrev Entries := List (String × Item)

/-- Why a table cannot be changed as wanted. -/
inductive Conflict where
  /-- the key is taken; its table is known or not -/
  | taken (name : String) (table? : Option Key)
  /-- a header opens something that is there already -/
  | reopened (name : String) (table : Key)
  /-- a key leads through something that is no table -/
  | notTable (key : Key) (typeName : String)
deriving DecidableEq, Repr

/-- Where a key is. -/
def Key.place (table : Key) : String :=
  if table.isEmpty then " in document root" else " in table " ++ table.text

/-- The text of a conflict. A key that a header names stands between quotes. -/
def Conflict.message : Conflict → String
  | taken name none => "duplicate key " ++ Key.text [name]
  | taken name (some table) => "duplicate key " ++ Key.text [name] ++ table.place
  | reopened name table => "duplicate key " ++ Key.text [Failsafe.Text.quoted name] ++ table.place
  | notTable key typeName =>
    "dotted key " ++ key.text ++ " attempted to extend non-table type (" ++ typeName ++ ")"

mutual

/-- What stands under a key, as a value. -/
def Item.toValue : Item → Value
  | .value v => v
  | .table _ entries => .table (Entries.toValues entries)
  | .tables items => .list (Entries.toTables items)

/-- The entries of a table, as values. -/
def Entries.toValues : List (String × Item) → List (String × Value)
  | [] => []
  | (k, item) :: rest => (k, item.toValue) :: Entries.toValues rest

/-- The tables of a list, as values. -/
def Entries.toTables : List (List (String × Item)) → List Value
  | [] => []
  | entries :: rest => .table (Entries.toValues entries) :: Entries.toTables rest

end

/-- A value inside a table written on one line, whose own tables cannot be changed any more. -/
def Item.ofValue : Value → Item
  | .table entries => .table .explicit (entries.map fun e => (e.1, .value e.2))
  | v => .value v

namespace Entries

/-- What stands under a key. -/
def get? (name : String) (entries : Entries) : Option Item :=
  (entries.find? fun e => e.1 = name).map Prod.snd

/-- Sets a key. -/
def set (name : String) (item : Item) (entries : Entries) : Entries :=
  if entries.any fun e => e.1 = name then
    entries.map fun e => if e.1 = name then (name, item) else e
  else entries ++ [(name, item)]

/-- Takes a key away. -/
def erase (name : String) (entries : Entries) : Entries := entries.filter fun e => e.1 ≠ name

/-- Changes the table at the end of a path, of which `walked` has been walked. The tables that
are missing on the way are made; a dotted key may not lead into a table made explicitly. -/
def alter (dotted : Bool) (change : Making → Entries → Except Conflict Entries) :
    Key → Key → Making → Entries → Except Conflict Entries
  | _, [], making, entries => change making entries
  | walked, name :: path, _, entries => do
    let walked := walked ++ [name]
    match entries.get? name with
    | none =>
      let making := if dotted then .dotted else .implied
      let inner ← alter dotted change walked path making []
      .ok (entries.set name (.table making inner))
    | some (.value v) => .error (.notTable walked v.typeName)
    | some (.tables items) =>
      let inner ← alter dotted change walked path .explicit (items.getLast?.getD [])
      .ok (entries.set name (.tables (items.dropLast ++ [inner])))
    | some (.table making inner) =>
      if dotted && making = .explicit then .error (.taken name none)
      else
        let inner ← alter dotted change walked path making inner
        .ok (entries.set name (.table making inner))

/-- Puts something under a dotted key that is not taken; `table?` is the table it is written
in. -/
def assign (key : Key) (item : Item) (table? : Option Key) (entries : Entries) :
    Except Conflict Entries :=
  let path := key.dropLast
  let name := key.getLast?.getD ""
  let put (making : Making) (inner : Entries) : Except Conflict Entries :=
    if !path.isEmpty && making ≠ .dotted then .error (.taken name none)
    else if (inner.get? name).isSome then .error (.taken name table?)
    else .ok (inner.set name item)
  entries.alter true put [] path .explicit

/-- Opens the table under a dotted key; one that is there already becomes the last entry. -/
def openTable (key : Key) (entries : Entries) : Except Conflict Entries :=
  let path := key.dropLast
  let name := key.getLast?.getD ""
  let put (_ : Making) (inner : Entries) : Except Conflict Entries :=
    match inner.get? name with
    | none => .ok (inner.set name (.table .explicit []))
    | some (.table .implied held) => .ok ((inner.erase name).set name (.table .explicit held))
    | some _ => .error (.reopened name path)
  entries.alter false put [] path .explicit

/-- Opens one more table of the list under a dotted key. -/
def openItem (key : Key) (entries : Entries) : Except Conflict Entries :=
  let path := key.dropLast
  let name := key.getLast?.getD ""
  let put (_ : Making) (inner : Entries) : Except Conflict Entries :=
    match inner.get? name with
    | none => .ok (inner.set name (.tables [[]]))
    | some (.tables items) => .ok (inner.set name (.tables (items ++ [[]])))
    | some _ => .error (.reopened name path)
  entries.alter false put [] path .explicit

end Entries

end Failsafe.Toml
