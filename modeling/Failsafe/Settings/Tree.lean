import Failsafe.Text.Case
import Failsafe.Text.Quoted
import Failsafe.Width
/-
  Settings as they are written: a tree of tables, lists and plain values.

  Every value remembers where it is written. `Tree.put` writes a value under a path into a tree:
  tables are merged key by key, anything else replaces what was there. Keys are in small letters.
-/

namespace Failsafe.Settings

/-- Where a setting is written. -/
inductive Origin where
  | file (path : String)
  | environment
deriving DecidableEq, Repr

/-- What people are told about an origin. -/
def Origin.text : Origin → String
  | file path => path
  | environment => "the environment"

/-- A plain value. -/
inductive Scalar where
  | empty
  | bool (b : Bool)
  | integer (n : Int)
  /-- by its bit pattern -/
  | float (bits : UInt64)
  | text (s : String)
deriving DecidableEq, Repr

/-- A value as it is written. -/
inductive Tree where
  | scalar (origin? : Option Origin) (s : Scalar)
  | list (origin? : Option Origin) (items : List Tree)
  | table (origin? : Option Origin) (entries : List (String × Tree))
deriving Repr, Inhabited

/-! ## Paths -/

/-- One step of a path. -/
inductive PathStep where
  | key (name : String)
  /-- an item of a list; a negative place counts from its end -/
  | item (place : Int)
deriving DecidableEq, Repr

/-- A character of a key on a path. -/
def isPathChar (c : Char) : Bool := c.isAlphanum || c = '_' || c = '-' || c = ' '

/-- The place of an item, up to its closing bracket. -/
def readPlace? (s : List Char) : Option (Int × List Char) :=
  let blank (c : Char) : Bool := c = ' ' || c = '\t'
  let (negative, s) := match s.dropWhile blank with
    | '-' :: t => (true, t)
    | t => (false, t)
  let ds := s.takeWhile Char.isDigit
  let n := ds.foldl (fun n c => n * 10 + (c.toNat - '0'.toNat)) 0
  match (s.dropWhile Char.isDigit).dropWhile blank with
  | ']' :: t =>
    if ds.isEmpty ∨ Width.bound 63 ≤ n then none else some (if negative then -(n : Int) else n, t)
  | _ => none

/-- The steps of a path after its first one. -/
def readSteps? : Nat → List PathStep → List Char → Option (List PathStep)
  | 0, acc, s => if s.isEmpty then some acc.reverse else none
  | n + 1, acc, s =>
    match s with
    | [] => some acc.reverse
    | '.' :: t =>
      let name := t.takeWhile isPathChar
      if name.isEmpty then none
      else readSteps? n (.key (String.ofList name) :: acc) (t.dropWhile isPathChar)
    | '[' :: t =>
      match readPlace? t with
      | none => none
      | some (place, rest) => readSteps? n (.item place :: acc) rest
    | _ => none

/-- The path that a text stands for; one that stands for none is a key as it is. -/
def pathOf (text : String) : List PathStep :=
  let s := text.toList
  let name := s.takeWhile isPathChar
  let rest := s.dropWhile isPathChar
  if name.isEmpty then [.key text]
  else (readSteps? rest.length [.key (String.ofList name)] rest).getD [.key text]

namespace Tree

/-- A table without entries. -/
def empty : Tree := .table none []

/-- An empty value. -/
def blank : Tree := .scalar none .empty

/-- What stands under a key. -/
def get? (name : String) : Tree → Option Tree
  | .table _ entries => (entries.find? fun e => e.1 = name).map Prod.snd
  | _ => none

/-- Sets a key; what is no table becomes one. -/
def set (held : Tree) (name : String) (t : Tree) : Tree :=
  match held with
  | .table origin entries =>
    if entries.any fun e => e.1 = name then
      .table origin (entries.map fun e => if e.1 = name then (name, t) else e)
    else .table origin (entries ++ [(name, t)])
  | _ => .table none [(name, t)]

mutual

/-- What stands somewhere after a value has been written there: a table is merged into what is
held, anything else replaces it. -/
def merge (held? : Option Tree) : Tree → Tree
  | .table _ entries => mergeAll (held?.getD empty) entries
  | t => t

/-- A tree after some entries have been written into it. -/
def mergeAll (held : Tree) : List (String × Tree) → Tree
  | [] => held
  | (k, t) :: rest =>
    mergeAll (held.set (Text.lower k) (merge (held.get? (Text.lower k)) t)) rest

end

/-- The items of a list. -/
def items : Tree → List Tree
  | .list _ items => items
  | _ => []

/-- Sets an item of a list, which is filled up with empty values as far as needed; what is no
list becomes one. -/
def setItem (place : Int) (f : Tree → Tree) (t : Tree) : Tree :=
  let held := t.items
  let n : Nat := (if place < 0 then held.length + place else place).toNat
  let filled := held ++ List.replicate (n + 1 - held.length) blank
  let origin? := match t with
    | .list origin? _ => origin?
    | _ => none
  .list origin? (filled.modify n f)

/-- Writes a value under a path. -/
def put (value : Tree) : List PathStep → Tree → Tree
  | [], _ => value
  | [.key name], held => held.set (Text.lower name) (merge (held.get? (Text.lower name)) value)
  | .key name :: path, held =>
    held.set (Text.lower name) (put value path ((held.get? (Text.lower name)).getD blank))
  | .item place :: path, held => held.setItem place (put value path)

/-- Writes the entries of a source, whose keys are paths. -/
def putAll (entries : List (String × Tree)) (held : Tree) : Tree :=
  entries.foldl (fun held e => put e.2 (pathOf e.1) held) held

end Tree

end Failsafe.Settings
