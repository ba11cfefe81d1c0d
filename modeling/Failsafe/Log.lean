import Failsafe.Decimal.Shortest
import Failsafe.Text.Quoted
/-
  Log records and their one-line form.

  A record has a level, the target it is filed under, a message and named fields. Words and
  numbers are written as they are, texts between quotes.
-/

namespace Failsafe.Log

/-- How important a record is. -/
inductive Level where
  | trace
  | debug
  | info
  | warn
  | error
deriving DecidableEq, Repr, Inhabited

/-- The rank of a level; more important records have a larger one. -/
def Level.rank : Level → Nat
  | trace => 0
  | debug => 1
  | info => 2
  | warn => 3
  | error => 4

/-- The written form of a level. -/
def Level.name : Level → String
  | trace => "TRACE"
  | debug => "DEBUG"
  | info => "INFO"
  | warn => "WARN"
  | error => "ERROR"

/-- The value of a field. -/
inductive Field where
  /-- written as it is -/
  | word (s : String)
  /-- written between quotes -/
  | text (s : String)
  | number (n : Int)
  | flag (b : Bool)
deriving DecidableEq, Repr

/-- A count as a field. -/
def Field.count (n : Nat) : Field := .number n

/-- An optional text as a word. -/
def Field.optional : Option String → Field
  | none => .word "None"
  | some s => .word ("Some(" ++ Text.quoted s ++ ")")

/-- The written form of a field's value. -/
def Field.write : Field → String
  | word s => s
  | text s => Text.quoted s
  | number n => String.ofList (Decimal.integer n)
  | flag b => if b then "true" else "false"

/-- A log record. -/
structure Record where
  level : Level
  target : String
  message : String
  fields : List (String × Field)
deriving DecidableEq, Repr

/-- The record is filed under a module. -/
def Record.hasModule (r : Record) : Bool := 1 < (r.target.splitOn "::").length

/-- The message and the fields of a record. -/
def Record.body (r : Record) : String :=
  r.fields.foldl (fun line f => line ++ " " ++ f.1 ++ "=" ++ f.2.write) r.message

/-- The one-line form of a record. -/
def Record.line (r : Record) : String := r.level.name ++ " " ++ r.target ++ ": " ++ r.body

end Failsafe.Log
