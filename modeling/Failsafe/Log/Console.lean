import Failsafe.Json.Printer
import Failsafe.Log
/-
  The two forms in which records are written to the console: lines of text and JSON objects.

  The time of writing is not part of these forms; it is put in front of a line and into an
  object.
-/

namespace Failsafe.Log

/-- The line of text of a record, without the time: the level is aligned to the right. -/
def Record.row (r : Record) : String :=
  let level := r.level.name
  let margin := String.ofList (List.replicate (5 - level.length) ' ')
  margin ++ level ++ " " ++ r.target ++ ": " ++ r.body

/-- The value of a field in the JSON form: numbers and truth values stay what they are. -/
def Field.toJson : Field → Json.Value
  | word s => .str s
  | text s => .str s
  | number n => .int n
  | flag b => .bool b

/-- The members of the JSON form of a record. -/
def Record.members (r : Record) : List (String × Json.Value) :=
  [("level", .str r.level.name),
    ("fields", .obj (("message", .str r.message) :: r.fields.map fun f => (f.1, f.2.toJson))),
    ("target", .str r.target)]

end Failsafe.Log
