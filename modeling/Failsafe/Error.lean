import Failsafe.Files
import Failsafe.Json.Fault
import Failsafe.Signal
/-
  The errors of the library as a whole.

  An error is one of a few kinds, each with its cause; `Error.message` is the text for people.
-/

namespace Failsafe

/-- An error. -/
inductive Error where
  /-- malformed input of an operator or a malformed setting -/
  | validation (detail : String)
  /-- a command at the wrong time -/
  | invalidState (detail : String)
  | internal (detail : String)
  | io (e : FileError)
  /-- a text that is no JSON of the wanted shape -/
  | json (f : Json.Fault) (text : String)
  | other (detail : String)
deriving DecidableEq, Repr

namespace Error

/-- The text of an error. -/
def message : Error → String
  | validation d => "Validation failed: " ++ d
  | invalidState d => "Invalid state: " ++ d
  | internal d => "Internal error: " ++ d
  | io e => "IO error: " ++ e.message
  | json f text => "JSON serialization error: " ++ f.report text.toList
  | other d => d

/-- A malformed input or setting. -/
def isValidation : Error → Bool
  | validation _ => true
  | _ => false

/-- A command at the wrong time. -/
def isInvalidState : Error → Bool
  | invalidState _ => true
  | _ => false

end Error

/-- A refusal as an error. -/
def Refusal.toError (r : Refusal) : Error :=
  if r.isValidation then .validation r.detail else .invalidState r.detail

end Failsafe
