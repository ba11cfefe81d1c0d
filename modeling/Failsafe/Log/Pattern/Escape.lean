import Failsafe.Json.Reader
import Failsafe.Log.Pattern.Modes
/-
  What a backslash can be followed by in a pattern.
-/

namespace Failsafe.Log.Pattern

/-- What an escape stands for. -/
inductive Escape where
  | character (n : Nat)
  /-- any of some characters -/
  | oneOf
  /-- a place between characters -/
  | place
deriving DecidableEq, Repr

/-- The escape stands for one of the first 128 characters. -/
def Escape.isBasic : Escape → Bool
  | character n => n < 128
  | _ => false

/-- The letters of escapes that stand for a character without a mark of its own. -/
def controls : List (Char × Nat) :=
  [('a', 7), ('f', 12), ('t', 9), ('n', 10), ('r', 13), ('v', 11)]

/-- The value of a number of hexadecimal digits. What is passed over may stand in front of and
behind each of them. -/
def readDigits? (m : Modes) : Nat → Nat → List Char → Option (Nat × List Char)
  | 0, value, s => some (value, m.skip s)
  | count + 1, value, s =>
    match m.skip s with
    | [] => none
    | c :: rest =>
      match Json.hexValue c with
      | some d => readDigits? m count (value * 16 + d) rest
      | none => none

/-- A character given by a number of hexadecimal digits. -/
def readCode? (m : Modes) (count : Nat) (s : List Char) : Option (Escape × List Char) :=
  match readDigits? m count 0 s with
  | some (n, rest) => if n.isValidChar then some (.character n, rest) else none
  | none => none

/-- An escape after its backslash. -/
def readEscape? (m : Modes) : List Char → Option (Escape × List Char)
  | [] => none
  | 'x' :: s => (readCode? m 2 s).filter fun e => !m.ascii || e.1.isBasic
  | 'u' :: s => readCode? m 4 s
  | 'U' :: s => readCode? m 8 s
  | c :: s =>
    if c = 'A' ∨ c = 'z' then some (.place, s)
    else if ['b', 'B', '<', '>'].contains c then if m.ascii then some (.place, s) else none
    else if ['d', 's', 'w'].contains c then if m.ascii then some (.oneOf, s) else none
    else
      match controls.find? fun e => e.1 = c with
      | some e => some (.character e.2, s)
      | none =>
        if c.toNat < 128 ∧ !c.isAlphanum then some (.character c.toNat, s) else none

end Failsafe.Log.Pattern
