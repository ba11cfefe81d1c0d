import Failsafe.Text.Blank
/-
  The modes of a pattern.

  A mode is switched on or off by its letter, from there on to the end of the group around it. In
  one of them blanks and comments are passed over, so that every reader of a part of a pattern
  takes the modes first.
-/

namespace Failsafe.Log.Pattern

/-- The modes at some point of a pattern. -/
structure Modes where
  /-- letters of either case match -/
  fold : Bool
  /-- classes are those of the first 128 characters -/
  ascii : Bool
  /-- blanks and comments are passed over -/
  spaced : Bool
deriving DecidableEq, Repr

/-- The text without blanks and comments in front. A comment begins with a number sign and goes on
to the end of the line; the flag tells that the text begins inside of one. -/
def skipRemarks : Bool → List Char → List Char
  | _, [] => []
  | true, c :: s => skipRemarks (c ≠ '\n') s
  | false, c :: s =>
    if Text.isSpace c then skipRemarks false s
    else if c = '#' then skipRemarks true s
    else c :: s

namespace Modes

/-- The modes at the start of a pattern. -/
def start : Modes := ⟨false, false, false⟩

/-- A character can stand for itself: there is no table that would tell its other case. -/
def allowsLetters (m : Modes) : Bool := !m.fold || m.ascii

/-- The text without what is passed over. -/
def skip (m : Modes) (s : List Char) : List Char := if m.spaced then skipRemarks false s else s

/-- The character that comes after the next one. Where blanks are passed over, a comment's number
sign is passed over too, but not the comment; and if nothing else is left, blanks count after
all. -/
def second? (m : Modes) (s : List Char) : Option Char :=
  let rest := s.drop 1
  if m.spaced then
    match rest.dropWhile Text.isSpace with
    | '#' :: t => (t.dropWhile Text.isSpace).head?.or rest.head?
    | t => t.head?.or rest.head?
  else rest.head?

/-- Switches a mode on or off; `none` if there is no such mode. -/
def switch? (m : Modes) (on : Bool) : Char → Option Modes
  | 'i' => some { m with fold := on }
  | 'u' => some { m with ascii := !on }
  | 'x' => some { m with spaced := on }
  | 'm' | 's' | 'U' | 'R' => some m
  | _ => none

/-- Switches modes up to a closing parenthesis or a colon, at which the text is left. `seen` holds
the letters so far. -/
def read? (m : Modes) (on : Bool) (seen : List Char) : List Char → Option (Modes × List Char)
  | [] => none
  | c :: s =>
    if c = ')' ∨ c = ':' then
      if seen.head? = some '-' then none else some (m, c :: s)
    else if seen.contains c then none
    else if c = '-' then m.read? false (c :: seen) s
    else
      match m.switch? on c with
      | none => none
      | some m => m.read? on (c :: seen) s

end Modes

end Failsafe.Log.Pattern
