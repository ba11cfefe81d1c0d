import Failsafe.Log.Pattern.Class
import Failsafe.Text.Letter
/-
  Which texts are patterns.

  A pattern is a regular expression with groups, classes, repetitions and modes, nested in at most
  `levelLimit` levels. It has to be one that can be matched without tables of characters: classes
  of all letters or digits, the ends of words and letters of either case are for patterns that
  a mode confines to the first 128 characters. What a filter takes for a pattern never holds
  a closing brace, so that no brace can open anything.
-/

namespace Failsafe.Log.Pattern

/-! ## Groups -/

/-- What a parenthesis opens. -/
inductive Opening where
  | group (name? : Option String) (m : Modes)
  /-- no group at all: modes for the rest of the group around it -/
  | switch (m : Modes)
deriving DecidableEq, Repr

/-- The name of a group, up to its closing bracket. -/
def readName? (s : List Char) : Option (String × List Char) :=
  let isPart (c : Char) : Bool :=
    c = '_' || c = '.' || c = '[' || c = ']' || Text.isLetterOrDigit c
  match s.takeWhile isPart, s.dropWhile isPart with
  | c :: name, '>' :: rest =>
    if c = '_' ∨ Text.isLetter c then some (String.ofList (c :: name), rest) else none
  | _, _ => none

/-- What follows an opening parenthesis. -/
def readOpening? (m : Modes) (s : List Char) : Option (Opening × List Char) :=
  let named (t : List Char) : Option (Opening × List Char) :=
    (readName? t).map fun r => (.group (some r.1) m, r.2)
  match m.skip s with
  | '?' :: 'P' :: '<' :: t => named t
  | '?' :: '<' :: t => named t
  | '?' :: t =>
    match m.read? true [] t with
    | some (m, ')' :: rest) => if t.head? = some ')' then none else some (.switch m, rest)
    | some (m, _ :: rest) => some (.group none m, rest)
    | _ => none
  | t => some (.group none m, t)

/-! ## Patterns -/

/-- How deep a pattern may be nested. -/
def levelLimit : Nat := 250

/-- A part of a pattern. -/
structure Part where
  levels : Nat
  /-- the part can be repeated -/
  repeats : Bool
deriving DecidableEq, Repr

/-- A group that is open, or the pattern as a whole. -/
structure OpenGroup where
  /-- the levels of the alternatives before the last -/
  earlier : List Nat
  /-- the parts of the last alternative, last first -/
  parts : List Part
  modes : Modes
deriving DecidableEq, Repr

namespace OpenGroup

/-- The levels of the last alternative. -/
def last (g : OpenGroup) : Nat := levels (g.parts.map Part.levels)

/-- The levels of the group so far. -/
def levels (g : OpenGroup) : Nat := Pattern.levels (g.last :: g.earlier)

/-- The group with a part that can be repeated. -/
def add (g : OpenGroup) (levels : Nat) : OpenGroup := { g with parts := ⟨levels, true⟩ :: g.parts }

/-- The last part repeated. -/
def repeat? (g : OpenGroup) : Option OpenGroup :=
  match g.parts with
  | ⟨n, true⟩ :: parts => some { g with parts := ⟨n + 1, true⟩ :: parts }
  | _ => none

/-- The group with another alternative. -/
def alternative (g : OpenGroup) : OpenGroup := ⟨g.last :: g.earlier, [], g.modes⟩

end OpenGroup

/-- A point in a pattern. -/
structure State where
  /-- the innermost group -/
  group : OpenGroup
  /-- the groups around it, inner ones first -/
  outer : List OpenGroup
  names : List String
deriving DecidableEq, Repr

namespace State

/-- The start of a pattern. -/
def start : State := ⟨⟨[], [], .start⟩, [], []⟩

/-- After a part of the innermost group. -/
def add (x : State) (levels : Nat) : State := { x with group := x.group.add levels }

/-- After an opening parenthesis. -/
def enter? (x : State) : Opening → Option State
  | .switch m => some { x with group := ⟨x.group.earlier, ⟨0, false⟩ :: x.group.parts, m⟩ }
  | .group none m => some ⟨⟨[], [], m⟩, x.group :: x.outer, x.names⟩
  | .group (some name) m =>
    if x.names.contains name then none
    else some ⟨⟨[], [], m⟩, x.group :: x.outer, name :: x.names⟩

/-- After a closing parenthesis. -/
def leave? (x : State) : Option State :=
  match x.outer with
  | [] => none
  | around :: outer => some { x with group := around.add (x.group.levels + 1), outer }

end State

/-- One step through a pattern, where there is nothing to pass over. -/
def step? (x : State) (c : Char) (s : List Char) : Option (State × List Char) :=
  let m := x.group.modes
  match c with
  | '(' => (readOpening? m s).bind fun o => (x.enter? o.1).map fun x => (x, o.2)
  | ')' => x.leave?.map fun x => (x, s)
  | '|' => some ({ x with group := x.group.alternative }, s)
  | '*' | '+' | '?' =>
    x.group.repeat?.map fun group =>
      ({ x with group }, if s.head? = some '?' then s.drop 1 else s)
  | '\x7b' => none
  | '^' | '$' => some (x.add 0, s)
  | '.' => if m.ascii then none else some (x.add 0, s)
  | '[' => (readClass? m s).map fun (n, rest) => (x.add n, rest)
  | '\\' =>
    match readEscape? m s with
    | some (.character _, rest) => if m.allowsLetters then some (x.add 0, rest) else none
    | some (_, rest) => some (x.add 0, rest)
    | none => none
  | _ => if m.allowsLetters then some (x.add 0, s) else none

/-- The levels of a pattern, read in at most as many steps as it has characters. -/
def levels? : Nat → State → List Char → Option Nat
  | n, x, s =>
    match n, x.group.modes.skip s with
    | _, [] => if x.outer.isEmpty then some x.group.levels else none
    | 0, _ => none
    | n + 1, c :: rest => (step? x c rest).bind fun (x, rest) => levels? n x rest

/-- The text is a pattern. -/
def isPattern (s : List Char) : Bool :=
  (levels? s.length .start s).any fun n => decide (n ≤ levelLimit)

end Failsafe.Log.Pattern
