import Failsafe.Log.Pattern.Escape
/-
  The classes of characters in a pattern.

  A class stands between brackets. It holds characters, ranges of them, other classes, and
  operators between such sequences. `readClass?` tells how deep a class is nested: each pair of
  brackets, each sequence of several members and each operator is one level.
-/

namespace Failsafe.Log.Pattern

/-- The levels of a sequence of parts, from those of the parts. A single part is no sequence. -/
def levels : List Nat → Nat
  | [] => 0
  | [n] => n
  | l => l.foldl max 0 + 1

/-- A class that is open. -/
structure OpenClass where
  /-- the levels of what is on the left of an operator -/
  left? : Option Nat
  /-- the levels of the members since then -/
  members : List Nat
deriving DecidableEq, Repr

namespace OpenClass

/-- The levels of the class so far. -/
def levels (k : OpenClass) : Nat :=
  match k.left? with
  | none => Pattern.levels k.members
  | some n => max n (Pattern.levels k.members) + 1

/-- The class with one more member. -/
def add (k : OpenClass) (n : Nat) : OpenClass := { k with members := n :: k.members }

/-- The class before the right side of an operator. -/
def operator (k : OpenClass) : OpenClass := ⟨some k.levels, []⟩

end OpenClass

/-- The names of classes between colons. -/
def classNames : List String :=
  ["alnum", "alpha", "ascii", "blank", "cntrl", "digit", "graph", "lower", "print", "punct",
    "space", "upper", "word", "xdigit"]

/-- A class given by its name, after the opening bracket; the flag tells that it is negated. -/
def readNamedClass? : List Char → Option (Bool × List Char)
  | ':' :: s =>
    let (negated, s) := match s with
      | '^' :: t => (true, t)
      | t => (false, t)
    match s.dropWhile (· ≠ ':') with
    | ':' :: ']' :: rest =>
      if classNames.contains (String.ofList (s.takeWhile (· ≠ ':'))) then some (negated, rest)
      else none
    | _ => none
  | _ => none

/-- The dashes in the first place of a class, each of them a member. -/
def openDashes (m : Modes) : Nat → OpenClass → List Char → OpenClass × List Char
  | n + 1, k, '-' :: s => openDashes m n (k.add 0) (m.skip s)
  | _, k, s => (k, s)

/-- The beginning of a class, after its opening bracket: a sign that negates it, then dashes or
a bracket that are members. -/
def openClass? (m : Modes) (s : List Char) : Option (OpenClass × List Char) :=
  let (negated, s) := match m.skip s with
    | '^' :: t => (true, m.skip t)
    | t => (false, t)
  if negated ∧ m.ascii then none
  else
    let found := match openDashes m s.length ⟨none, []⟩ s with
      | (⟨none, []⟩, ']' :: t) => (⟨none, [0]⟩, m.skip t)
      | found => found
    if found.2.isEmpty || !(m.allowsLetters || found.1.members.isEmpty) then none else some found

/-- One character of a class, or an escape. -/
def readMember? (m : Modes) : List Char → Option (Escape × List Char)
  | [] => none
  | '\\' :: s => (readEscape? m s).filter fun e => e.1 ≠ .place
  | c :: s => some (.character c.toNat, s)

/-- One member of a class, which may be a range. -/
def readRange? (m : Modes) (s : List Char) : Option (List Char) := do
  let allowed (e : Escape) : Bool := m.allowsLetters && (!m.ascii || e = .oneOf || e.isBasic)
  let (first, rest) ← (readMember? m s).filter fun e => allowed e.1
  match m.skip rest with
  | [] => none
  | '-' :: t =>
    if [some ']', some '-'].contains (m.second? ('-' :: t)) then some ('-' :: t)
    else
      let (last, rest) ← (readMember? m (m.skip t)).filter fun e => allowed e.1
      match first, last with
      | .character a, .character b => if a ≤ b then some rest else none
      | _, _ => none
  | rest => some rest

/-- Classes named inside of others can be had if nothing has to be folded, and without those that
they exclude if there are only 128 characters. -/
def Modes.allowsNamed (m : Modes) (negated : Bool) : Bool :=
  m.allowsLetters && !(m.ascii && negated)

/-- What follows the classes that are open, the inner ones first, and the levels of the outermost
one. -/
def closeClass? (m : Modes) : Nat → OpenClass → List OpenClass → List Char →
    Option (Nat × List Char)
  | 0, _, _, _ => none
  | n + 1, k, outer, s =>
    match m.skip s with
    | [] => none
    | '[' :: t =>
      match readNamedClass? t with
      | some (negated, rest) =>
        if m.allowsNamed negated then closeClass? m n (k.add 0) outer rest else none
      | none => (openClass? m t).bind fun (inner, rest) => closeClass? m n inner (k :: outer) rest
    | ']' :: t =>
      match outer with
      | [] => some (k.levels + 1, t)
      | around :: outer => closeClass? m n (around.add (k.levels + 1)) outer t
    | '&' :: '&' :: t => closeClass? m n k.operator outer t
    | '-' :: '-' :: t => closeClass? m n k.operator outer t
    | '~' :: '~' :: t => closeClass? m n k.operator outer t
    | t => (readRange? m t).bind fun rest => closeClass? m n (k.add 0) outer rest

/-- The levels of a class, and what follows it, from behind its opening bracket on. -/
def readClass? (m : Modes) (s : List Char) : Option (Nat × List Char) :=
  (openClass? m s).bind fun (k, rest) => closeClass? m (rest.length + 1) k [] rest

end Failsafe.Log.Pattern
