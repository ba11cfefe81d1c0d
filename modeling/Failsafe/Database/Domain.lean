import Failsafe.Database.Punycode
import Failsafe.Text.Composition
import Failsafe.Text.Direction
import Failsafe.Text.Folding
import Failsafe.Text.Joining
/-
  Domain names.

  A name is a text of labels with points between them. It counts in its folded and composed form
  (`fold?`), in which a label may still be spelled in ASCII. `labels?` are the labels as people
  read them, if all of them are well-formed. An empty label is a label like the others.
-/

namespace Failsafe.Database.Domain

/-! ## Characters -/

/-- The marks that no domain name holds; controls and blanks are not among its characters
either. -/
def deniedMarks : List Char := ['%', '#', '/', ':', '<', '>', '?', '@', '[', '\\', ']', '^', '|']

/-- A character that a folded name may hold. -/
def isAllowed (c : Char) : Bool :=
  128 ≤ c.toNat || (decide (' ' < c) && c ≠ '\x7f' && !deniedMarks.contains c)

/-- The folded and composed form of a text. What a composed character replaces need not be
allowed. -/
def fold? (s : List Char) : Option (List Char) :=
  match s.mapM Text.fold? with
  | none => none
  | some l =>
    let composed := Text.compose l.flatten
    if composed.all isAllowed then some composed else none

/-! ## Labels -/

/-- A character beyond ASCII. -/
def isForeign (c : Char) : Bool := 128 ≤ c.toNat

/-- How many characters a label may have that has to be spelled in ASCII. -/
def longestForeign : Nat := 1000

/-- How many characters may spell a label. -/
def longestSpelling : Nat := 2000

/-- What is spelled in ASCII has to be spelled that way: it is not ASCII itself, is in its folded
and composed form, and spells nothing in turn. -/
def needsSpelling (label : List Char) : Bool :=
  label.any isForeign && label.all (fun c => Text.isFolded c && isAllowed c && c ≠ '.')
    && Text.isComposed label && !Punycode.isMarked label

/-- What a folded label reads. -/
def read? (label : List Char) : Option (List Char) :=
  if Punycode.isMarked label then
    if label.any isForeign || decide (longestSpelling < (label.drop 4).length) then none
    else (Punycode.decode? label).filter needsSpelling
  else some label

/-- The label is not too long to be spelled, if it has to be. -/
def canBeSpelled (label : List Char) : Bool :=
  !label.any isForeign || decide (label.length ≤ longestForeign)

/-- The label begins with a character of its own. -/
def startsOwn (label : List Char) : Bool := !label.head?.any Text.isMark

/-- A joiner can stand between what is before it, given last first, and what is after it: behind
a mark that takes away a vowel, or to keep apart letters that would be joined. -/
def canJoin (before : List Char) (c : Char) (after : List Char) : Bool :=
  match before with
  | [] => false
  | d :: _ =>
    Text.isVirama d
      || (c = Text.nonJoiner
        && (before.dropWhile Text.isTransparent).head?.any Text.joinsAfter
        && (after.dropWhile Text.isTransparent).head?.any Text.joinsBefore)

/-- All joiners of a label are where they can be; `before` is what comes before, last first. -/
def joinsWell (before : List Char) : List Char → Bool
  | [] => true
  | c :: after =>
    (!Text.isJoiner c || canJoin before c after) && joinsWell (c :: before) after

/-! ## Directions -/

/-- A character that makes directions matter. -/
def turns (c : Char) : Bool :=
  match Text.direction c with
  | .right | .arabicDigit => true
  | _ => false

/-- The directions of what follows the first character, without the marks at the end. -/
def tailDirections (label : List Char) : List Text.Direction :=
  (((label.drop 1).map Text.direction).reverse.dropWhile (· = .mark)).reverse

/-- A direction that a label from left to right can hold. -/
def goesLeft : Text.Direction → Bool
  | .right | .arabicDigit => false
  | _ => true

/-- A direction with which a label from left to right can end. -/
def endsLeft : Text.Direction → Bool
  | .left | .europeanDigit => true
  | _ => false

/-- A direction with which a label from right to left can end. -/
def endsRight : Text.Direction → Bool
  | .right | .europeanDigit | .arabicDigit => true
  | _ => false

/-- A label whose beginning and end tell its direction, which everything in it shares. Digits of
two kinds do not go together. -/
def runsWell (label : List Char) : Bool :=
  let tail := tailDirections label
  match label.head?.map Text.direction with
  | none => true
  | some .left => tail.all goesLeft && tail.getLast?.all endsLeft
  | some .right =>
    tail.all (· ≠ .left) && tail.getLast?.all endsRight
      && !(tail.contains .europeanDigit && tail.contains .arabicDigit)
  | some _ => false

/-! ## Names -/

/-- The labels of a name. -/
def labels? (s : List Char) : Option (List (List Char)) := do
  let folded ← fold? s
  let labels ← (folded.splitOn '.').mapM read?
  let fits (label : List Char) : Bool :=
    canBeSpelled label && startsOwn label && joinsWell [] label
  let turned := labels.any fun label => label.any turns
  if labels.all fits && (!turned || labels.all runsWell) then some labels else none

/-- The name with what its labels read. -/
def name? (s : List Char) : Option (List Char) := (labels? s).map (List.intercalate ['.'])

end Failsafe.Database.Domain
