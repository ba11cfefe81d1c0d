/-
  Labels of domain names that spell other labels in ASCII.

  After a mark and the characters that are ASCII come numbers to the base 36, each of which tells
  how far on, counted through all places and all characters, the next character stands.
-/

namespace Failsafe.Database.Punycode

/-- The label begins with the mark of those that spell others. -/
def isMarked (label : List Char) : Bool := (label.take 4).map Char.toLower = ['x', 'n', '-', '-']

/-- The bias for a number that is divided down, as often as its size allows. -/
def biasOf : Nat → Nat → Nat → Nat
  | n + 1, k, d => if 455 < d then biasOf n (k + 36) (d / 35) else k + 36 * d / (d + 38)
  | 0, k, d => k + 36 * d / (d + 38)

/-- The bias after a number has been read, with which there are `points` characters. -/
def adapt (delta points : Nat) (first : Bool) : Nat :=
  let scaled := if first then delta / 700 else delta / 2
  biasOf scaled.log2 0 (scaled + scaled / points)

/-- The value of a digit to the base 36; letters come first. -/
def digit? (c : Char) : Option Nat :=
  if c.isDigit then some (c.toNat - '0'.toNat + 26)
  else if c.isAlpha then some (c.toLower.toNat - 'a'.toNat)
  else none

/-- Adds a number to a sum: its digits count for more and more, and the first small one is the
last. -/
def readNumber? (bias k weight sum : Nat) : List Char → Option (Nat × List Char)
  | [] => none
  | c :: rest =>
    match digit? c with
    | none => none
    | some d =>
      let threshold := if k ≤ bias then 1 else min 26 (k - bias)
      if d < threshold then some (sum + d * weight, rest)
      else readNumber? bias (k + 36) (weight * (36 - threshold)) (sum + d * weight) rest

/-- Inserts the characters that numbers stand for; the last one before them was `point`, and the
next place is `place`. -/
def insertAll? : Nat → Nat → Nat → Nat → List Char → List Char → Option (List Char)
  | _, _, _, _, label, [] => some label
  | 0, _, _, _, _, _ => none
  | n + 1, bias, point, place, label, c :: s =>
    match readNumber? bias 36 1 place (c :: s) with
    | none => none
    | some (sum, rest) =>
      let points := label.length + 1
      let point := point + sum / points
      let at' := sum % points
      if point.isValidChar then
        insertAll? n (adapt (sum - place) points (place = 0)) point (at' + 1)
          (label.insertIdx at' (Char.ofNat point)) rest
      else none

/-- What a marked label spells. The last dash ends the characters that are ASCII, of which there
has to be one if there is a dash. -/
def decode? (label : List Char) : Option (List Char) :=
  let s := label.drop 4
  let numbers := (s.reverse.takeWhile (· ≠ '-')).reverse
  let basic := (s.reverse.dropWhile (· ≠ '-')).tail.reverse
  if basic.isEmpty && s.contains '-' then none
  else insertAll? numbers.length 72 128 0 (basic.map Char.toLower) numbers

end Failsafe.Database.Punycode
