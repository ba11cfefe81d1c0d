import Failsafe.Width
/-
  Whole numbers written by people: decimal digits after an optional plus sign.

  The first character that cannot be read decides what is wrong with a text: either it is no
  digit, or with it the number leaves the range.
-/

namespace Failsafe.Decimal

/-- Why a text is no whole number. -/
inductive WholeError where
  | empty
  | notDigit
  | tooLarge
  | tooSmall
deriving DecidableEq, Repr

/-- The text of an error. -/
def WholeError.message : WholeError → String
  | empty => "cannot parse integer from empty string"
  | notDigit => "invalid digit found in string"
  | tooLarge => "number too large to fit in target type"
  | tooSmall => "number too small to fit in target type"

/-- Reads digits after the number `n`, which has to stay at most `limit`. -/
def readDigits (limit : Nat) (beyond : WholeError) : Nat → List Char → Except WholeError Nat
  | n, [] => .ok n
  | n, c :: rest =>
    if !c.isDigit then .error .notDigit
    else
      let next := n * 10 + (c.toNat - '0'.toNat)
      if limit < next then .error beyond else readDigits limit beyond next rest

/-- Reads a natural number of at most `limit`. -/
def readNatural (limit : Nat) : List Char → Except WholeError Nat
  | [] => .error .empty
  | ['+'] => .error .notDigit
  | '+' :: rest => readDigits limit .tooLarge 0 rest
  | s => readDigits limit .tooLarge 0 s

/-- Reads an integer from `-(limit + 1)` to `limit`. -/
def readInteger (limit : Nat) : List Char → Except WholeError Int
  | ['-'] => .error .notDigit
  | '-' :: rest => (readDigits (limit + 1) .tooSmall 0 rest).map fun n => -(n : Int)
  | s => (readNatural limit s).map fun n => (n : Int)

end Failsafe.Decimal
