/-
  The binary64 number nearest to a decimal, and the texts that stand for such numbers.

  A text is a number with digits before or after its point and perhaps an exponent, or one of
  the words for infinity and for no number, in any case, each perhaps after a sign.
-/

namespace Failsafe.Decimal

/-- The number nearest to `n · 10 ^ e`; far outside the range it is infinite or zero. -/
def nearest (n : Nat) (e : Int) : Float :=
  let magnitude : Int := e + (Nat.toDigits 10 n).length
  if n = 0 ∨ magnitude < -400 then 0.0
  else if 400 < magnitude then 1.0 / 0.0
  else if 0 ≤ e then Float.ofScientific n false e.toNat
  else Float.ofScientific n true (-e).toNat

/-- The number that digits stand for. -/
def value (ds : List Char) : Nat := ds.foldl (fun n c => n * 10 + (c.toNat - '0'.toNat)) 0

/-- The exponent at the end of a number's text; without one it is zero. -/
def exponent? : List Char → Option Int
  | [] => some 0
  | c :: rest =>
    let whole (ds : List Char) : Option Nat :=
      if ds.isEmpty ∨ !ds.all Char.isDigit then none else some (value ds)
    if c.toLower ≠ 'e' then none
    else
      match rest with
      | '-' :: ds => (whole ds).map fun n => -(n : Int)
      | '+' :: ds => (whole ds).map fun n => (n : Int)
      | ds => (whole ds).map fun n => (n : Int)

/-- The magnitude that a text without a sign stands for. -/
def magnitude? (s : List Char) : Option Float :=
  let word := String.ofList (s.map Char.toLower)
  if word = "inf" ∨ word = "infinity" then some (1.0 / 0.0)
  else if word = "nan" then some (0.0 / 0.0)
  else
    let whole := s.takeWhile Char.isDigit
    let rest := s.dropWhile Char.isDigit
    let (fraction, rest) := match rest with
      | '.' :: t => (t.takeWhile Char.isDigit, t.dropWhile Char.isDigit)
      | t => ([], t)
    if whole.isEmpty && fraction.isEmpty then none
    else (exponent? rest).map fun e => nearest (value (whole ++ fraction)) (e - fraction.length)

/-- The number that a text stands for. -/
def float? : List Char → Option Float
  | '-' :: s => (magnitude? s).map fun f => -f
  | '+' :: s => magnitude? s
  | s => magnitude? s

end Failsafe.Decimal
