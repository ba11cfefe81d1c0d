import Failsafe.Width
/-
  The fewest decimal digits that read back as a given binary64 number.

  A finite number is a significand times a power of two (`Binary`). The reals that round to it
  form an interval, its ends included exactly when the significand is even. `shortest` walks
  the decimal grids from coarse to fine and takes the first that has a point in the interval;
  of two such points the nearer one, of two equally near ones the even one.
-/

namespace Failsafe.Decimal

/-- A finite binary64 magnitude: `significand · 2 ^ exponent`. -/
structure Binary where
  significand : Nat
  exponent : Int
deriving DecidableEq, Repr

namespace Binary

/-- The sign bit of a binary64 pattern. -/
def isNegative (bits : UInt64) : Bool := Width.bound 63 ≤ bits.toNat

/-- The exponent field of a binary64 pattern. -/
def exponentField (bits : UInt64) : Nat := bits.toNat / Width.bound 52 % Width.bound 11

/-- The fraction field of a binary64 pattern. -/
def fractionField (bits : UInt64) : Nat := bits.toNat % Width.bound 52

/-- The magnitude that a pattern with a finite exponent field stands for. -/
def ofBits (bits : UInt64) : Binary :=
  if exponentField bits = 0 then ⟨fractionField bits, -1074⟩
  else ⟨Width.bound 52 + fractionField bits, exponentField bits - 1075⟩

/-- The distance to the lower end of the rounding interval, in quarters of the last place: it is
halved where the significand is the least of its binade. -/
def lowerQuarters (b : Binary) : Nat :=
  if b.significand = Width.bound 52 ∧ -1074 < b.exponent then 1 else 2

end Binary

/-- The decimal number `digits · 10 ^ exponent`. -/
structure Digits where
  digits : Nat
  exponent : Int
deriving DecidableEq, Repr

/-- The value and its rounding interval as multiples of `1 / den`: `low`, `mid` and `high`. -/
structure Interval where
  low : Nat
  mid : Nat
  high : Nat
  den : Nat
  closed : Bool

/-- The reals that round to `b`. -/
def Interval.ofBinary (b : Binary) : Interval :=
  let scale := b.exponent - 2
  let up := Width.bound scale.toNat
  { low := (4 * b.significand - b.lowerQuarters) * up
    mid := 4 * b.significand * up
    high := (4 * b.significand + 2) * up
    den := Width.bound (-scale).toNat
    closed := b.significand % 2 = 0 }

/-- The interval in units of `10 ^ e`. -/
def Interval.atGrid (i : Interval) (e : Int) : Interval :=
  let up := Nat.pow 10 (-e).toNat
  { low := i.low * up, mid := i.mid * up, high := i.high * up, den := i.den * Nat.pow 10 e.toNat
    closed := i.closed }

/-- The whole number `k` lies in the interval. -/
def Interval.contains (i : Interval) (k : Nat) : Bool :=
  if i.closed then i.low ≤ k * i.den ∧ k * i.den ≤ i.high
  else i.low < k * i.den ∧ k * i.den < i.high

/-- The whole number in the interval that is nearest to its value, if there is one. -/
def Interval.nearest? (i : Interval) : Option Nat :=
  let below := i.mid / i.den
  let above := below + 1
  match i.contains below, i.contains above with
  | false, false => none
  | true, false => some below
  | false, true => some above
  | true, true =>
    let down := i.mid - below * i.den
    let rise := above * i.den - i.mid
    if down < rise then some below
    else if rise < down then some above
    else if below % 2 = 0 then some below else some above

/-- The first grid, from `10 ^ e` downwards, that meets the interval. -/
def Interval.coarsest (i : Interval) : Nat → Int → Digits
  | 0, e => ⟨(i.atGrid e).mid / (i.atGrid e).den, e⟩
  | steps + 1, e =>
    match (i.atGrid e).nearest? with
    | some k => ⟨k, e⟩
    | none => i.coarsest steps (e - 1)

/-- The shortest decimal that reads back as `b`; seventeen digits are always enough. -/
def shortest (b : Binary) : Digits :=
  if b.significand = 0 then ⟨0, 0⟩
  else
    let i := Interval.ofBinary b
    let log2 : Int := (Nat.log2 i.mid : Int) - Nat.log2 i.den
    i.coarsest 24 (log2 * 30103 / 100000 + 2)

/-- How a decimal is written: positionally while the scientific exponent lies in
`least … greatest`, with `.0` after a whole number if `pointed`. -/
structure Style where
  least : Int
  greatest : Int
  pointed : Bool

/-- The style of floats that are shown to people: always positional. -/
def Style.positional (pointed : Bool) : Style := ⟨-400, 400, pointed⟩

/-- The digits of `n` in base ten. -/
def natural (n : Nat) : List Char := Nat.toDigits 10 n

/-- The digits of `n` in base ten, a minus sign in front of a negative one. -/
def integer (n : Int) : List Char :=
  if n < 0 then '-' :: natural n.natAbs else natural n.natAbs

/-- The text of a positive decimal in the given style. -/
def Digits.write (style : Style) (d : Digits) : List Char :=
  let ds := natural d.digits
  let scientific : Int := d.exponent + ds.length - 1
  if style.least ≤ scientific ∧ scientific ≤ style.greatest then
    if 0 ≤ d.exponent then
      ds ++ List.replicate d.exponent.toNat '0' ++ (if style.pointed then ['.', '0'] else [])
    else if 0 ≤ scientific then
      ds.take (scientific.toNat + 1) ++ '.' :: ds.drop (scientific.toNat + 1)
    else '0' :: '.' :: List.replicate (-scientific - 1).toNat '0' ++ ds
  else
    let head := match ds with
      | [] => []
      | [c] => [c]
      | c :: rest => c :: '.' :: rest
    head ++ 'e' :: (if scientific < 0 then '-' else '+') :: natural scientific.natAbs

/-- The text of a binary64 pattern in the given style. -/
def write (style : Style) (bits : UInt64) : List Char :=
  let sign := if Binary.isNegative bits then ['-'] else []
  if Binary.exponentField bits = 2047 then
    if Binary.fractionField bits = 0 then sign ++ ['i', 'n', 'f'] else ['N', 'a', 'N']
  else if (Binary.ofBits bits).significand = 0 then
    sign ++ (if style.pointed then ['0', '.', '0'] else ['0'])
  else sign ++ (shortest (Binary.ofBits bits)).write style

end Failsafe.Decimal
