import Failsafe.Decimal.Nearest
import Failsafe.Decimal.Whole
import Failsafe.Toml.Text
import Failsafe.Toml.Value
/-
  Reading the numbers of a TOML text.

  Underscores may stand between digits. A whole number may be written in base 16, 8 or 2; it has
  64 bits. A float has a fraction, an exponent or both, or is one of the words for infinity and
  for no number.
-/

namespace Failsafe.Toml

open Reader

/-! ## Digits -/

/-- The digits after a first one; single underscores may stand between them. -/
def digitsFrom (isDigit : Char → Bool) : List Char → Except Fault (List Char × List Char)
  | [] => .ok ([], [])
  | c :: s =>
    if isDigit c then (digitsFrom isDigit s).map fun (ds, rest) => (c :: ds, rest)
    else if c = '_' then
      match s with
      | [] => .error ((Fault.before []).final.note (.expected "digit"))
      | d :: t =>
        if isDigit d then (digitsFrom isDigit t).map fun (ds, rest) => (d :: ds, rest)
        else .error ((Fault.before (d :: t)).final.note (.expected "digit"))
    else .ok ([], c :: s)

/-- One digit or more, of which the first passes a test of its own. -/
def digitsAfter (isFirst isDigit : Char → Bool) : Reader (List Char) := do
  let c ← satisfy isFirst
  let ds ← (digitsFrom isDigit : Reader (List Char))
  pure (c :: ds)

/-- One digit or more. -/
def digits (isDigit : Char → Bool) : Reader (List Char) := digitsAfter isDigit isDigit

/-- A sign, if there is one. -/
def sign : Reader (List Char) := do
  let c? ← optional (satisfy fun c => c = '+' || c = '-')
  pure c?.toList

/-! ## Whole numbers -/

/-- A whole number in another base, given by its mark. -/
def based (base : Nat) (construct : String) (mark : Char) : Reader Value :=
  let isDigit (c : Char) : Bool := (hexDigit? c).any fun d => d < base
  let bounded (ds : List Char) : Except (Option String) Value :=
    let n := ds.foldl (fun n c => n * base + (hexDigit? c).getD 0) 0
    if n < Width.bound 63 then .ok (.integer n)
    else .error (some Decimal.WholeError.tooLarge.message)
  cut (verify bounded (label construct (do
    word ['0', mark]
    cut (digits isDigit))))

/-- The digits of a whole number in base ten, with its sign; a zero stands alone. -/
def decimal : Reader (List Char) := label "integer" (do
  let signs ← sign
  let ds ← either (digitsAfter (fun c => c.isDigit && c ≠ '0') Char.isDigit) (do
    let c ← satisfy Char.isDigit
    pure [c])
  pure (signs ++ ds))

/-- The whole number that a text with a sign stands for. -/
def wholeOf (s : List Char) : Except (Option String) Value :=
  match Decimal.readInteger (Width.bound 63 - 1) s with
  | .ok n => .ok (.integer n)
  | .error e => .error (some e.message)

/-- A whole number. -/
def whole : Reader Value := fun s =>
  match s with
  | '0' :: 'x' :: _ => based 16 "hexadecimal integer" 'x' s
  | '0' :: 'o' :: _ => based 8 "octal integer" 'o' s
  | '0' :: 'b' :: _ => based 2 "binary integer" 'b' s
  | _ => demand wholeOf decimal s

/-! ## Floats -/

/-- The fraction of a float, with its point. -/
def fraction : Reader (List Char) := do
  char '.'
  let ds ← expecting "digit" (cut (digits Char.isDigit))
  pure ('.' :: ds)

/-- The exponent of a float. -/
def exponent : Reader (List Char) := do
  let _ ← satisfy fun c => c = 'e' || c = 'E'
  let signs ← sign
  let ds ← cut (digits Char.isDigit)
  pure ('e' :: signs ++ ds)

/-- The text of a float without its underscores. -/
def floatText : Reader (List Char) := do
  let front ← decimal
  let rest ← either exponent (do
    let ds ← fraction
    let e? ← optional exponent
    pure (ds ++ e?.getD []))
  pure (front ++ rest)

/-- The float that a text stands for; it must not grow beyond all floats. -/
def floatOf (s : List Char) : Except (Option String) Value :=
  match Decimal.float? s with
  | some f => if f == 1.0 / 0.0 then .error none else .ok (.float f.toBits)
  | none => .error none

/-- The word for infinity, after its sign. -/
def infinity (signs : List Char) : Reader Value := do
  word ['i', 'n', 'f']
  let f : Float := if signs = ['-'] then -1.0 / 0.0 else 1.0 / 0.0
  pure (.float f.toBits)

/-- The word for no number. -/
def noNumber : Reader Value := do
  word ['n', 'a', 'n']
  pure (.float (0.0 / 0.0 : Float).toBits)

/-- A float. -/
def floating : Reader Value :=
  label "floating-point number" (either (demand floatOf floatText) (do
    let signs ← sign
    either (infinity signs) noNumber))

end Failsafe.Toml
