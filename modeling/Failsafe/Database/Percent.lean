import Failsafe.Text.Utf8
/-
  Percent signs: a sign and two hexadecimal digits stand for a byte.

  A sign without two digits stands for itself. The bytes need not be UTF-8; where they have to
  be, `Percent.decode` tells from which byte on they are not.
-/

namespace Failsafe.Database.Percent

/-- The value of a hexadecimal digit. -/
def hexDigit? (c : Char) : Option Nat :=
  if c.isDigit then some (c.toNat - '0'.toNat)
  else if 'a' ≤ c ∧ c ≤ 'f' then some (c.toNat - 'a'.toNat + 10)
  else if 'A' ≤ c ∧ c ≤ 'F' then some (c.toNat - 'A'.toNat + 10)
  else none

/-- The bytes of a text in which a percent sign and two digits stand for a byte. -/
def bytes : List Char → Bytes
  | '%' :: a :: b :: rest =>
    match hexDigit? a, hexDigit? b with
    | some high, some low => UInt8.ofNat (high * 16 + low) :: bytes rest
    | _, _ => Bytes.encode ['%'] ++ bytes (a :: b :: rest)
  | c :: rest => Bytes.encode [c] ++ bytes rest
  | [] => []

/-- The text after percent signs have been resolved, with marks in place of what is no text. -/
def decodeLossy (s : List Char) : String := String.ofList (Bytes.decodeLossy (bytes s))

/-- The text after percent signs have been resolved, if that is one. -/
def decode (s : List Char) : Except Bytes.DecodeError (List Char) := Bytes.decode (bytes s)

end Failsafe.Database.Percent
