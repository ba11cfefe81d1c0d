import Failsafe.Decimal.Shortest
import Failsafe.Json.Value
/-
  The canonical text of a JSON value: compact, members in the order in which they are held.

  In a string only the quote, the backslash and the characters below U+0020 are escaped, so a
  rendered value never spans two lines. Floats have the fewest digits that read back, always
  with a point or an exponent.
-/

namespace Failsafe.Json

/-- Floats are positional from `0.00001` up to sixteen whole digits. -/
def floatStyle : Decimal.Style := ⟨-5, 15, true⟩

/-- A hexadecimal digit in lower case. -/
def hexDigit (n : Nat) : Char := Nat.digitChar n

/-- The written form of one character of a string. -/
def escape (c : Char) : List Char :=
  if c = '"' then ['\\', '"']
  else if c = '\\' then ['\\', '\\']
  else if c = '\x08' then ['\\', 'b']
  else if c = '\t' then ['\\', 't']
  else if c = '\n' then ['\\', 'n']
  else if c = '\x0c' then ['\\', 'f']
  else if c = '\r' then ['\\', 'r']
  else if c.toNat < 32 then
    ['\\', 'u', '0', '0', hexDigit (c.toNat / 16), hexDigit (c.toNat % 16)]
  else [c]

/-- A string between quotes. -/
def quote (cs : List Char) : List Char := '"' :: (cs.flatMap escape ++ ['"'])

/-- The text of a number. -/
def Number.render : Number → List Char
  | .int n => Decimal.integer n
  | .float bits => Decimal.write floatStyle bits

mutual

/-- The canonical text of a value. -/
def Value.render : Value → List Char
  | .null => ['n', 'u', 'l', 'l']
  | .bool true => ['t', 'r', 'u', 'e']
  | .bool false => ['f', 'a', 'l', 's', 'e']
  | .num n => n.render
  | .str s => quote s.toList
  | .arr items => '[' :: (renderItems items ++ [']'])
  | .obj members => '{' :: (renderMembers members ++ ['}'])

/-- The items of an array, separated by commas. -/
def renderItems : List Value → List Char
  | [] => []
  | [v] => v.render
  | v :: w :: rest => v.render ++ ',' :: renderItems (w :: rest)

/-- The members of an object, separated by commas. -/
def renderMembers : List (String × Value) → List Char
  | [] => []
  | [(k, v)] => quote k.toList ++ ':' :: v.render
  | (k, v) :: m :: rest => quote k.toList ++ ':' :: (v.render ++ ',' :: renderMembers (m :: rest))

end

/-- The canonical text of a value as a string. -/
def Value.compress (v : Value) : String := String.ofList v.render

end Failsafe.Json
