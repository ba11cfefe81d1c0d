/-
  White space in the sense of Unicode, and trimming.

  A text is blank when it holds nothing but white space.
-/

namespace Failsafe.Text

/-- The characters with the property White_Space. -/
def isSpace (c : Char) : Bool :=
  let n := c.toNat
  (9 ≤ n && n ≤ 13) || n == 32 || n == 0x85 || n == 0xA0 || n == 0x1680
    || (0x2000 ≤ n && n ≤ 0x200A) || n == 0x2028 || n == 0x2029 || n == 0x202F
    || n == 0x205F || n == 0x3000

/-- The text without leading white space. -/
def trimStart (cs : List Char) : List Char := cs.dropWhile isSpace

/-- The text without white space at either end. -/
def trim (cs : List Char) : List Char := (trimStart (trimStart cs).reverse).reverse

/-- The text holds nothing but white space. -/
def isBlank (s : String) : Bool := s.toList.all isSpace

end Failsafe.Text
