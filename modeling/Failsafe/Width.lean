/-
  Numbers of limited width.

  A word of some bits holds the natural numbers below `Width.bound`.
-/

namespace Failsafe

/-- The least number that a word of so many bits cannot hold. -/
def Width.bound (bits : Nat) : Nat := Nat.pow 2 bits

end Failsafe
