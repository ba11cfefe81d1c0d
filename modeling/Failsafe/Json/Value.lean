/-
  JSON values.

  An object is a list of members in ascending key order without repetition; `Members.insert`
  keeps it so. A number is an integer or a binary64 given by its bits, so that two values are
  equal exactly when their texts are.
-/

namespace Failsafe.Json

/-- A number: an integer, or a binary64 by its bit pattern. -/
inductive Number where
  | int (n : Int)
  | float (bits : UInt64)
deriving DecidableEq, Repr, Inhabited

/-- A JSON value. -/
inductive Value where
  | null
  | bool (b : Bool)
  | num (n : Number)
  | str (s : String)
  | arr (items : List Value)
  | obj (members : List (String × Value))
deriving Repr, Inhabited

/-- The members of an object. -/
abbrev Members := List (String × Value)

namespace Members

/-- Sets the member `k` to `v`, at its place in key order. -/
def insert (k : String) (v : Value) : Members → Members
  | [] => [(k, v)]
  | (k', v') :: rest =>
    if k < k' then (k, v) :: (k', v') :: rest
    else if k = k' then (k, v) :: rest
    else (k', v') :: insert k v rest

/-- The value of the member `k`. -/
def get? (k : String) : Members → Option Value
  | [] => none
  | (k', v) :: rest => if k = k' then some v else get? k rest

end Members

namespace Value

/-- An integer as a value. -/
def int (n : Int) : Value := .num (.int n)

/-- A natural number as a value. -/
def nat (n : Nat) : Value := .num (.int n)

/-- A value that may be absent; absence is written `null`. -/
def opt (f : α → Value) : Option α → Value
  | none => .null
  | some a => f a

end Value

end Failsafe.Json
