import Failsafe.Text.Utf8
/-
  What can be wrong with a TOML text, and where.

  A fault is noticed at a character; its report shows the line with a mark below that character
  and says which construct is broken and what was expected there.
-/

namespace Failsafe.Toml

/-- What is said about the place of a fault. -/
inductive Note where
  /-- the construct that is broken -/
  | label (construct : String)
  /-- what could have stood there -/
  | expected (what : String)
deriving DecidableEq, Repr

/-- Something wrong with a text. -/
structure Fault where
  /-- what is left of the text from the place where it was noticed -/
  rest : List Char
  /-- the innermost construct comes first -/
  notes : List Note
  /-- what else is to be said -/
  cause? : Option String
  /-- the bytes of what is wrong, if that is not just the character at the place -/
  extent? : Option Nat
  /-- nothing else can stand there: no other reading of the text is tried -/
  isFinal : Bool
deriving DecidableEq, Repr

namespace Fault

/-- A fault in front of `rest` about which nothing is known. -/
def before (rest : List Char) : Fault := ⟨rest, [], none, none, false⟩

/-- A fault noticed when the first byte of `c` had been taken. -/
def after (c : Char) (rest : List Char) : Fault :=
  before (if c.utf8Size = 1 then rest else c :: rest)

/-- The fault at another place. -/
def moved (rest : List Char) (f : Fault) : Fault := { f with rest }

/-- The fault with a cause. -/
def because (cause? : Option String) (f : Fault) : Fault := { f with cause? }

/-- The fault, after which no other reading is tried. -/
def final (f : Fault) : Fault := { f with isFinal := true }

/-- The fault with one more note. -/
def note (n : Note) (f : Fault) : Fault := { f with notes := f.notes ++ [n] }

/-- The innermost construct that is broken. -/
def construct? (f : Fault) : Option String :=
  f.notes.findSome? fun
    | .label construct => some construct
    | .expected _ => none

/-- What could have stood at the place. -/
def expected (f : Fault) : List String :=
  f.notes.filterMap fun
    | .label _ => none
    | .expected what => some what

/-- The lines that say what is wrong. -/
def reasons (f : Fault) : List String :=
  let all := (f.construct?.toList.map fun c => "invalid " ++ c)
    ++ (if f.expected.isEmpty then [] else ["expected " ++ String.intercalate ", " f.expected])
    ++ f.cause?.toList
  if all.isEmpty then [""] else all

/-- The lines of a text. -/
def linesOf (text : List Char) : List String := (String.ofList text).splitOn "\n"

/-- Where a character stands, and how wide the mark below it is. -/
structure Place where
  /-- from zero -/
  line : Nat
  /-- from zero; counted in bytes if the character takes up several of them -/
  column : Nat
  width : Nat
deriving DecidableEq, Repr

/-- The place of a character of a text; the place behind the last one is in its line. The mark
goes at most up to the end of the line. -/
def place (text : List Char) (index : Nat) (extent? : Option Nat) : Place :=
  let safe := min index (text.length - 1)
  let above := text.take safe
  let before := (above.reverse.takeWhile (· ≠ '\n')).reverse
  let line := above.count '\n'
  let here := text[index]?
  let column :=
    if here.all fun c => c.utf8Size = 1 then before.length + (index - safe)
    else Text.byteLength before
  let after := ((linesOf text)[line]?.getD "").utf8ByteSize - column
  let extent := extent?.getD (here.elim 0 Char.utf8Size)
  ⟨line, column, max 1 (min extent after)⟩

/-- The lines of the report on a fault of a text. -/
def report (f : Fault) (text : List Char) : List String :=
  let p := place text (text.length - f.rest.length) f.extent?
  let number := toString (p.line + 1)
  let blanks (n : Nat) : String := String.ofList (List.replicate n ' ')
  let gutter := blanks (number.length + 1) ++ "|"
  ["TOML parse error at line " ++ number ++ ", column " ++ toString (p.column + 1), gutter,
    number ++ " | " ++ (linesOf text)[p.line]?.getD "",
    gutter ++ blanks (p.column + 1) ++ String.ofList (List.replicate p.width '^')]
  ++ f.reasons

end Fault

end Failsafe.Toml
