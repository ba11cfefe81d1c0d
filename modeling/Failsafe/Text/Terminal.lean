/-
  What of a text is seen on a terminal.

  Commands to a terminal begin with an escape character and are not seen, nor are control
  characters, white space apart. `visible` leaves out both. A command that is not finished goes on
  to the end of the text.
-/

namespace Failsafe.Text

/-- The part of a command in which a terminal is. -/
inductive Command where
  /-- none: characters are shown -/
  | plain
  | escape
  /-- an escape that has to be completed by another character -/
  | escapeMark
  /-- a command with numbers, up to its final letter -/
  | numbers
  /-- a command to the system around the terminal, up to a bell -/
  | title
  /-- a text for a device, before its letter; its numbers; and marks after them -/
  | device
  | deviceNumbers
  | deviceMark
  /-- a text that is for no eye, up to its end -/
  | hidden
deriving DecidableEq, Repr

namespace Command

/-- A letter or a sign that can end a command. -/
def isFinal (n : Nat) : Bool := 0x40 ≤ n && n ≤ 0x7e

/-- The state after one of the first 128 characters that is not shown. -/
def next (k : Command) (n : Nat) : Command :=
  if n = 0x18 ∨ n = 0x1a then plain
  else if n = 0x1b then escape
  else
    match k with
    | plain => plain
    | escape =>
      if 0x20 ≤ n ∧ n ≤ 0x2f then escapeMark
      else if n = 0x5b then numbers
      else if n = 0x5d then title
      else if n = 0x50 then device
      else if n = 0x58 ∨ n = 0x5e ∨ n = 0x5f then hidden
      else if 0x30 ≤ n ∧ n ≤ 0x7e then plain
      else escape
    | escapeMark => if 0x30 ≤ n ∧ n ≤ 0x7e then plain else escapeMark
    | numbers => if isFinal n then plain else numbers
    | title => if n = 7 then plain else title
    | device =>
      if 0x20 ≤ n ∧ n ≤ 0x2f then deviceMark
      else if 0x30 ≤ n ∧ n ≤ 0x3f then deviceNumbers
      else if isFinal n then hidden
      else device
    | deviceNumbers =>
      if 0x20 ≤ n ∧ n ≤ 0x2f then deviceMark
      else if (0x3c ≤ n ∧ n ≤ 0x3f) ∨ isFinal n then hidden
      else deviceNumbers
    | deviceMark => if (0x30 ≤ n ∧ n ≤ 0x3f) ∨ isFinal n then hidden else deviceMark
    | hidden => hidden

/-- The state after any character that is not shown. Beyond the first 128, one whose bytes hold the
mark for the end of a hidden text ends it. -/
def after (k : Command) (c : Char) : Command :=
  if c.toNat < 128 then k.next c.toNat
  else if k = hidden ∧ (String.utf8EncodeChar c).contains 0x9c then plain
  else k

/-- White space moves the place where a terminal writes, also inside of most commands. -/
def obeysSpace : Command → Bool
  | plain | escape | escapeMark | numbers => true
  | _ => false

/-- The terminal shows a character. -/
def shows (k : Command) (c : Char) : Bool :=
  if [9, 10, 12, 13].contains c.toNat then k.obeysSpace
  else k = plain && 0x20 ≤ c.toNat && c.toNat ≠ 0x7f

end Command

/-- What is seen of a text. After a character that was shown, others are shown up to a control
character, whatever command was begun before. -/
def visibleFrom (showing : Bool) (k : Command) : List Char → List Char
  | [] => []
  | c :: s =>
    if (if showing then Command.plain else k).shows c then
      c :: visibleFrom true (if c.toNat < 128 then k else .plain) s
    else visibleFrom false (k.after c) s

/-- What is seen of a text. -/
def visible (s : String) : String := String.ofList (visibleFrom false .plain s.toList)

end Failsafe.Text
