import Failsafe.Toml.Fault
/-
  Readers and how they are put together.

  A reader takes the unread text and returns a value with what is left, or a fault. Where a text
  can be read in several ways they are tried in order: a fault makes room for the next way,
  unless it is final. The last fault tells what is wrong, at the place where it was noticed.
-/

namespace Failsafe.Toml

/-- A reader of `α` from the front of a text. -/
abbrev Reader := StateT (List Char) (Except Fault)

namespace Reader

/-! ## Characters -/

/-- Reads nothing. -/
def fail : Reader α := fun s => .error (.before s)

/-- The next character, which is left where it is; `none` at the end. -/
def peek? : Reader (Option Char) := fun s => .ok (s.head?, s)

/-- A character that passes a test. -/
def satisfy (p : Char → Bool) : Reader Char := fun s =>
  match s with
  | c :: t => if p c then .ok (c, t) else .error (.before s)
  | [] => .error (.before [])

/-- The given character. -/
def char (c : Char) : Reader Unit := do
  let _ ← satisfy (· = c)

/-- The given characters. -/
def word (w : List Char) : Reader Unit := fun s =>
  if w.isPrefixOf s then .ok ((), s.drop w.length) else .error (.before s)

/-- All characters in front that pass a test. -/
def takeWhile (p : Char → Bool) : Reader (List Char) := fun s =>
  .ok (s.takeWhile p, s.dropWhile p)

/-- All characters in front that pass a test, at least one. -/
def takeSome (p : Char → Bool) : Reader (List Char) := do
  let c ← satisfy p
  let cs ← takeWhile p
  pure (c :: cs)

/-- A number of characters that pass a test. -/
def takeExactly (n : Nat) (p : Char → Bool) : Reader (List Char) := fun s =>
  let cs := s.take n
  if cs.length = n ∧ cs.all p then .ok (cs, s.drop n) else .error (.before s)

/-- The end of the text. -/
def eof : Reader Unit := fun s => if s.isEmpty then .ok ((), s) else .error (.before s)

/-! ## Faults -/

/-- The reader, none of whose faults makes room for another way. -/
def cut (r : Reader α) : Reader α := fun s => (r s).mapError Fault.final

/-- The reader, with a note about its faults. -/
def note (n : Note) (r : Reader α) : Reader α := fun s => (r s).mapError (Fault.note n)

/-- The reader of a construct. -/
def label (construct : String) (r : Reader α) : Reader α := note (.label construct) r

/-- The reader of something that is called by its name where it is missing. -/
def expecting (what : String) (r : Reader α) : Reader α := note (.expected what) r

/-- Turns what has been read into something else, if that is possible. -/
def verify (f : α → Except (Option String) β) (r : Reader α) : Reader β := fun s =>
  match r s with
  | .error e => .error e
  | .ok (a, rest) =>
    match f a with
    | .ok b => .ok (b, rest)
    | .error cause? => .error ((Fault.before s).because cause?)

/-- Turns what has been read into something else, which has to be possible. -/
def demand (f : α → Except (Option String) β) (r : Reader α) : Reader β := fun s =>
  match r s with
  | .error e => .error e
  | .ok (a, rest) =>
    match f a with
    | .ok b => .ok (b, rest)
    | .error cause? => .error ((Fault.before s).because cause?).final

/-! ## Choices and repetitions -/

/-- Either of two readers, the first one if possible. -/
def either (r q : Reader α) : Reader α := fun s =>
  match r s with
  | .error e => if e.isFinal then .error e else q s
  | answer => answer

/-- The first of some readers that can read the text. -/
def choice (r : Reader α) : List (Reader α) → Reader α
  | [] => r
  | q :: rest => either r (choice q rest)

/-- What a reader reads, or nothing. -/
def optional (r : Reader α) : Reader (Option α) := either (some <$> r) (pure none)

/-- What a reader reads, which is left where it is. -/
def ahead (r : Reader α) : Reader α := fun s =>
  match r s with
  | .error e => .error (e.moved s)
  | .ok (a, _) => .ok (a, s)

/-- As many readings as there are, at most `n`. -/
def upTo (r : Reader α) : Nat → Reader (List α)
  | 0 => pure []
  | n + 1 => do
    match ← optional r with
    | none => pure []
    | some a =>
      let l ← upTo r n
      pure (a :: l)

/-- As many readings as there are. -/
def many (r : Reader α) : Reader (List α) := fun s => upTo r s.length s

/-- As many readings as there are, at least one. -/
def several (r : Reader α) : Reader (List α) := do
  let a ← r
  let l ← many r
  pure (a :: l)

/-- One reading or more, with something between them. -/
def separated (r : Reader α) (separator : Reader Unit) : Reader (List α) := do
  let a ← r
  let l ← many (do separator; r)
  pure (a :: l)

/-- Any number of readings, with something between them. -/
def separatedAny (r : Reader α) (separator : Reader Unit) : Reader (List α) := do
  let l? ← optional (separated r separator)
  pure (l?.getD [])

/-! ## Blanks, comments and lines -/

/-- A character that may stand in a text as it is; the tab is the only control. -/
def isPlain (c : Char) : Bool := c = '\t' || (32 ≤ c.toNat && c.toNat ≠ 127)

/-- A blank within a line. -/
def isBlank (c : Char) : Bool := c = ' ' || c = '\t'

/-- Any blanks. -/
def blanks : Reader Unit := do
  let _ ← takeWhile isBlank

/-- A comment, up to the end of its line. -/
def comment : Reader Unit := do
  char '#'
  let _ ← takeWhile isPlain

/-- The end of a line. -/
def newline : Reader Unit := either (char '\n') (do char '\r'; char '\n')

/-- The end of a line or of the text. -/
def lineEnd : Reader Unit := either newline eof

/-- What may follow a statement in its line, and the end of that. -/
def restOfLine : Reader Unit := expecting "`#`" (expecting "newline" (do
  blanks
  let _ ← optional comment
  lineEnd))

/-- Any blanks, comments and ends of lines. -/
def gap : Reader Unit := fun s => step s.length s
where
  /-- At most `n` ends of lines. -/
  step : Nat → Reader Unit
    | 0 => pure ()
    | n + 1 => do
      blanks
      match ← peek? with
      | some '#' =>
        comment
        newline
        step n
      | some '\n' | some '\r' =>
        newline
        step n
      | _ => pure ()

end Reader

end Failsafe.Toml
