import Failsafe.Toml.Reader
/-
  A whole TOML text.

  The statements of the text are carried out one by one on a table that is empty at first. A
  statement that cannot be carried out is a fault at its place.
-/

namespace Failsafe.Toml

/-- A text of which some statements have been carried out. -/
structure Document where
  root : Entries
  /-- the table that the next keys belong to -/
  current : Key

namespace Document

/-- A text without statements. -/
def empty : Document := ⟨[], []⟩

/-- Gives a value to a key of the current table. -/
def assign (d : Document) (key : Key) (v : Value) : Except Conflict Document := do
  let put (_ : Making) (inner : Entries) : Except Conflict Entries :=
    inner.assign key (.value v) (some d.current)
  let root ← d.root.alter false put [] d.current .explicit
  .ok { d with root }

/-- Carries out a statement. -/
def apply (d : Document) : Statement → Except Conflict Document
  | .assign key v => d.assign key v
  | .openTable key => (d.root.openTable key).map fun root => ⟨root, key⟩
  | .openItem key => (d.root.openItem key).map fun root => ⟨root, key⟩

/-- A conflict in a statement, as a fault of the text where that starts. -/
def fault (statement : Statement) (start : List Char) (c : Conflict) : Fault :=
  let f := (Fault.before start).because (some c.message)
  match statement with
  | .assign _ _ => f
  | _ => f.note (.label "table header")

/-- The text after blanks. -/
def skipBlanks (s : List Char) : List Char := s.dropWhile Reader.isBlank

/-- Carries out the statements of a text in order, at most `fuel` of them. -/
def readFrom : Nat → Document → List Char → Except Fault Document
  | 0, d, _ => .ok d
  | fuel + 1, d, s =>
    match line s with
    | .error f => if f.isFinal then .error f else if s.isEmpty then .ok d else .error (.before s)
    | .ok (none, rest) => readFrom fuel d (skipBlanks rest)
    | .ok (some statement, rest) =>
      match d.apply statement with
      | .error c => .error (fault statement s c)
      | .ok d => readFrom fuel d (skipBlanks rest)

/-- The text without a mark of its byte order. -/
def withoutMark : List Char → List Char
  | '\uFEFF' :: s => s
  | s => s

/-- The value that a text stands for, which is a table or a moment. -/
def read (text : List Char) : Except Fault Value := do
  let d ← readFrom (text.length + 1) empty (skipBlanks (withoutMark text))
  Value.settled (.table (Entries.toValues d.root))

end Document

end Failsafe.Toml
