import Failsafe.Toml.Moment
import Failsafe.Toml.Table
/-
  Reading the values and the statements that a TOML text is made of.

  A statement gives a value to a key, opens a table or opens one more table of a list of tables.
  Containers are nested to a limited depth, on which the reader of values recurses.
-/

namespace Failsafe.Toml

open Reader

/-! ## Containers -/

/-- A list, given the reader of its items. -/
def list (item : Reader Value) : Reader Value := do
  char '['
  cut (do
    let items ← listItems
    label "array" (expecting "`]`" (char ']'))
    pure (.list items))
where
  /-- The items, up to the closing bracket. -/
  listItems : Reader (List Value) := do
    if (← peek?) = some ']' then pure []
    else
      let items ← separatedAny (do gap; let v ← item; gap; pure v) (char ',')
      if !items.isEmpty then
        let _ ← optional (char ',')
      gap
      pure items

/-- The sign between a key and its value. -/
def equals : Reader Unit := expecting "`=`" (expecting "`.`" (char '='))

/-- The table that entries written on one line make up. -/
def tableOf (entries : List (Key × Value)) : Except (Option String) Value :=
  let put (table : Entries) (e : Key × Value) : Except Conflict Entries :=
    table.assign e.1 (.ofValue e.2) none
  match entries.foldlM put [] with
  | .ok table => .ok (.table (Entries.toValues table))
  | .error c => .error (some c.message)

/-- A table written on one line, given the reader of its values. -/
def table (item : Reader Value) : Reader Value := do
  char '\x7b'
  let v ← cut (verify tableOf (do
    let entries ← separatedAny entry (char ',')
    blanks
    pure entries))
  label "inline table" (expecting "`\x7d`" (cut (char '\x7d')))
  pure v
where
  /-- A key and its value. -/
  entry : Reader (Key × Value) := do
    let key ← dottedKey
    cut (do
      equals
      blanks
      let v ← underKey key item
      blanks
      pure (key, v))

/-! ## Values -/

/-- The reader of a bare word, which can only be a string without its quotes. -/
def bareWord (r : Reader α) : Reader α :=
  expecting "`'`" (expecting "`\"`" (label "string" r))

/-- One of the words for a truth value, of which the first character has been seen. -/
def truth (w : List Char) (b : Bool) : Reader Value := bareWord (do
  cut (word w)
  pure (.bool b))

/-- The fault of a container that is nested too deep. -/
def nestedTooDeep : Reader α := fun s =>
  .error ((Fault.before s).because (some tooDeep)).final

/-- A value, given the reader of the values in it if there may be any. -/
def valueWith (nested? : Option (Reader Value)) : Reader Value := do
  match ← peek? with
  | none => fail
  | some c =>
    if c = '"' ∨ c = '\'' then Value.text <$> text
    else if c = '[' then nested?.elim nestedTooDeep list
    else if c = '\x7b' then nested?.elim nestedTooDeep table
    else if c = '+' ∨ c = '-' ∨ c.isDigit then choice moment [floating, whole]
    else if c = '_' then expecting "leading digit" whole
    else if c = '.' then expecting "leading digit" floating
    else if c = 't' then truth ['t', 'r', 'u', 'e'] true
    else if c = 'f' then truth ['f', 'a', 'l', 's', 'e'] false
    else if c = 'i' then bareWord (infinity [])
    else if c = 'n' then bareWord noNumber
    else bareWord fail

/-- A value in which containers may be nested so deep. -/
def value : Nat → Reader Value
  | 0 => valueWith none
  | depth + 1 => valueWith (some (value depth))

/-! ## Statements -/

/-- A statement of a text. -/
inductive Statement where
  /-- gives a value to a key of the table that is open -/
  | assign (key : Key) (value : Value)
  /-- opens a table -/
  | openTable (key : Key)
  /-- opens one more table of a list -/
  | openItem (key : Key)
deriving Repr

/-- A key and its value, up to the end of the line. -/
def assignment : Reader Statement := do
  let key ← dottedKey
  cut (do
    equals
    blanks
    let v ← underKey key (value nestingLimit)
    restOfLine
    pure (.assign key v))

/-- A key between brackets, up to the end of the line. -/
def bracketed (opening closing : List Char) : Reader Key := do
  word opening
  let key ← cut dottedKey
  cut (expecting ("`" ++ String.ofList closing ++ "`") (expecting "`.`" (word closing)))
  cut restOfLine
  pure key

/-- The header of a table, up to the end of the line. -/
def header : Reader Statement := label "table header" fun s =>
  match s with
  | '[' :: '[' :: _ => (Statement.openItem <$> bracketed ['[', '['] [']', ']']) s
  | '[' :: _ :: _ => (Statement.openTable <$> bracketed ['['] [']']) s
  | _ => fail s

/-- What stands in one line, or a statement that goes on over several; a comment or an empty line
is no statement. -/
def line : Reader (Option Statement) := do
  match ← peek? with
  | some '#' => cut (do comment; lineEnd; pure none)
  | some '[' => cut (some <$> header)
  | some '\n' | some '\r' => (fun _ => none) <$> newline
  | some _ => cut (some <$> assignment)
  | none => fail

end Failsafe.Toml
