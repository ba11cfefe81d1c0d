import Failsafe.Json.Printer
import Failsafe.Text.Quoted
import Failsafe.Text.Utf8
/-
  What can be wrong with a JSON text, and where.

  A fault is a cause together with the number of bytes left unread when it was noticed; its line
  and column follow from the text (`Fault.position`), which may be one that a string quotes. A
  cause is either one of syntax, an early end of the text, or a mismatch: a well-formed value of
  the wrong shape.
-/

namespace Failsafe.Json

/-- What was found in the place of the expected value. -/
inductive Found where
  | null
  | bool (b : Bool)
  | number (n : Number)
  | str (s : String)
  | sequence
  | map
deriving DecidableEq, Repr

/-- The description of what was found. -/
def Found.message : Found → String
  | .null => "null"
  | .bool b => if b then "boolean `true`" else "boolean `false`"
  | .number (.int n) => "integer `" ++ String.ofList (Decimal.integer n) ++ "`"
  | .number n => "floating point `" ++ String.ofList n.render ++ "`"
  | .str s => "string " ++ Text.quoted s
  | .sequence => "sequence"
  | .map => "map"

/-- A well-formed value of the wrong shape. -/
inductive Mismatch where
  | wrongType (found : Found) (expected : String)
  | wrongValue (found : Found) (expected : String)
  | wrongLength (length : Nat) (expected : String)
  | unknownName (name : String) (known : List String)
  | missingField (field : String)
  | duplicateField (field : String)
  /-- a string that its own format rejects, with the reason -/
  | malformed (reason : String)
deriving DecidableEq, Repr

/-- The admissible names, as a choice. -/
def choice (names : List String) : String :=
  let ticked := names.map fun n => "`" ++ n ++ "`"
  match ticked with
  | [a] => a
  | [a, b] => a ++ " or " ++ b
  | _ => "one of " ++ String.intercalate ", " ticked

/-- The text of a mismatch. -/
def Mismatch.message : Mismatch → String
  | .wrongType f e => "invalid type: " ++ f.message ++ ", expected " ++ e
  | .wrongValue f e => "invalid value: " ++ f.message ++ ", expected " ++ e
  | .wrongLength n e => "invalid length " ++ toString n ++ ", expected " ++ e
  | .unknownName n known => "unknown variant `" ++ n ++ "`, expected " ++ choice known
  | .missingField f => "missing field `" ++ f ++ "`"
  | .duplicateField f => "duplicate field `" ++ f ++ "`"
  | .malformed reason => reason

/-- Why a text cannot be read. -/
inductive Cause where
  | endInList
  | endInObject
  | endInString
  | endInValue
  | expectedColon
  | expectedListEnd
  | expectedObjectEnd
  | expectedWord
  | expectedValue
  | invalidEscape
  | invalidNumber
  | numberOutOfRange
  | controlCharacter
  | keyNotString
  | loneSurrogate
  | trailingComma
  | trailingCharacters
  | unfinishedEscape
  | tooDeep
  | mismatch (m : Mismatch)
deriving DecidableEq, Repr

/-- The three kinds of causes. -/
inductive Category where
  | syntaxError
  | earlyEnd
  | wrongShape
deriving DecidableEq, Repr

namespace Cause

/-- The kind of a cause. -/
def category : Cause → Category
  | endInList | endInObject | endInString | endInValue => .earlyEnd
  | mismatch _ => .wrongShape
  | _ => .syntaxError

/-- The text of a cause. -/
def message : Cause → String
  | endInList => "EOF while parsing a list"
  | endInObject => "EOF while parsing an object"
  | endInString => "EOF while parsing a string"
  | endInValue => "EOF while parsing a value"
  | expectedColon => "expected `:`"
  | expectedListEnd => "expected `,` or `]`"
  | expectedObjectEnd => "expected `,` or `\x7d`"
  | expectedWord => "expected ident"
  | expectedValue => "expected value"
  | invalidEscape => "invalid escape"
  | invalidNumber => "invalid number"
  | numberOutOfRange => "number out of range"
  | controlCharacter => "control character (\\u0000-\\u001F) found while parsing a string"
  | keyNotString => "key must be a string"
  | loneSurrogate => "lone leading surrogate in hex escape"
  | trailingComma => "trailing comma"
  | trailingCharacters => "trailing characters"
  | unfinishedEscape => "unexpected end of hex escape"
  | tooDeep => "recursion limit exceeded"
  | mismatch m => m.message

end Cause

/-- A cause and the number of bytes that were still unread. -/
structure Fault where
  cause : Cause
  left : Nat
  /-- the text in which the fault lies, if that is one which the text being read quotes -/
  quoted? : Option (List Char)
deriving DecidableEq, Repr

/-- A fault noticed with a number of bytes unread. -/
def Fault.leaving (cause : Cause) (left : Nat) : Fault := ⟨cause, left, none⟩

/-- A fault noticed in front of `rest`. -/
def Fault.before (cause : Cause) (rest : List Char) : Fault := .leaving cause (Text.byteLength rest)

/-- A fault noticed on the first byte of `rest`. -/
def Fault.at (cause : Cause) (rest : List Char) : Fault :=
  .leaving cause (Text.byteLength rest - 1)

/-- A fault in a quoted text, as a fault of the text that quotes it. -/
def Fault.within (quoted : List Char) (f : Fault) : Fault :=
  ⟨.mismatch (.malformed f.cause.message), f.left, some (f.quoted?.getD quoted)⟩

/-- Line and column, in bytes, of the point with `left` bytes of the text unread. -/
def positionFrom (left : Nat) (line column : Nat) : List Char → Nat × Nat
  | [] => (line, column)
  | c :: rest =>
    if Text.byteLength (c :: rest) ≤ left then (line, column)
    else if c = '\n' then positionFrom left (line + 1) 0 rest
    else
      let step := min c.utf8Size (Text.byteLength (c :: rest) - left)
      positionFrom left line (column + step) rest

/-- The line and column of a fault in `text`. -/
def Fault.position (f : Fault) (text : List Char) : Nat × Nat :=
  positionFrom f.left 1 0 (f.quoted?.getD text)

/-- The text of a fault with its position. -/
def Fault.report (f : Fault) (text : List Char) : String :=
  let (line, column) := f.position text
  f.cause.message ++ " at line " ++ toString line ++ " column " ++ toString column

end Failsafe.Json
