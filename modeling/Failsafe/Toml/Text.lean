import Failsafe.Toml.Grammar
/-
  Reading the strings of a TOML text.

  There are four kinds: basic and literal, on one line or on several. A basic string has escapes,
  a literal one has none; one on several lines loses a line feed right after its opening, and one
  or two quotes may stand anywhere in it.
-/

namespace Failsafe.Toml

open Reader

/-- The value of a hexadecimal digit. -/
def hexDigit? (c : Char) : Option Nat :=
  if c.isDigit then some (c.toNat - '0'.toNat)
  else if 'a' ≤ c ∧ c ≤ 'f' then some (c.toNat - 'a'.toNat + 10)
  else if 'A' ≤ c ∧ c ≤ 'F' then some (c.toNat - 'A'.toNat + 10)
  else none

/-- What is said about a value that is out of range. -/
def outOfRange : String := "value is out of range"

/-- The character with the number that hexadecimal digits stand for. -/
def charOfDigits (ds : List Char) : Except (Option String) Char :=
  let n := ds.foldl (fun n c => n * 16 + (hexDigit? c).getD 0) 0
  if n.isValidChar then .ok (Char.ofNat n) else .error (some outOfRange)

/-- A character given by its number, with a fixed count of digits. -/
def unicode (count : Nat) : Reader Char :=
  label ("unicode " ++ toString count ++ "-digit hex code")
    (cut (verify charOfDigits (takeExactly count fun c => (hexDigit? c).isSome)))

/-- What may follow a backslash. -/
def escapes : List String :=
  ["`b`", "`f`", "`n`", "`r`", "`t`", "`u`", "`U`", "`\\`", "`\"`"]

/-- The fault of a character that follows a backslash for no reason. -/
def badEscape (c : Char) (rest : List Char) : Fault :=
  escapes.foldl (fun f e => f.note (.expected e))
    ((Fault.after c rest).final.note (.label "escape sequence"))

/-- The character that stands for an escape, after its backslash. -/
def escaped : Reader Char := fun s =>
  match s with
  | [] => .error (.before [])
  | 'b' :: t => .ok ('\x08', t)
  | 'f' :: t => .ok ('\x0c', t)
  | 'n' :: t => .ok ('\n', t)
  | 'r' :: t => .ok ('\r', t)
  | 't' :: t => .ok ('\t', t)
  | '"' :: t => .ok ('"', t)
  | '\\' :: t => .ok ('\\', t)
  | 'u' :: t => unicode 4 t
  | 'U' :: t => unicode 8 t
  | c :: t => .error (badEscape c t)

/-- A backslash and the character that it stands for. -/
def escape : Reader (List Char) := do
  char '\\'
  let c ← escaped
  pure [c]

/-- A character of a basic string that stands for itself. -/
def isBasic (c : Char) : Bool := isPlain c && c ≠ '"' && c ≠ '\\'

/-- A character of a literal string. -/
def isLiteral (c : Char) : Bool := isPlain c && c ≠ '\''

/-- A basic string on one line. -/
def basicText : Reader String := do
  char '"'
  let parts ← many (either (takeSome isBasic) escape)
  label "basic string" (cut (char '"'))
  pure (String.ofList parts.flatten)

/-- A literal string on one line. -/
def literalText : Reader String := label "literal string" (do
  char '\''
  let cs ← takeWhile isLiteral
  cut (char '\'')
  pure (String.ofList cs))

/-! ## Strings on several lines -/

/-- A line feed, however it is written. -/
def lineFeed : Reader (List Char) := do
  newline
  pure ['\n']

/-- Backslashes at the end of a line, with the blanks and ends of lines after them. -/
def continuation : Reader (List Char) := do
  let _ ← several (do
    char '\\'
    blanks
    newline
    many (either newline (do let _ ← takeSome isBlank)))
  pure []

/-- A part of a basic string on several lines, without its quotes. -/
def longBasicPart : Reader (List Char) :=
  choice (takeSome isBasic) [continuation, escape, lineFeed]

/-- A part of a literal string on several lines, without its quotes. -/
def longLiteralPart : Reader (List Char) := either (takeSome isLiteral) lineFeed

/-- Two quotes or one in front of something else. -/
def quotesBefore (quote : Char) (next : Reader α) : Reader (List Char) :=
  let quotes (l : List Char) : Reader (List Char) := do
    word l
    let _ ← ahead next
    pure l
  either (quotes [quote, quote]) (quotes [quote])

/-- Quotes within a basic string, and what comes after them, at most `n` times. Quotes are passed
over as soon as anything but a quote follows, whether or not that can stand in the string. -/
def quotesWithin : Nat → Reader (List Char)
  | 0 => pure []
  | n + 1 => do
    match ← optional (quotesBefore '"' (satisfy (· ≠ '"'))) with
    | none => pure []
    | some quotes =>
      let parts ← many longBasicPart
      if parts.isEmpty then pure quotes
      else
        let rest ← quotesWithin n
        pure (quotes ++ parts.flatten ++ rest)

/-- Quotes within a literal string, each time with what comes after them. -/
def apostrophesWithin : Reader (List Char) := do
  let parts ← many (do
    let quotes ← quotesBefore '\'' longLiteralPart
    let parts ← several longLiteralPart
    pure (quotes ++ parts.flatten))
  pure parts.flatten

/-- A string on several lines: parts without quotes, quotes with what follows them, and quotes
right in front of the delimiter. -/
def longText (construct : String) (quote : Char) (part within : Reader (List Char)) :
    Reader String :=
  let delimiter := [quote, quote, quote]
  label construct (do
    word delimiter
    let _ ← optional newline
    let cs ← cut (do
      let front ← many part
      let middle ← within
      let quotes? ← optional (quotesBefore quote (word delimiter))
      pure (front.flatten ++ middle ++ quotes?.getD []))
    cut (word delimiter)
    pure (String.ofList cs))

/-- A basic string on several lines. -/
def longBasicText : Reader String := fun s =>
  longText "multiline basic string" '"' longBasicPart (quotesWithin s.length) s

/-- A literal string on several lines. -/
def longLiteralText : Reader String :=
  longText "multiline literal string" '\'' longLiteralPart apostrophesWithin

/-- A string of any kind. -/
def text : Reader String :=
  choice longBasicText [basicText, longLiteralText, literalText]

end Failsafe.Toml
