import Failsafe.Json.Reader
/-
  Reading values of any shape.

  At most `nestingLimit` containers may be open at once; the readers carry the number of those
  that may still be opened, and recurse on it. An object whose first key is `quotingKey` is no
  object: it stands for the value that its only string spells, which is read like a whole text.
-/

namespace Failsafe.Json

/-- How many containers may be open at once. -/
def nestingLimit : Nat := 127

/-- The key by which an object tells that it only quotes a value. -/
def quotingKey : String := "$serde_json::private::RawValue"

/-- A member of a plain object. -/
def readMember (value : Reader Value) (key : String) (members : Members) : Reader Members :=
  fun s =>
    match readColon s with
    | .error f => .error f
    | .ok t =>
      match value t with
      | .error f => .error f
      | .ok (v, rest) => .ok (members.insert key v, rest)

/-- The value that an object quotes, from behind its key on; `whole` reads the quoted text. -/
def readQuoted (whole : List Char → Except Fault Value) : Reader Value := fun s =>
  match readColon s with
  | .error f => .error f
  | .ok t =>
    match readText "raw value" t with
    | .error f => .error f
    | .ok (text, rest) =>
      match whole text.toList with
      | .error f => .error (f.within text.toList)
      | .ok v =>
        match skipBlank rest with
        | [] => .error (.at .endInObject [])
        | '\x7d' :: u => .ok (v, u)
        | ',' :: u => .error (.at .trailingComma (',' :: u))
        | u => .error (.at .trailingCharacters u)

/-- An object, from behind its opening brace on. -/
def readFields (whole : List Char → Except Fault Value) (value : Reader Value) : Reader Value :=
  fun s =>
    match nextKey true s with
    | .error f => .error f
    | .ok (false, t) => .ok (.obj [], t.drop 1)
    | .ok (true, t) =>
      match readString t with
      | .error f => .error f
      | .ok (key, u) =>
        if key = quotingKey then readQuoted whole u
        else
          match readMember value key [] u with
          | .error f => .error f
          | .ok (first, rest) =>
            match foldMembers (readMember value) (rest.length + 1) false first rest with
            | .error f => .error f
            | .ok (members, rest) => .ok (.obj members, rest.drop 1)

/-- A value; `depth` containers may still be opened, and `whole` reads texts that are quoted. -/
def readNested (whole : List Char → Except Fault Value) : Nat → Reader Value
  | depth, s =>
    match skipBlank s with
    | [] => .error (.at .endInValue [])
    | c :: t =>
      if c = 'n' then
        match readWord ['u', 'l', 'l'] t with
        | .error f => .error f
        | .ok rest => .ok (.null, rest)
      else if c = 't' then
        match readWord ['r', 'u', 'e'] t with
        | .error f => .error f
        | .ok rest => .ok (.bool true, rest)
      else if c = 'f' then
        match readWord ['a', 'l', 's', 'e'] t with
        | .error f => .error f
        | .ok rest => .ok (.bool false, rest)
      else if c = '-' then
        match readNumber false t with
        | .error f => .error f
        | .ok (n, rest) => .ok (.num n, rest)
      else if c.isDigit then
        match readNumber true (c :: t) with
        | .error f => .error f
        | .ok (n, rest) => .ok (.num n, rest)
      else if c = '"' then
        match readString t with
        | .error f => .error f
        | .ok (str, rest) => .ok (.str str, rest)
      else if c = '[' then
        match depth with
        | 0 => .error (.at .tooDeep (c :: t))
        | depth + 1 =>
          match readItems (readNested whole depth) (t.length + 1) true [] t with
          | .error f => .error f
          | .ok (items, rest) => .ok (.arr items, rest)
      else if c = '\x7b' then
        match depth with
        | 0 => .error (.at .tooDeep (c :: t))
        | depth + 1 => readFields whole (readNested whole depth) t
      else .error (.at .expectedValue (c :: t))

/-- A whole quoted text, in which texts may be quoted up to `n` deep. -/
def readQuotedText : Nat → List Char → Except Fault Value
  | 0, s => .error (.at .tooDeep s)
  | n + 1, s => readAll (readNested (readQuotedText n) nestingLimit) s

/-- A value; `depth` containers may still be opened. A text that is quoted is longer than those
that it quotes itself. -/
def readValue (depth : Nat) : Reader Value :=
  readNested (fun s => readQuotedText (s.length + 1) s) depth

end Failsafe.Json
