import Failsafe.Json.Reader
/-
  Passing over a value that nobody asked for.

  The value may be nested to any depth; what its numbers are worth and what its escapes stand for
  is not looked into.
-/

namespace Failsafe.Json

/-- Passes over the digits of an exponent that is not needed. -/
def skipExponent (s : List Char) : Except Fault (List Char) :=
  let s := match s with
    | '+' :: t => t
    | '-' :: t => t
    | t => t
  match s with
  | [] => .error (.before .invalidNumber [])
  | c :: t => if c.isDigit then .ok (t.dropWhile Char.isDigit) else .error (.at .invalidNumber s)

/-- Passes over a fraction that is not needed. -/
def skipFraction (s : List Char) : Except Fault (List Char) :=
  match s with
  | [] => .error (.at .invalidNumber [])
  | c :: t =>
    if !c.isDigit then .error (.at .invalidNumber s)
    else
      match t.dropWhile Char.isDigit with
      | 'e' :: u => skipExponent u
      | 'E' :: u => skipExponent u
      | u => .ok u

/-- Passes over a number, after its sign, that is not needed. -/
def skipNumber (s : List Char) : Except Fault (List Char) :=
  match s with
  | [] => .error (.before .invalidNumber [])
  | c :: t =>
    if !c.isDigit then .error (.at .invalidNumber s)
    else
      let rest := if c = '0' then t else t.dropWhile Char.isDigit
      match rest with
      | '.' :: u => skipFraction u
      | 'e' :: u => skipExponent u
      | 'E' :: u => skipExponent u
      | d :: _ => if d.isDigit then .error (.at .invalidNumber rest) else .ok rest
      | [] => .ok []

/-- Passes over a string, after its opening quote, that is not needed. -/
def skipString : Nat → List Char → Except Fault (List Char)
  | 0, s => .error (.before .endInString s)
  | _ + 1, [] => .error (.before .endInString [])
  | n + 1, c :: s =>
    if c = '"' then .ok s
    else if c = '\\' then
      match s with
      | [] => .error (.before .endInString [])
      | d :: t =>
        if d = 'u' then
          match readHex t with
          | .error f => .error f
          | .ok (_, rest) => skipString n rest
        else if (letterEscape d).isSome then skipString n t
        else .error (.at .invalidEscape s)
    else if c.toNat < 32 then .error (.before .controlCharacter (c :: s))
    else skipString n s

/-- A container that has been opened and not yet closed. -/
inductive Container where
  | array
  | object
deriving DecidableEq, Repr

/-- Where `skipFrom` stands: in front of a value, or after one in the innermost container. -/
inductive Turn where
  | value
  | after (comma : Bool)
deriving DecidableEq, Repr

/-- Passes over the key and the colon in front of a member's value. -/
def skipKey (s : List Char) : Except Fault (List Char) :=
  match skipBlank s with
  | [] => .error (.at .endInObject [])
  | '"' :: t =>
    match skipString (t.length + 1) t with
    | .error f => .error f
    | .ok rest => readColon rest
  | t => .error (.at .keyNotString t)

/-- Passes over a scalar; `none` if the text opens a container instead. -/
def skipScalar (c : Char) (t : List Char) : Except Fault (List Char) :=
  if c = 'n' then readWord ['u', 'l', 'l'] t
  else if c = 't' then readWord ['r', 'u', 'e'] t
  else if c = 'f' then readWord ['a', 'l', 's', 'e'] t
  else if c = '-' then skipNumber t
  else if c.isDigit then skipNumber (c :: t)
  else if c = '"' then skipString (t.length + 1) t
  else .error (.at .expectedValue (c :: t))

/-- Passes over what is left of a value inside the open containers, innermost first. -/
def skipFrom : Nat → Turn → List Container → List Char → Except Fault (List Char)
  | 0, _, _, s => .error (.before .endInValue s)
  | n + 1, .value, opened, s =>
    match skipBlank s with
    | [] => .error (.at .endInValue [])
    | c :: t =>
      if c = '[' then skipFrom n (.after false) (.array :: opened) t
      else if c = '\x7b' then skipFrom n (.after false) (.object :: opened) t
      else
        match skipScalar c t with
        | .error f => .error f
        | .ok rest => skipFrom n (.after true) opened rest
  | _ + 1, .after _, [], s => .ok s
  | n + 1, .after comma, .array :: opened, s =>
    match skipBlank s with
    | [] => .error (.at .endInList [])
    | c :: t =>
      if c = ',' ∧ comma then skipFrom n .value (.array :: opened) t
      else if c = ']' then skipFrom n (.after true) opened t
      else if comma then .error (.at .expectedListEnd (c :: t))
      else skipFrom n .value (.array :: opened) (c :: t)
  | n + 1, .after comma, .object :: opened, s =>
    match skipBlank s with
    | [] => .error (.at .endInObject [])
    | c :: t =>
      if c = '\x7d' then skipFrom n (.after true) opened t
      else if c ≠ ',' ∧ comma then .error (.at .expectedObjectEnd (c :: t))
      else
        match skipKey (if comma then t else c :: t) with
        | .error f => .error f
        | .ok rest => skipFrom n .value (.object :: opened) rest

/-- Passes over one value. -/
def skipValue (s : List Char) : Except Fault (List Char) :=
  skipFrom (2 * s.length + 2) .value [] s

end Failsafe.Json
