import Failsafe.Json.Fault
/-
  Reading JSON texts.

  A reader takes the unread text and returns a value with what is left, or the first fault in
  reading order. Here are the readers of the parts of a text: words, numbers, strings, and what
  stands between the items of a list and the members of an object.
-/

namespace Failsafe.Json

/-- A reader of `α` from the front of a text. -/
abbrev Reader (α : Type) := List Char → Except Fault (α × List Char)

/-- The white space of JSON. -/
def isBlank (c : Char) : Bool := c == ' ' || c == '\n' || c == '\t' || c == '\r'

/-- The text without leading white space. -/
def skipBlank (s : List Char) : List Char := s.dropWhile isBlank

/-- The value of a decimal digit. -/
def digit (c : Char) : Nat := c.toNat - '0'.toNat

/-- Passes over the given word. -/
def readWord : List Char → List Char → Except Fault (List Char)
  | [], s => .ok s
  | _ :: _, [] => .error (.before .endInValue [])
  | w :: word, c :: s => if c = w then readWord word s else .error (.at .expectedWord (c :: s))

/-! ## Numbers -/

/-- The largest significand that is kept exactly. -/
def significandLimit : Nat := Width.bound 64

/-- Takes digits while the significand stays below the limit. -/
def takeSignificand : Nat → List Char → Nat × List Char
  | n, [] => (n, [])
  | n, c :: s =>
    if c.isDigit && decide (n * 10 + digit c < significandLimit) then
      takeSignificand (n * 10 + digit c) s
    else (n, c :: s)

/-- A power of ten as a float. -/
def power (n : Nat) : Float := Float.ofScientific 1 false n

/-- A significand divided by a power of ten, in steps that a float can hold. -/
def scaleDown (f : Float) (n : Nat) : Float :=
  if n ≤ 308 then f / power n
  else if n ≤ 616 then f / power 308 / power (n - 308)
  else 0.0

/-- The float nearest to a significand, scaled by a power of ten. -/
def scaled (positive : Bool) (significand : Nat) (exponent : Int) : Option Number :=
  let signed (f : Float) : Option Number :=
    some (.float (if positive then f else -f).toBits)
  let f := Float.ofNat significand
  if exponent < 0 then signed (scaleDown f (-exponent).toNat)
  else if 308 < exponent then (if significand = 0 then signed f else none)
  else
    let g := f * power exponent.toNat
    if g.isInf then none else signed g

/-- A scaled number, or the fault that it is out of range. -/
def finish (positive : Bool) (significand : Nat) (exponent : Int) : Reader Number :=
  fun s =>
    match scaled positive significand exponent with
    | some n => .ok (n, s)
    | none => .error (.before .numberOutOfRange s)

/-- The largest exponent that is counted. -/
def exponentLimit : Nat := Width.bound 31 - 1

/-- Takes the digits of an exponent; the flag tells that it passed the limit. -/
def takeExponent : Nat → List Char → Nat × List Char × Bool
  | n, [] => (n, [], false)
  | n, c :: s =>
    if c.isDigit then
      let n' := n * 10 + digit c
      if exponentLimit < n' then (n', s, true) else takeExponent n' s
    else (n, c :: s, false)

/-- The part of a number after its `e`. -/
def readExponent (positive : Bool) (significand : Nat) (start : Int) : Reader Number := fun s =>
  let (raised, s) := match s with
    | '+' :: t => (true, t)
    | '-' :: t => (false, t)
    | t => (true, t)
  match s with
  | [] => .error (.before .endInValue [])
  | c :: _ =>
    if !c.isDigit then .error (.at .invalidNumber s)
    else
      let (n, rest, passed) := takeExponent 0 s
      if passed then
        if significand ≠ 0 ∧ raised then .error (.before .numberOutOfRange rest)
        else .ok (.float (if positive then (0.0 : Float) else (-0.0 : Float)).toBits,
          rest.dropWhile Char.isDigit)
      else finish positive significand (if raised then start + n else start - n) rest

/-- An exponent if one follows, else the number as it is. -/
def readScale (positive : Bool) (significand : Nat) (exponent : Int) : Reader Number
  | 'e' :: t => readExponent positive significand exponent t
  | 'E' :: t => readExponent positive significand exponent t
  | s => finish positive significand exponent s

/-- The part of a number after its point. -/
def readFraction (positive : Bool) (significand : Nat) (exponent : Int) : Reader Number := fun s =>
  match s with
  | [] => .error (.at .endInValue [])
  | c :: _ =>
    if !c.isDigit then .error (.at .invalidNumber s)
    else
      let (n, rest) := takeSignificand significand s
      let taken : Int := s.length - rest.length
      readScale positive n (exponent - taken) (rest.dropWhile Char.isDigit)

/-- A whole number of 64 bits; zero with a sign and anything beyond become floats. -/
def wholeNumber (positive : Bool) (n : Nat) : Number :=
  if positive then .int n
  else if n = 0 ∨ Width.bound 63 < n then .float (-(Float.ofNat n)).toBits
  else .int (-(n : Int))

/-- A number after its sign. -/
def readNumber (positive : Bool) : Reader Number := fun s =>
  match s with
  | [] => .error (.before .endInValue [])
  | '0' :: rest =>
    match rest with
    | '.' :: t => readFraction positive 0 0 t
    | 'e' :: t => readExponent positive 0 0 t
    | 'E' :: t => readExponent positive 0 0 t
    | c :: _ => if c.isDigit then .error (.at .invalidNumber rest)
      else .ok (wholeNumber positive 0, rest)
    | [] => .ok (wholeNumber positive 0, [])
  | c :: _ =>
    if !c.isDigit then .error (.at .invalidNumber s)
    else
      let (n, rest) := takeSignificand 0 s
      let tail := rest.dropWhile Char.isDigit
      let dropped : Int := rest.length - tail.length
      match tail with
      | '.' :: t => readFraction positive n dropped t
      | 'e' :: t => readExponent positive n dropped t
      | 'E' :: t => readExponent positive n dropped t
      | _ => if dropped = 0 then .ok (wholeNumber positive n, tail)
        else finish positive n dropped tail

/-! ## Strings -/

/-- The value of a hexadecimal digit. -/
def hexValue (c : Char) : Option Nat :=
  if c.isDigit then some (digit c)
  else if 'a' ≤ c ∧ c ≤ 'f' then some (c.toNat - 'a'.toNat + 10)
  else if 'A' ≤ c ∧ c ≤ 'F' then some (c.toNat - 'A'.toNat + 10)
  else none

/-- The four digits of a numeric escape. -/
def readHex : Reader Nat := fun s =>
  let wrong : Except Fault (Nat × List Char) :=
    if Text.byteLength s < 4 then .error (.before .endInString [])
    else .error (.leaving .invalidEscape (Text.byteLength s - 4))
  match s with
  | a :: b :: c :: d :: rest =>
    match hexValue a, hexValue b, hexValue c, hexValue d with
    | some a, some b, some c, some d => .ok (((a * 16 + b) * 16 + c) * 16 + d, rest)
    | _, _, _, _ => wrong
  | _ => wrong

/-- The second half of a surrogate pair that began with `high`. -/
def readPair (high : Nat) : Reader Char := fun s =>
  match s with
  | [] => .error (.before .endInString [])
  | '\\' :: t =>
    match t with
    | [] => .error (.before .endInString [])
    | 'u' :: u =>
      match readHex u with
      | .error f => .error f
      | .ok (low, rest) =>
        if low < 0xDC00 ∨ 0xDFFF < low then .error (.before .loneSurrogate rest)
        else .ok (Char.ofNat ((high - 0xD800) * 1024 + (low - 0xDC00) + 0x10000), rest)
    | _ => .error (.at .unfinishedEscape t)
  | _ => .error (.at .unfinishedEscape s)

/-- The character of a single-letter escape. -/
def letterEscape : Char → Option Char
  | '"' => some '"'
  | '\\' => some '\\'
  | '/' => some '/'
  | 'b' => some '\x08'
  | 'f' => some '\x0c'
  | 'n' => some '\n'
  | 'r' => some '\r'
  | 't' => some '\t'
  | _ => none

/-- The character that an escape stands for, after its backslash. -/
def readEscape : Reader Char := fun s =>
  match s with
  | [] => .error (.before .endInString [])
  | c :: t =>
    if c = 'u' then
      match readHex t with
      | .error f => .error f
      | .ok (n, rest) =>
        if 0xDC00 ≤ n ∧ n ≤ 0xDFFF then .error (.before .loneSurrogate rest)
        else if n < 0xD800 ∨ 0xDBFF < n then .ok (Char.ofNat n, rest)
        else readPair n rest
    else
      match letterEscape c with
      | some d => .ok (d, t)
      | none => .error (.at .invalidEscape s)

/-- The characters of a string up to its closing quote; `acc` holds those read, last first. -/
def readChars : Nat → List Char → Reader (List Char)
  | 0, _, s => .error (.before .endInString s)
  | _ + 1, _, [] => .error (.before .endInString [])
  | n + 1, acc, c :: s =>
    if c = '"' then .ok (acc.reverse, s)
    else if c = '\\' then
      match readEscape s with
      | .error f => .error f
      | .ok (d, rest) => readChars n (d :: acc) rest
    else if c.toNat < 32 then .error (.before .controlCharacter s)
    else readChars n (c :: acc) s

/-- A string after its opening quote. -/
def readString : Reader String := fun s =>
  match readChars (s.length + 1) [] s with
  | .error f => .error f
  | .ok (cs, rest) => .ok (String.ofList cs, rest)

/-! ## Containers -/

/-- Whether an array has another item; if so the text starts at it, else at the bracket. -/
def nextItem (first : Bool) (s : List Char) : Except Fault (Bool × List Char) :=
  match skipBlank s with
  | [] => .error (.at .endInList [])
  | ']' :: t => .ok (false, ']' :: t)
  | c :: t =>
    if first then .ok (true, c :: t)
    else if c = ',' then
      match skipBlank t with
      | [] => .error (.at .endInValue [])
      | ']' :: u => .error (.at .trailingComma (']' :: u))
      | u => .ok (true, u)
    else .error (.at .expectedListEnd (c :: t))

/-- Whether an object has another member; if so the text starts after the opening quote of its
key, else at the brace. -/
def nextKey (first : Bool) (s : List Char) : Except Fault (Bool × List Char) :=
  match skipBlank s with
  | [] => .error (.at .endInObject [])
  | '\x7d' :: t => .ok (false, '\x7d' :: t)
  | c :: t =>
    if first then
      if c = '"' then .ok (true, t) else .error (.at .keyNotString (c :: t))
    else if c = ',' then
      match skipBlank t with
      | [] => .error (.at .endInValue [])
      | '"' :: u => .ok (true, u)
      | '\x7d' :: u => .error (.at .trailingComma ('\x7d' :: u))
      | u => .error (.at .keyNotString u)
    else .error (.at .expectedObjectEnd (c :: t))

/-- Passes over the colon after a key. -/
def readColon (s : List Char) : Except Fault (List Char) :=
  match skipBlank s with
  | [] => .error (.at .endInObject [])
  | ':' :: t => .ok t
  | t => .error (.at .expectedColon t)

/-- The items of an array, up to its closing bracket. -/
def readItems (item : Reader α) : Nat → Bool → List α → Reader (List α)
  | 0, _, _, s => .error (.before .endInList s)
  | n + 1, first, acc, s =>
    match nextItem first s with
    | .error f => .error f
    | .ok (false, t) => .ok (acc.reverse, t.drop 1)
    | .ok (true, t) =>
      match item t with
      | .error f => .error f
      | .ok (a, rest) => readItems item n false (a :: acc) rest

/-- The members of an object, folded into a state; the text is left at the closing brace. -/
def foldMembers (member : String → σ → Reader σ) : Nat → Bool → σ → Reader σ
  | 0, _, _, s => .error (.before .endInObject s)
  | n + 1, first, state, s =>
    match nextKey first s with
    | .error f => .error f
    | .ok (false, t) => .ok (state, t)
    | .ok (true, t) =>
      match readString t with
      | .error f => .error f
      | .ok (key, u) =>
        match member key state u with
        | .error f => .error f
        | .ok (state, rest) => foldMembers member n false state rest

/-! ## Strings where nothing else will do -/

/-- What stands in front of the reader when it should not. -/
def mistyped (expected : String) (s : List Char) : Fault :=
  let wrong (found : Found) (rest : List Char) : Fault :=
    .before (.mismatch (.wrongType found expected)) rest
  let word (word : List Char) (found : Found) (t : List Char) : Fault :=
    match readWord word t with
    | .error f => f
    | .ok rest => wrong found rest
  let number (positive : Bool) (t : List Char) : Fault :=
    match readNumber positive t with
    | .error f => f
    | .ok (n, rest) => wrong (.number n) rest
  match s with
  | [] => .at .expectedValue []
  | c :: t =>
    if c = 'n' then word ['u', 'l', 'l'] .null t
    else if c = 't' then word ['r', 'u', 'e'] (.bool true) t
    else if c = 'f' then word ['a', 'l', 's', 'e'] (.bool false) t
    else if c = '-' then number false t
    else if c.isDigit then number true (c :: t)
    else if c = '"' then
      match readString t with
      | .error f => f
      | .ok (str, rest) => wrong (.str str) rest
    else if c = '[' then wrong .sequence (c :: t)
    else if c = '\x7b' then wrong .map (c :: t)
    else .at .expectedValue (c :: t)

/-- A string, named `expected` in faults. -/
def readText (expected : String) : Reader String := fun s =>
  match skipBlank s with
  | [] => .error (.at .endInValue [])
  | '"' :: t => readString t
  | t => .error (mistyped expected t)

/-! ## Whole texts -/

/-- Runs a reader over a whole text; nothing but white space may follow. -/
def readAll (reader : Reader α) (text : List Char) : Except Fault α :=
  match reader text with
  | .error f => .error f
  | .ok (a, rest) =>
    match skipBlank rest with
    | [] => .ok a
    | t => .error (.at .trailingCharacters t)

end Failsafe.Json
