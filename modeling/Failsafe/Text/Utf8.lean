/-
  Texts as bytes.

  `encode` and `decode?` are the two directions of UTF-8; what is encoded decodes to itself
  (`decode?_encode`). `decodeLossy` reads any bytes, with a mark in the place of those that stand
  for nothing. `lines` cuts a file at its line feeds: a line that ends with one also loses
  a carriage return in front of it, and an unfinished last line is a line like the others.
-/

namespace Failsafe

/-- The number of bytes that a text takes up. -/
def Text.byteLength : List Char → Nat
  | [] => 0
  | c :: rest => c.utf8Size + byteLength rest

/-- A text cut after a number of bytes, unless that is inside a character or past the end. -/
def Text.splitAt? (n : Nat) : List Char → Option (List Char × List Char)
  | [] => if n = 0 then some ([], []) else none
  | c :: rest =>
    if n = 0 then some ([], c :: rest)
    else if n < c.utf8Size then none
    else (splitAt? (n - c.utf8Size) rest).map fun (front, back) => (c :: front, back)

/-- The contents of a file. -/
abbrev Bytes := List UInt8

namespace Bytes

/-- The UTF-8 form of a text. -/
def encode (cs : List Char) : Bytes := cs.flatMap String.utf8EncodeChar

/-- The text that the bytes stand for, if they are valid UTF-8. -/
def decode? (b : Bytes) : Option (List Char) := b.toByteArray.utf8Decode?.map Array.toList

theorem decode?_encode (cs : List Char) : decode? (encode cs) = some cs := by
  have h : (encode cs).toByteArray.utf8Decode? = some cs.toArray := List.utf8Decode?_utf8Encode
  simp [decode?, h]

/-- A byte that continues a character. -/
def isContinuation (b : UInt8) : Bool := 128 ≤ b.toNat && b.toNat < 192

/-- What may follow the first byte of a character of several bytes: the least and the greatest
second byte, and how many bytes come after that one. -/
def tail? (b : UInt8) : Option (Nat × Nat × Nat) :=
  let n := b.toNat
  if 0xC2 ≤ n ∧ n ≤ 0xDF then some (0x80, 0xBF, 0)
  else if n = 0xE0 then some (0xA0, 0xBF, 1)
  else if n = 0xED then some (0x80, 0x9F, 1)
  else if 0xE1 ≤ n ∧ n ≤ 0xEF then some (0x80, 0xBF, 1)
  else if n = 0xF0 then some (0x90, 0xBF, 2)
  else if 0xF1 ≤ n ∧ n ≤ 0xF3 then some (0x80, 0xBF, 2)
  else if n = 0xF4 then some (0x80, 0x8F, 2)
  else none

/-- How many of the bytes after the first one belong to the same character, and whether it is
complete. -/
def following (first : UInt8) (rest : Bytes) : Nat × Bool :=
  match tail? first, rest with
  | some (least, greatest, more), b :: rest =>
    if least ≤ b.toNat ∧ b.toNat ≤ greatest then
      let n := ((rest.take more).takeWhile isContinuation).length
      (n + 1, n = more)
    else (0, false)
  | _, _ => (0, first.toNat < 128)

/-- Why bytes are no text. -/
structure DecodeError where
  /-- how many bytes in front are a text -/
  validUpTo : Nat
  /-- how many bytes then stand for nothing; unknown where a character is only cut off -/
  length? : Option Nat
deriving DecidableEq, Repr

/-- The first bytes that stand for nothing; `fuel` bounds the number of characters. -/
def firstError? : Nat → Nat → Bytes → Option DecodeError
  | 0, _, _ => none
  | _, _, [] => none
  | fuel + 1, place, b :: rest =>
    let (n, complete) := following b rest
    if complete then firstError? fuel (place + n + 1) (rest.drop n)
    else
      some ⟨place, if (tail? b).isSome && (rest.drop n).isEmpty then none else some (n + 1)⟩

/-- The text of the bytes, or why there is none. -/
def decode (b : Bytes) : Except DecodeError (List Char) :=
  match decode? b with
  | some cs => .ok cs
  | none => .error ((firstError? b.length 0 b).getD ⟨0, none⟩)

/-- The text of the bytes. Where they stand for nothing there is one replacement character for
each longest beginning of a character; `fuel` bounds the number of characters. -/
def decodeLossyFrom : Nat → Bytes → List Char
  | 0, _ => []
  | _ + 1, [] => []
  | fuel + 1, b :: rest =>
    let (n, complete) := following b rest
    let cs := if complete then (decode? (b :: rest.take n)).getD ['\uFFFD'] else ['\uFFFD']
    cs ++ decodeLossyFrom fuel (rest.drop n)

/-- The text of the bytes, with replacement characters where they stand for nothing. -/
def decodeLossy (b : Bytes) : List Char := (decode? b).getD (decodeLossyFrom b.length b)

/-- The line feed. -/
def lineFeed : UInt8 := 10

/-- The carriage return. -/
def carriageReturn : UInt8 := 13

/-- A finished line, given last byte first, without a carriage return at its end. -/
def finished : Bytes → Bytes
  | [] => []
  | b :: rest => if b = carriageReturn then rest.reverse else (b :: rest).reverse

/-- The lines of a file; `current` holds the bytes of the line begun, last first. -/
def linesFrom (current : Bytes) : Bytes → List Bytes
  | [] => if current.isEmpty then [] else [current.reverse]
  | b :: rest =>
    if b = lineFeed then finished current :: linesFrom [] rest
    else linesFrom (b :: current) rest

/-- The lines of a file. -/
def lines (b : Bytes) : List Bytes := linesFrom [] b

end Bytes

end Failsafe
