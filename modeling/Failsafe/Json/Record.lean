import Failsafe.Json.Plain
import Failsafe.Json.Skipping
/-
  Reading JSON texts as values of known shapes: names, numbers, strings, lists and records.

  A record is described by its slots. It may be written as an object, its fields in any order
  and others ignored, or as an array of its fields in slot order. A record's fault is the first
  one in the text; missing fields are noticed at the closing brace, in slot order.
-/

namespace Failsafe.Json

/-- A string in a format of its own. -/
def readFormatted (expected : String) (parse : String → Except String α) : Reader α := fun s =>
  match readText expected s with
  | .error f => .error f
  | .ok (str, rest) =>
    match parse str with
    | .ok a => .ok (a, rest)
    | .error reason => .error (.before (.mismatch (.malformed reason)) rest)

/-- A truth value. -/
def readBool : Reader Bool := fun s =>
  match skipBlank s with
  | [] => .error (.at .endInValue [])
  | 't' :: t => (readWord ['r', 'u', 'e'] t).map fun rest => (true, rest)
  | 'f' :: t => (readWord ['a', 'l', 's', 'e'] t).map fun rest => (false, rest)
  | t => .error (mistyped "a boolean" t)

/-- A natural number below `limit`, named `expected` in faults. -/
def readNatural (limit : Nat) (expected : String) : Reader Nat := fun s =>
  let accept (n : Number) (rest : List Char) : Except Fault (Nat × List Char) :=
    match n with
    | .int k =>
      if 0 ≤ k ∧ k < limit then .ok (k.toNat, rest)
      else .error (.before (.mismatch (.wrongValue (.number n) expected)) rest)
    | .float _ => .error (.before (.mismatch (.wrongType (.number n) expected)) rest)
  match skipBlank s with
  | [] => .error (.at .endInValue [])
  | c :: t =>
    if c = '-' then
      match readNumber false t with
      | .error f => .error f
      | .ok (n, rest) => accept n rest
    else if c.isDigit then
      match readNumber true (c :: t) with
      | .error f => .error f
      | .ok (n, rest) => accept n rest
    else .error (mistyped expected (c :: t))

/-- A natural number of 32 bits. -/
def readNat32 : Reader Nat := readNatural (Width.bound 32) "u32"

/-- A natural number of 64 bits. -/
def readNat64 : Reader Nat := readNatural (Width.bound 64) "u64"

/-- A natural number that counts things in memory. -/
def readSize : Reader Nat := readNatural (Width.bound 64) "usize"

/-- Either `null` or what `reader` reads. -/
def readOption (reader : Reader α) : Reader (Option α) := fun s =>
  match skipBlank s with
  | 'n' :: t => (readWord ['u', 'l', 'l'] t).map fun rest => (none, rest)
  | t => (reader t).map fun (a, rest) => (some a, rest)

/-- One of the named values. -/
def lookUp (table : List (String × α)) (name : String) (rest : List Char) :
    Except Fault (α × List Char) :=
  match table.find? fun entry => entry.1 == name with
  | some (_, a) => .ok (a, rest)
  | none => .error (.before (.mismatch (.unknownName name (table.map Prod.fst))) rest)

/-- A value given by its name, as a string or as the only key of an object that maps it to
`null`. -/
def readName (table : List (String × α)) (depth : Nat) : Reader α := fun s =>
  match skipBlank s with
  | [] => .error (.at .endInValue [])
  | '"' :: t =>
    match readString t with
    | .error f => .error f
    | .ok (name, rest) => lookUp table name rest
  | '\x7b' :: t =>
    if depth = 0 then .error (.at .tooDeep ('\x7b' :: t))
    else do
      let (name, rest) ← match skipBlank t with
        | [] => .error (.at .endInValue [])
        | '"' :: u => readString u
        | u => .error (.at .keyNotString u)
      let (a, rest) ← lookUp table name rest
      let rest ← readColon rest
      let rest ← match skipBlank rest with
        | [] => .error (.at .endInValue [])
        | 'n' :: u => readWord ['u', 'l', 'l'] u
        | u => .error (mistyped "unit" u)
      match skipBlank rest with
      | [] => .error (.before .endInObject [])
      | '\x7d' :: u => .ok (a, u)
      | u => .error (.before .expectedValue u)
  | t => .error (.at .expectedValue t)

/-- The text after a closing bracket of an array whose items have all been read. -/
def closeArray (s : List Char) : Except Fault (List Char) :=
  match skipBlank s with
  | [] => .error (.at .endInList [])
  | ']' :: t => .ok t
  | ',' :: t =>
    match skipBlank t with
    | ']' :: u => .error (.at .trailingComma (']' :: u))
    | u => .error (.at .trailingCharacters u)
  | t => .error (.at .trailingCharacters t)

/-- A list of values of one shape. -/
def readList (item : Nat → Reader α) (depth : Nat) : Reader (List α) := fun s =>
  match skipBlank s with
  | [] => .error (.at .endInValue [])
  | '[' :: t =>
    match depth with
    | 0 => .error (.at .tooDeep ('[' :: t))
    | depth + 1 => readItems (item depth) (t.length + 1) true [] t
  | t => .error (mistyped "a sequence" t)

/-- A plain object. -/
def readObject (depth : Nat) : Reader Members := fun s =>
  match skipBlank s with
  | [] => .error (.at .endInValue [])
  | '\x7b' :: t =>
    match depth with
    | 0 => .error (.at .tooDeep ('\x7b' :: t))
    | depth + 1 =>
      (foldMembers (readMember (readValue depth)) (t.length + 1) true [] t).map
        fun (members, rest) => (members, rest.drop 1)
  | t => .error (mistyped "a map" t)

/-! ## Records -/

/-- Whether a field may be left out. -/
inductive Presence where
  /-- it may not -/
  | required
  /-- it may be left out of an object, not of an array -/
  | optional
  /-- it may be left out of both -/
  | defaulted
deriving DecidableEq, Repr

/-- A field of a record of type `σ`: reading it gives the change it makes to the record. -/
structure Slot (σ : Type) where
  name : String
  presence : Presence
  read : Nat → Reader (σ → σ)

/-- A slot that stores what a reader returns. -/
def Slot.store (name : String) (presence : Presence) (reader : Nat → Reader α)
    (set : α → σ → σ) : Slot σ :=
  { name, presence, read := fun depth s => (reader depth s).map fun (a, rest) => (set a, rest) }

/-- The bytes left after an attempt to close the object in front of which a fault arose. -/
def leftAfterBrace (s : List Char) : Nat :=
  match skipBlank s with
  | '\x7d' :: t => Text.byteLength t
  | t => Text.byteLength t

/-- The bytes left after an attempt to close the array in front of which a fault arose. -/
def leftAfterBracket (s : List Char) : Nat :=
  match skipBlank s with
  | ']' :: t => Text.byteLength t
  | ',' :: t => Text.byteLength (skipBlank t)
  | t => Text.byteLength t

/-- A record under construction, and the names of the fields that have been set. -/
structure Draft (σ : Type) where
  record : σ
  set : List String

/-- One member of a record's object. -/
def readField (slots : List (Slot σ)) (depth : Nat) (key : String) (draft : Draft σ) :
    Reader (Draft σ) := fun s =>
  match slots.find? fun slot => slot.name == key with
  | none => do
    let t ← readColon s
    let rest ← skipValue t
    .ok (draft, rest)
  | some slot =>
    if draft.set.contains key then
      .error (.leaving (.mismatch (.duplicateField key)) (leftAfterBrace s))
    else do
      let t ← readColon s
      let (change, rest) ← slot.read depth t
      .ok (⟨change draft.record, key :: draft.set⟩, rest)

/-- The first required field that has not been set. -/
def Draft.missing? (slots : List (Slot σ)) (draft : Draft σ) : Option String :=
  (slots.find? fun slot => slot.presence = .required ∧ !draft.set.contains slot.name).map Slot.name

/-- The phrase that counts a record's elements. -/
def elements (label : String) (count : Nat) : String :=
  label ++ " with " ++ toString count ++ (if count = 1 then " element" else " elements")

/-- The fields of a record in slot order; `index` of them have been passed. -/
def readSlots (label : String) (count depth : Nat) : Nat → List (Slot σ) → σ → Reader σ
  | _, [], record, s => .ok (record, s)
  | index, slot :: slots, record, s =>
    match nextItem (index = 0) s with
    | .error f => .error f
    | .ok (false, t) =>
      if slot.presence = .defaulted then readSlots label count depth (index + 1) slots record t
      else
        let cause := .mismatch (.wrongLength index (elements label count))
        .error (.leaving cause (leftAfterBracket t))
    | .ok (true, t) =>
      match slot.read depth t with
      | .error f => .error f
      | .ok (change, rest) => readSlots label count depth (index + 1) slots (change record) rest

/-- A record, from its slots and the values of its fields before any is read. -/
def readRecord (label : String) (slots : List (Slot σ)) (blank : σ) (depth : Nat) : Reader σ :=
  fun s =>
    match skipBlank s with
    | [] => .error (.at .endInValue [])
    | '\x7b' :: t =>
      match depth with
      | 0 => .error (.at .tooDeep ('\x7b' :: t))
      | depth + 1 =>
        match foldMembers (readField slots depth) (t.length + 1) true ⟨blank, []⟩ t with
        | .error f => .error f
        | .ok (draft, rest) =>
          match draft.missing? slots with
          | some field => .error (.leaving (.mismatch (.missingField field)) (leftAfterBrace rest))
          | none => .ok (draft.record, rest.drop 1)
    | '[' :: t =>
      match depth with
      | 0 => .error (.at .tooDeep ('[' :: t))
      | depth + 1 =>
        match readSlots label slots.length depth 0 slots blank t with
        | .error f => .error f
        | .ok (record, rest) => (closeArray rest).map fun u => (record, u)
    | t => .error (mistyped label t)

/-- A whole text read as one value of a known shape. -/
def decode (reader : Nat → Reader α) (text : String) : Except Fault α :=
  readAll (reader nestingLimit) text.toList

end Failsafe.Json
