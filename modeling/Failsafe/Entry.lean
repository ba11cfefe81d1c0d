import Failsafe.Event
/-
  Database writes that wait to be flushed.

  An entry names a resource and holds the data to be written there. Once it has a sequence
  number it has a key, made of the resource and the number; of two entries with one key the
  later stands (`Entry.upsert`). Its size is that of the canonical text of its data.
-/

namespace Failsafe

/-- A database write that waits to be flushed. -/
structure Entry where
  resource : String
  id : String
  data : Json.Members
  wall : Timestamp
  seq : Option Nat
  key : String
deriving Repr, Inhabited

namespace Entry

/-- An entry without a number. -/
def new (now : Moment) (resource id : String) (data : Json.Members) : Entry :=
  { resource, id, data, wall := now.wall, seq := none, key := "" }

/-- The key of a resource's write with a number. -/
def keyOf (resource id : String) (seq : Nat) : String :=
  resource ++ ":" ++ id ++ ":" ++ toString seq

/-- The entry with a number, and with it a key. -/
def withSeq (e : Entry) (seq : Nat) : Entry :=
  { e with seq := some seq, key := keyOf e.resource e.id seq }

/-- The text of the data. -/
def dataText (e : Entry) : List Char := (Json.Value.obj e.data).render

/-- The number of bytes that the data takes up. -/
def size (e : Entry) : Nat := Text.byteLength e.dataText

/-- The stored form. -/
def toJson (e : Entry) : Json.Value :=
  .obj [("resource_type", .str e.resource), ("resource_id", .str e.id), ("data", .obj e.data),
    ("timestamp", .str e.wall.write), ("seq_no", Json.Value.opt .nat e.seq),
    ("idempotent_key", .str e.key)]

/-- The fields of a stored entry. -/
def slots : List (Json.Slot Entry) :=
  [.store "resource_type" .required (fun _ => Json.readText "a string")
      fun a e => { e with resource := a },
    .store "resource_id" .required (fun _ => Json.readText "a string") fun a e =>
      { e with id := a },
    .store "data" .required Json.readObject fun a e => { e with data := a },
    .store "timestamp" .required (fun _ => Timestamp.read) fun a e => { e with wall := a },
    .store "seq_no" .defaulted (fun _ => Json.readOption Json.readNat64)
      fun a e => { e with seq := a },
    .store "idempotent_key" .defaulted (fun _ => Json.readText "a string")
      fun a e => { e with key := a }]

/-- The values of an entry's fields before any is read. -/
def blank : Entry := new ⟨0, .epoch⟩ "" "" []

/-- Reads a stored entry. -/
def read : Nat → Json.Reader Entry := Json.readRecord "struct BufferEntry" slots blank

/-- Puts an entry in the place of the one with its key, or at the end. -/
def upsert (e : Entry) : List Entry → List Entry
  | [] => [e]
  | held :: rest => if held.key = e.key then e :: rest else held :: upsert e rest

/-- Of the entries with one key the last, in the order in which the keys first occur. -/
def lastWriteWins (l : List Entry) : List Entry := l.foldl (fun held e => upsert e held) []

/-- The sizes of the entries together. -/
def totalSize : List Entry → Nat
  | [] => 0
  | e :: rest => e.size + totalSize rest

end Entry

end Failsafe
