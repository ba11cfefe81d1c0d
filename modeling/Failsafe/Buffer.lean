import Failsafe.Wal
/-
  The write buffer: a bounded holding area for database writes, backed by a write-ahead log.

  `Buffer.add` checks the bounds against the net change, appends to the log and only then holds
  the entry; an entry with a key that is held already takes its place. Entries without a number
  are stamped with the next one. `Buffer.flush` hands everything to a sink and forgets it once
  the sink has taken it. `Buffer.new` restores what the log holds, even beyond the bounds.
-/

namespace Failsafe

/-- The bounds of the buffer, and its log. -/
structure BufferConfig where
  maxEntries : Nat
  maxBytes : Nat
  /-- where the log is kept; without one the buffer is in memory only -/
  wal : Option String
  /-- the log is forced to the disk after every append -/
  sync : Bool
deriving DecidableEq, Repr, Inhabited

namespace BufferConfig

/-- Ten thousand entries, sixteen megabytes, no log. -/
def standard : BufferConfig := ⟨10000, 16 * 1024 * 1024, none, false⟩

/-- What is wrong with the bounds. -/
def problem? (c : BufferConfig) : Option String :=
  if c.maxEntries = 0 then some "db_buffer.max_entries must be greater than 0"
  else if c.maxBytes = 0 then some "db_buffer.max_bytes must be greater than 0"
  else none

end BufferConfig

/-- The write buffer. -/
structure Buffer where
  config : BufferConfig
  entries : List Entry
  /-- the sizes of the entries together -/
  bytes : Nat
  /-- the number of the next entry that has none -/
  nextSeq : Nat
deriving Repr, Inhabited

namespace Buffer

/-- Where the buffer files its log records. -/
def target : String := "ploy_sentinel::persistence::db_buffer"

/-- A log record of the buffer. -/
def record (level : Log.Level) (message : String) (fields : List (String × Log.Field)) : Signal :=
  .log ⟨level, target, message, fields⟩

/-- A bound has been reached. -/
def isFull (b : Buffer) : Bool :=
  decide (b.config.maxEntries ≤ b.entries.length) || decide (b.config.maxBytes ≤ b.bytes)

/-- The next number after an entry has been held. It is one of 64 bits as long as no entry has the
greatest of these, behind which none is left to be given. -/
def seqAfter (next : Nat) (e : Entry) : Nat :=
  match e.seq with
  | some n => max next (n + 1)
  | none => next

/-- The buffer that holds what a log gave back. -/
def ofReplay (config : BufferConfig) (r : Replay) : Buffer :=
  { config
    entries := r.entries
    bytes := Entry.totalSize r.entries
    nextSeq := r.entries.foldl seqAfter 0 }

/-- What is logged about restored entries. -/
def restored (b : Buffer) (r : Replay) : List Signal :=
  (if b.entries.isEmpty then [] else
    [record .info "Restored buffered writes from WAL"
      [("entries", .count b.entries.length), ("bytes", .count b.bytes),
        ("duplicates", .count (r.records - b.entries.length))]])
  ++ (if b.isFull then
    [record .warn "Replayed buffer exceeds configured limits"
      [("entries", .count b.entries.length), ("bytes", .count b.bytes)]]
    else [])

/-- A buffer, restored from its log. -/
def new (config : BufferConfig) (files : Files) : Except FileError Buffer × List Signal :=
  match config.wal with
  | none => (.ok (ofReplay config .empty), [])
  | some path =>
    match Wal.load files path with
    | (.error e, signals) => (.error e, signals)
    | (.ok r, signals) =>
      let b := ofReplay config r
      (.ok b, signals ++ b.restored r)

/-- The entry as it is held: with a number, the next one if it has none of its own. -/
def stamp (b : Buffer) (e : Entry) : Entry :=
  match e.seq with
  | some _ => e
  | none => e.withSeq b.nextSeq

/-- The held entry with a key. -/
def find? (b : Buffer) (key : String) : Option Entry := b.entries.find? fun e => e.key = key

/-- The number of entries and bytes once `e` is held. -/
def after (b : Buffer) (e : Entry) : Nat × Nat :=
  match b.find? e.key with
  | some held => (b.entries.length, b.bytes - held.size + e.size)
  | none => (b.entries.length + 1, b.bytes + e.size)

/-- The buffer that holds `e`. -/
def hold (b : Buffer) (e : Entry) : Buffer :=
  { b with
    entries := Entry.upsert e b.entries
    bytes := (b.after e).2
    nextSeq := seqAfter b.nextSeq e }

/-- Appends an entry to the log, if there is one. -/
def appendLog (b : Buffer) (files : Files) (e : Entry) : Files.Attempt :=
  match b.config.wal with
  | some path => Wal.append files path e
  | none => .ok files

/-- Holds a write. The answer is `false`, and nothing changes, if there is no room for it. Where
the log cannot be appended to, directories that have been made for it stay. -/
def add (e : Entry) (files : Files) (b : Buffer) :
    Step (Buffer × Files) (Except Error Bool) :=
  let e := b.stamp e
  let (count, bytes) := b.after e
  if b.config.maxEntries < count ∨ b.config.maxBytes < bytes then
    ⟨.ok false, (b, files), [record .warn "DB write buffer full, entry rejected"
      [("resource_type", .text e.resource), ("resource_id", .text e.id),
        ("entries", .count b.entries.length), ("bytes", .count b.bytes),
        ("entry_bytes", .count e.size)]]⟩
  else
    match b.appendLog files e with
    | .error f files => ⟨.error (.io f), (b, files), []⟩
    | .ok files =>
      ⟨.ok true, (b.hold e, files), [record .debug "Buffered DB write"
        [("key", .text e.key), ("bytes", .count e.size),
          ("replaced", .flag (b.find? e.key).isSome)]]⟩

/-- What the next flush hands to the sink; nothing is handed over by an empty buffer. -/
def batch? (b : Buffer) : Option (List Entry) := if b.entries.isEmpty then none else some b.entries

/-- The log once it has been emptied, if there is one. -/
def truncateLog (b : Buffer) (files : Files) : Except FileError Files :=
  match b.config.wal with
  | some path => files.truncate path
  | none => .ok files

/-- Hands everything to a sink, which replies whether it has taken all of it or nothing. The
answer is the number of entries flushed. -/
def flush (reply : List Entry → Except Error Unit) (files : Files) (b : Buffer) :
    Step (Buffer × Files) (Except Error Nat) :=
  match b.batch? with
  | none => ⟨.ok 0, (b, files), []⟩
  | some batch =>
    match reply batch with
    | .error e => ⟨.error e, (b, files), []⟩
    | .ok () =>
      match b.truncateLog files with
      | .error f => ⟨.error (.io f), (b, files), []⟩
      | .ok files =>
        ⟨.ok b.entries.length, ({ b with entries := [], bytes := 0 }, files),
          [record .info "Flushed DB write buffer" [("flushed", .count b.entries.length)]]⟩

end Buffer

end Failsafe
