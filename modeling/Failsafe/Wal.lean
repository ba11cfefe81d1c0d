import Failsafe.Entry
import Failsafe.Error
import Failsafe.Text.Blank
/-
  The write-ahead log of the write buffer: one entry per line, appended in front of every
  acceptance and emptied after a flush.

  `Wal.scan` reads it back: blank lines are passed over, lines that hold no entry are skipped and
  counted, and of the entries with one key the last stands. A line that is not even text ends the
  scan with an error. A log that does not exist is an empty one.
-/

namespace Failsafe

/-- What a log holds. -/
structure Replay where
  /-- of the entries with one key the last, in the order in which the keys first occur -/
  entries : List Entry
  /-- how many lines held an entry -/
  records : Nat
  /-- how many lines held something else -/
  skipped : Nat
deriving Repr, Inhabited

namespace Replay

/-- Nothing. -/
def empty : Replay := ⟨[], 0, 0⟩

/-- The number of entries that a later one with their key stands for. -/
def duplicates (r : Replay) : Nat := r.records - r.entries.length

/-- One entry more. -/
def add (r : Replay) (e : Entry) : Replay :=
  { r with entries := Entry.upsert e r.entries, records := r.records + 1 }

/-- One unreadable line more. -/
def skip (r : Replay) : Replay := { r with skipped := r.skipped + 1 }

end Replay

namespace Wal

/-- Where the log files its log records. -/
def target : String := "ploy_sentinel::persistence::wal"

/-- A log record about a log. -/
def record (level : Log.Level) (message path : String) (fields : List (String × Log.Field)) :
    Signal :=
  .log ⟨level, target, message, ("path", .word path) :: fields⟩

/-- The line that stands for an entry. -/
def line (e : Entry) : List Char := e.toJson.render ++ ['\n']

/-- What a line of text holds. -/
inductive Content where
  | blank
  | entry (e : Entry)
  | malformed (f : Json.Fault)

/-- What a line of text holds. -/
def content (text : List Char) : Content :=
  if text.all Text.isSpace then .blank
  else
    match Json.readAll (Entry.read Json.nestingLimit) text with
    | .ok e => .entry e
    | .error f => .malformed f

/-- Reads lines, the first of which has the given number, and adds what they hold to a replay. -/
def scanLines (path : String) : Nat → Replay → List Bytes →
    Except FileError Replay × List Signal
  | _, r, [] => (.ok r, [])
  | number, r, l :: rest =>
    match Bytes.decode? l with
    | none => (.error .notText, [])
    | some text =>
      match content text with
      | .blank => scanLines path (number + 1) r rest
      | .entry e => scanLines path (number + 1) (r.add e) rest
      | .malformed f =>
        let (result, signals) := scanLines path (number + 1) r.skip rest
        (result, record .warn ("Skipping malformed WAL record: " ++ f.report text) path
          [("line", .count number)] :: signals)

/-- Reads back the contents of a log. -/
def scan (path : String) (content : Bytes) : Except FileError Replay × List Signal :=
  scanLines path 1 .empty (Bytes.lines content)

/-- Reads a log. -/
def load (files : Files) (path : String) : Except FileError Replay × List Signal :=
  match files.read path with
  | .error .notFound =>
    (.ok .empty, [record .debug "No WAL file, nothing to replay" path []])
  | .error e => (.error e, [])
  | .ok content =>
    match scan path content with
    | (.error e, signals) => (.error e, signals)
    | (.ok r, signals) =>
      (.ok r, signals ++ [record .info "WAL loaded" path
        [("records", .count r.records), ("entries", .count r.entries.length),
          ("skipped", .count r.skipped)]])

/-- Appends an entry to a log. -/
def append (files : Files) (path : String) (e : Entry) : Files.Attempt :=
  files.appendMaking path (Bytes.encode (line e))

end Wal

end Failsafe
