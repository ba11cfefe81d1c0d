import Failsafe.Wal
/-
  The offline report on a write-ahead log: what a restart would restore from it.

  The report counts the lines by what they hold, the entries by the resource they are about and
  the bytes of their data, and on request lists every entry. `Report.make` only reads the files.
-/

namespace Failsafe

/-- How often each name occurs, in ascending order of the names. -/
abbrev Tally := List (String × Nat)

namespace Tally

/-- One occurrence more. -/
def add (name : String) : Tally → Tally
  | [] => [(name, 1)]
  | (held, n) :: rest =>
    if name < held then (name, 1) :: (held, n) :: rest
    else if name = held then (held, n + 1) :: rest
    else (held, n) :: add name rest

/-- How often each of some names occurs. -/
def ofList (names : List String) : Tally := names.foldl (fun t name => t.add name) []

end Tally

/-- What a log holds, and where it is kept. -/
structure Report where
  path : String
  replay : Replay
deriving Repr, Inhabited

namespace Report

/-- What a reader of the report is told when the log cannot be read. -/
def failure (path : String) : String := "failed to replay WAL " ++ path

/-- Reads a log; the signals are what is logged meanwhile. -/
def make (files : Files) (path : String) : Except FileError Report × List Signal :=
  match Wal.load files path with
  | (.error e, signals) => (.error e, signals)
  | (.ok replay, signals) => (.ok { path, replay }, signals)

/-- How many entries there are about each kind of resource. -/
def byResource (r : Report) : Tally := .ofList (r.replay.entries.map Entry.resource)

/-- The bytes of the entries' data together. -/
def payload (r : Report) : Nat := Entry.totalSize r.replay.entries

/-- A text followed by as many blanks as it lacks of a width. -/
def padded (width : Nat) (s : String) : String :=
  s ++ String.ofList (List.replicate (width - s.length) ' ')

/-- The line about a kind of resource. -/
def resourceLine (entry : String × Nat) : String :=
  "    " ++ padded 20 entry.1 ++ " " ++ toString entry.2

/-- The line about an entry. -/
def entryLine (e : Entry) : String :=
  "  " ++ e.wall.display ++ " " ++ e.key ++ " " ++ String.ofList e.dataText

/-- The lines of the report; `verbose` lists every entry. -/
def lines (verbose : Bool) (r : Report) : List String :=
  ["WAL: " ++ r.path,
    "  records read:     " ++ toString r.replay.records,
    "  unique entries:   " ++ toString r.replay.entries.length,
    "  superseded:       " ++ toString r.replay.duplicates,
    "  malformed lines:  " ++ toString r.replay.skipped,
    "  payload bytes:    " ++ toString r.payload]
  ++ (if r.byResource.isEmpty then [] else
    "  by resource type:" :: r.byResource.map resourceLine)
  ++ (if verbose then r.replay.entries.map entryLine else [])

end Report

end Failsafe
