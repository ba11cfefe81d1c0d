import Failsafe.Audit
import Failsafe.CommandLine.Invocation
import Failsafe.ControlPlane
import Failsafe.Database.Address
import Failsafe.Dispatch
import Failsafe.Log.Console
import Failsafe.Log.Filter
import Failsafe.Report
import Failsafe.Settings.Loading
/-
  The program: from its arguments, the environment and the files to all that it writes.

  `Program.launch` goes as far as the program gets by itself: to its end, or to the point where
  the control plane is running and only an interrupt is awaited. `Running.interrupt` is what
  happens then.
-/

namespace Failsafe

/-- A line of the standard output. -/
inductive OutputLine where
  | text (s : String)
  /-- a log record, in one of its two forms -/
  | record (json : Bool) (r : Log.Record)
deriving DecidableEq, Repr

/-- A line as it is written at some time. -/
def OutputLine.write (t : Timestamp) : OutputLine → String
  | text s => s
  | record false r => t.stamp ++ " " ++ r.row
  | record true r => (Json.Value.obj (("timestamp", .str t.stamp) :: r.members)).compress

/-- What the program has written. -/
structure Written where
  output : List OutputLine
  /-- the lines of the standard error -/
  errors : List String
  files : Files

/-- Nothing has been written yet. -/
def Written.none (files : Files) : Written := ⟨[], [], files⟩

/-- Why the program fails. -/
inductive Failure where
  | settings (e : Settings.LoadError)
  | database (e : Database.ConnectError)
  /-- a write-ahead log cannot be read -/
  | replay (path : String) (e : FileError)
  | library (e : Error)
deriving Repr

namespace Failure

/-- Lines between parentheses after a word. -/
def enclosed (word : String) (lines : List String) : List String :=
  let closed := lines.dropLast ++ [lines.getLast?.getD "" ++ ")"]
  (word ++ "(" ++ closed.head?.getD "") :: closed.tail

/-- The diagnostic form of an error of the library. -/
def diagnostic : Error → List String
  | .validation d => ["Validation(" ++ Text.quoted d ++ ")"]
  | .invalidState d => ["InvalidState(" ++ Text.quoted d ++ ")"]
  | .internal d => ["Internal(" ++ Text.quoted d ++ ")"]
  | .io e => ["Io(" ++ e.diagnostic ++ ")"]
  | e => enclosed "Other" [e.message]

/-- What the program says about its failure. -/
def lines (f : Failure) : List String :=
  let shown := match f with
    | settings e => enclosed "Config" e.lines
    | database e => ["Database(" ++ e.diagnostic ++ ")"]
    | replay path e => enclosed "Other" [Report.failure path, "", "Caused by:",
        "    0: " ++ (Error.io e).message, "    1: " ++ e.message]
    | library e => diagnostic e
  ("Error: " ++ shown.head?.getD "") :: shown.tail

end Failure

/-! ## Logging -/

/-- Which log records are written, and in which form. -/
structure Logging where
  filter : Log.Filter
  json : Bool

namespace Logging

/-- The lines for some records. -/
def write (l : Logging) (records : List Log.Record) : List OutputLine :=
  (records.filter l.filter.keeps).map (.record l.json)

/-- The variable that overrides the level of the settings. -/
def filterVariable : String := "RUST_LOG"

/-- The filter, and what is said about directives that are passed over. -/
def chooseFilter (level : String) (vars : List (String × String)) :
    Log.Filter × List String :=
  let own := (vars.find? fun e => e.1 = filterVariable).bind fun e => Log.Filter.read? e.2
  match own with
  | some filter => (filter, [])
  | none => Log.Filter.readLenient (level ++ ",ploy_sentinel=" ++ level ++ ",sqlx=warn")

/-- The name of log files, before their date. -/
def fileName : String := "sentinel.log"

/-- The name of the file that shows whether a directory can be written to. -/
def probeName : String := ".sentinel_write_test"

/-- Makes sure that a directory can be written to, or says why not. -/
def probe (directory : String) (files : Files) : Files × Option String :=
  let without (trouble : String) (e : FileError) : String :=
    "Warning: Could not " ++ trouble ++ " log directory " ++ directory ++ " (" ++ e.message
      ++ "), file logging disabled"
  match files.makeDirectories directory with
  | .error e files => (files, some (without "create" e))
  | .ok files =>
    let path := Path.below directory probeName
    match files.append path [] with
    | .error e => (files, some (without "write to" e))
    | .ok files => ((files.remove path).1, none)

/-- The log file of the day in a directory. -/
def dayFile (now : Moment) (directory : String) : String :=
  Path.below directory (fileName ++ "." ++ String.ofList (now.wall.display.toList.take 10))

/-- Opens the log file of the day, if a directory for log files is set. -/
def openFile (now : Moment) (directory? : Option String) (files : Files) : Files × List String :=
  match directory? with
  | none => (files, [])
  | some directory =>
    match probe directory files with
    | (files, some warning) => (files, [warning])
    | (files, none) =>
      let made := files.append (dayFile now directory) []
      (made.toOption.getD files, ["Logging to: " ++ directory ++ "/" ++ fileName])

end Logging

/-! ## Running -/

/-- The program while it waits for an interrupt. -/
structure Running where
  plane : ControlPlane
  out : Surroundings Unit
  logging : Logging

/-- How far the program gets by itself. -/
inductive Launch where
  | ended (code : Nat) (written : Written)
  | running (r : Running) (written : Written)

namespace Program

/-- Where the program files its log records. -/
def target : String := "ploy_sentinel"

/-- A log record of the program. -/
def record (level : Log.Level) (message : String) (fields : List (String × Log.Field)) :
    Log.Record :=
  ⟨level, target, message, fields⟩

/-- The mode as a field of a record. -/
def modeField (m : Mode) : String × Log.Field := ("mode", .word m.name)

/-- The only subscriber: every event is written to the log. -/
def audit : Surroundings.Act Unit Id := fun _ e => do
  modify (·.record [Audit.record e])
  pure (.handled .ok)

/-- How many steps the dispatcher is given; it has at most a few events to hand over. -/
def dispatchSteps : Nat := 1000

/-- Lets the dispatcher work. -/
def settle (s : Surroundings Unit) : Surroundings Unit :=
  ((Surroundings.settle audit dispatchSteps).run s).run.2

/-- Starts the control plane: the bus is dispatching, and the start has been submitted. -/
def start (now : Moment) (p : ControlPlane) (s : Surroundings Unit) :
    ControlPlane × Surroundings Unit :=
  let s := (s.onBus (·.subscribe ⟨Audit.name, ()⟩)).onBus Bus.start
  let done := p.submit now (Event.health now .system .coldStart)
  let s := s.absorb now done.signals
  let mode := (s.gate.current?.map Prod.fst).getD done.state.service.mode
  let s := s.record [record .info "Sentinel running, Ctrl-C to stop" [modeField mode]]
  (done.state, settle s)

/-- The surroundings of a control plane that is being assembled. -/
def surroundings (s : Settings) (files : Files) : Surroundings Unit :=
  { gate := .watch s.initialMode, bus? := some (ControlPlane.newBus s), files
    log := [record .warn "No database.url configured, buffered writes will not be flushed" []]
    pushes := [], alarms := [] }

/-- Runs with settings, after logging has been set up; `said` is what has been said about that. -/
def runWith (now : Moment) (ids : RunIds) (s : Settings) (logging : Logging) (said : List String)
    (vars : List (String × String)) (files : Files) : Launch :=
  match s.database.url with
  | some url =>
    let (e, logged) := Database.connect vars files url
    .ended 1 ⟨logging.write logged, said ++ (Failure.database e).lines, files⟩
  | none =>
    let (assembled, signals) := ControlPlane.assemble now ids s files
    let out := (surroundings s files).absorb now signals
    match assembled with
    | .error e =>
      .ended 1 ⟨logging.write out.log, said ++ (Failure.library e).lines, out.files⟩
    | .ok plane =>
      let (plane, out) := start now plane out
      .running ⟨plane, { out with log := [] }, logging⟩ ⟨logging.write out.log, said, out.files⟩

/-- Runs with the settings from a directory. -/
def run (now : Moment) (ids : RunIds) (directory : String) (vars : List (String × String))
    (files : Files) : Launch :=
  match Settings.load files directory vars with
  | .error e => .ended 1 ⟨[], (Failure.settings e).lines, files⟩
  | .ok s =>
    let (filter, passedOver) := Logging.chooseFilter s.logging.level vars
    let (files, said) := Logging.openFile now s.logging.directory files
    runWith now ids s ⟨filter, s.logging.json⟩ (passedOver ++ said) vars files

/-- Reports on a write-ahead log; warnings are written before the report. -/
def inspect (path : String) (verbose : Bool) (files : Files) : Launch :=
  let (report, signals) := Report.make files path
  let records := signals.filterMap fun
    | .log r => some r
    | _ => none
  let warnings := Logging.write ⟨.atLeast .warn, false⟩ records
  match report with
  | .error e => .ended 1 ⟨warnings, (Failure.replay path e).lines, files⟩
  | .ok r => .ended 0 ⟨warnings ++ (r.lines verbose).map .text, [], files⟩

/-- Starts the program with its arguments. -/
def launch (now : Moment) (ids : RunIds) (arguments : List String)
    (vars : List (String × String)) (files : Files) : Launch :=
  match CommandLine.Invocation.read arguments with
  | .error c =>
    if c.isRequest then .ended c.exitCode ⟨c.lines.map .text, [], files⟩
    else .ended c.exitCode ⟨[], c.lines, files⟩
  | .ok (.run directory _ _) => run now ids directory vars files
  | .ok (.inspect path verbose) => inspect path verbose files

/-- The paths that settings name, and those of the log files. -/
def settingsPaths (now : Moment) (s : Settings) : List String :=
  s.buffer.wal.toList ++ s.bus.fallbackLog.toList ++ s.logging.directory.toList.flatMap fun d =>
    [d, Path.below d Logging.probeName, Logging.dayFile now d]

/-- The paths that the program may read or write, as far as the files tell. -/
def paths (now : Moment) (arguments : List String) (vars : List (String × String))
    (files : Files) : List String :=
  match CommandLine.Invocation.read arguments with
  | .error _ => []
  | .ok (.inspect path _) => [path]
  | .ok (.run directory _ _) =>
    let sources := Settings.commonFiles directory ++ Settings.ownFiles directory vars
    match Settings.load files directory vars with
    | .error _ => sources
    | .ok s => sources ++ settingsPaths now s ++ Database.Passwords.paths vars

end Program

/-- What the program writes when it is interrupted; it succeeds. -/
def Running.interrupt (r : Running) : Written :=
  let out := r.out.record [Program.record .info "Received Ctrl+C, shutting down..." []]
  let out := out.onBus Bus.stop
  let stopped := out.bus?.toList.map fun b => ControlPlane.stoppedRecord b.stats
  let out := out.record stopped
  let out := out.record
    [Program.record .info "Shutdown complete" [Program.modeField r.plane.service.mode]]
  ⟨r.logging.write out.log, [], out.files⟩

end Failsafe
