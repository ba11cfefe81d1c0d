import Failsafe.Program
import Std.Internal.UV.Signal
import Std.Time.DateTime
/-
  The program at the terminal.

  Everything that is decided is decided by `Program.launch` and `Running.interrupt`; here the
  environment and the files that they work on are fetched, and what they answer is written.
-/

namespace Failsafe.Terminal

/-- The system's number for the lack of a file because its place is a directory. -/
def directoryCode : UInt32 := 21

/-- What stands at a path of the file system, if it can be read. -/
def lookAt (path : String) : IO (Option Node) := do
  try
    let content ← IO.FS.readBinFile path
    pure (some (.file content.toList))
  catch e =>
    match e with
    | .inappropriateType _ code _ => pure (if code = directoryCode then some .directory else none)
    | _ => pure none

/-- The texts of the paths from the first step of a path to all of it. -/
def steps (path : String) : List String :=
  let names := path.splitOn "/"
  (List.range names.length).map fun n => String.intercalate "/" (names.take (n + 1))

/-- The part of the file system that some paths lead to or through. -/
def gather (paths : List String) : IO Files :=
  (paths.flatMap steps).foldlM (fun files path => do
    match files.reach path, ← lookAt path with
    | .ok p, some node => pure (files.put p node)
    | _, _ => pure files) .empty

/-- Makes the file system agree with `after` along some paths, where that differs from `before`. -/
def publish (before after : Files) (paths : List String) : IO Unit :=
  for path in (paths.flatMap steps).eraseDups do
    if let .ok p := after.reach path then
      if before.get? p ≠ after.get? p then
        match after.get? p with
        | some .directory => IO.FS.createDirAll path
        | some (.file content) => IO.FS.writeBinFile path content.toByteArray
        | none => IO.FS.removeFile path

/-- The time by both clocks. -/
def readClocks : IO Moment := do
  let steady ← IO.monoNanosNow
  let wall ← Std.Time.Timestamp.now
  pure ⟨steady, .afterEpoch wall.toNanosecondsSinceUnixEpoch.val.toNat⟩

/-- The name and the value of a variable of the environment. -/
def splitVariable (entry : List UInt8) : String × String :=
  let isEquals (b : UInt8) : Bool := b = 61
  let text (b : Bytes) : String := String.ofList (Bytes.decodeLossy b)
  (text (entry.takeWhile fun b => !isEquals b), text (entry.dropWhile fun b => !isEquals b).tail)

/-- The variables of the environment. -/
def readVariables : IO (List (String × String)) := do
  let content ← IO.FS.readBinFile "/proc/self/environ"
  let entries := content.toList.splitOn 0
  pure ((entries.filter fun e => !e.isEmpty).map splitVariable)

/-- Writes what the program has written. -/
def writeLines (w : Written) : IO Unit := do
  for line in w.errors do IO.eprintln line
  let now ← readClocks
  for line in w.output do IO.println (line.write now.wall)

/-- The number of the interrupt signal. -/
def interruptNumber : Int32 := 2

/-- Waits until the program is interrupted. -/
def awaitInterrupt : IO Unit := do
  let signal ← Std.Internal.UV.Signal.mk interruptNumber false
  let arrival ← signal.next
  let _ ← IO.wait arrival.result!

end Failsafe.Terminal

open Failsafe Failsafe.Terminal

/-- Runs the program; the answer is its exit code. -/
def main (arguments : List String) : IO UInt32 := do
  let vars ← readVariables
  let now ← readClocks
  let sources ← gather (Program.paths now arguments vars .empty)
  let paths := Program.paths now arguments vars sources
  let files ← gather paths
  match Program.launch now .counting arguments vars files with
  | .ended code w =>
    publish files w.files paths
    writeLines w
    pure code.toUInt32
  | .running r w =>
    publish files w.files paths
    writeLines w
    awaitInterrupt
    let last := r.interrupt
    publish w.files last.files paths
    writeLines last
    pure 0
