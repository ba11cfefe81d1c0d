import Failsafe.Path
import Failsafe.Text.Quoted
import Failsafe.Text.Utf8
/-
  A tree of files and directories, and the operations that the library makes on it.

  A path is followed name by name (`Files.reach`): every name but the last has to lead to a
  directory, also where the next one leads back out of it. An operation that cannot be done
  names the cause. One that changes a single place then leaves the tree as it was; one that makes
  several directories in turn stops where it fails, and those it has made stay (`Attempt`).
-/

namespace Failsafe

/-- Why an operation on files cannot be done. -/
inductive FileError where
  | notFound
  | isDirectory
  | notDirectory
  | alreadyExists
  | nameTooLong
  /-- the path holds a character that no name can hold -/
  | unnameable
  /-- the bytes are not UTF-8 -/
  | notText
deriving DecidableEq, Repr

namespace FileError

/-- The name of an error's kind. -/
def kind : FileError → String
  | notFound => "NotFound"
  | isDirectory => "IsADirectory"
  | notDirectory => "NotADirectory"
  | alreadyExists => "AlreadyExists"
  | nameTooLong => "InvalidFilename"
  | unnameable => "InvalidInput"
  | notText => "InvalidData"

/-- The error's text without its number. -/
def text : FileError → String
  | notFound => "No such file or directory"
  | isDirectory => "Is a directory"
  | notDirectory => "Not a directory"
  | alreadyExists => "File exists"
  | nameTooLong => "File name too long"
  | unnameable => "file name contained an unexpected NUL byte"
  | notText => "stream did not contain valid UTF-8"

/-- The number of an error of the system. -/
def code? : FileError → Option Nat
  | notFound => some 2
  | isDirectory => some 21
  | notDirectory => some 20
  | alreadyExists => some 17
  | nameTooLong => some 36
  | unnameable | notText => none

/-- The error's text. -/
def message (e : FileError) : String :=
  match e.code? with
  | some n => e.text ++ " (os error " ++ toString n ++ ")"
  | none => e.text

/-- The diagnostic form of an error, which shows its parts. -/
def diagnostic (e : FileError) : String :=
  match e.code? with
  | some n => "Os \x7b code: " ++ toString n ++ ", kind: " ++ e.kind ++ ", message: "
      ++ Text.quoted e.text ++ " \x7d"
  | none => "Error \x7b kind: " ++ e.kind ++ ", message: " ++ Text.quoted e.text ++ " \x7d"

end FileError

/-- A place in the tree: the names that lead to it from where relative paths start. A slash comes
first if it is reached from the root, and two dots stand for the way out of the tree. -/
abbrev Place := List String

namespace Place

/-- The place where a path starts. -/
def start (path : String) : Place := if Path.isRooted path then ["/"] else []

/-- The place outside of the tree, or where relative paths start. -/
def isOutside (p : Place) : Bool := p.all fun name => name = ".."

/-- The place above. -/
def above (p : Place) : Place :=
  if p.isOutside then p ++ [".."] else if p = ["/"] then p else p.dropLast

end Place

/-- What stands at a place. -/
inductive Node where
  | file (content : Bytes)
  | directory
deriving DecidableEq, Repr

/-- A tree of files, as the list of what stands at each place. -/
structure Files where
  nodes : List (Place × Node)
deriving Repr, Inhabited

namespace Files

/-- No files at all. -/
def empty : Files := ⟨[]⟩

/-- What stands at a place; the places that lead out of the tree are directories. -/
def get? (files : Files) (p : Place) : Option Node :=
  if p.isOutside || p = ["/"] then some .directory
  else (files.nodes.find? fun entry => entry.1 = p).map Prod.snd

/-- Puts something at a place. -/
def put (files : Files) (p : Place) (node : Node) : Files :=
  if files.nodes.any fun entry => entry.1 = p then
    ⟨files.nodes.map fun entry => if entry.1 = p then (p, node) else entry⟩
  else ⟨files.nodes ++ [(p, node)]⟩

/-! ## Following paths -/

/-- How many bytes a name may have. -/
def longestName : Nat := 255

/-- How many bytes a path may have. -/
def longestPath : Nat := 4095

/-- Follows one name from a place, which has to be a directory. -/
def enter (files : Files) (p : Place) (name : String) : Except FileError Place :=
  match files.get? p with
  | none => .error .notFound
  | some (.file _) => .error .notDirectory
  | some .directory =>
    if name = "." then .ok p
    else if name = ".." then .ok p.above
    else if longestName < name.utf8ByteSize then .error .nameTooLong
    else .ok (p ++ [name])

/-- Follows some names in place of those that a path has. The empty path leads nowhere. -/
def follow (files : Files) (path : String) (names : List String) : Except FileError Place :=
  if '\x00' ∈ path.toList then .error .unnameable
  else if path.isEmpty then .error .notFound
  else if longestPath < path.utf8ByteSize then .error .nameTooLong
  else names.foldlM files.enter (Place.start path)

/-- The place to which a path leads; there need not be anything. -/
def reach (files : Files) (path : String) : Except FileError Place :=
  files.follow path (Path.names path)

/-- The place of the directory that holds what a path leads to. -/
def reachParent (files : Files) (path : String) : Except FileError Place :=
  files.follow path ((Path.names path).dropLast ++ ["."])

/-- What a path leads to. -/
def lookUp (files : Files) (path : String) : Except FileError Node := do
  let p ← files.reach path
  match files.get? p with
  | none => .error .notFound
  | some (.file content) =>
    if Path.isClosed path then .error .notDirectory else .ok (.file content)
  | some .directory => .ok .directory

/-- The path leads to a directory. -/
def isDirectory (files : Files) (path : String) : Bool :=
  match files.lookUp path with
  | .ok .directory => true
  | _ => false

/-! ## Contents -/

/-- The contents of a file. -/
def read (files : Files) (path : String) : Except FileError Bytes := do
  match ← files.lookUp path with
  | .file content => .ok content
  | .directory => .error .isDirectory

/-- Replaces the contents of a file, which is created if need be. The last name of a path that
ends with a slash is not looked at. -/
def write (files : Files) (path : String) (change : Bytes → Bytes) : Except FileError Files := do
  if Path.isClosed path then
    let _ ← files.reachParent path
    .error .isDirectory
  else
    let p ← files.reach path
    match files.get? p with
    | none => .ok (files.put p (.file (change [])))
    | some (.file content) => .ok (files.put p (.file (change content)))
    | some .directory => .error .isDirectory

/-- Appends to a file, which is created if need be. -/
def append (files : Files) (path : String) (more : Bytes) : Except FileError Files :=
  files.write path fun content => content ++ more

/-- Empties a file, which is created if need be. -/
def truncate (files : Files) (path : String) : Except FileError Files :=
  files.write path fun _ => []

/-! ## Directories -/

/-- Makes one directory where there is nothing yet. -/
def makeDirectory (files : Files) (path : String) : Except FileError Files := do
  let p ← files.reach path
  match files.get? p with
  | none => .ok (files.put p .directory)
  | some _ => .error .alreadyExists

/-- Makes one directory, unless the path leads to one. -/
def ensureDirectory (files : Files) (path : String) : Except FileError Files :=
  if files.isDirectory path then .ok files else files.makeDirectory path

/-- How an operation of several steps ended, with the tree as it is then. -/
inductive Attempt where
  | ok (files : Files)
  /-- a step could not be done; what had been done before stays -/
  | error (e : FileError) (files : Files)

namespace Attempt

/-- The tree as it is then. -/
def files : Attempt → Files
  | ok files => files
  | error _ files => files

/-- A step that is done as a whole or not at all. -/
def «of» (files : Files) : Except FileError Files → Attempt
  | .ok files => ok files
  | .error e => error e files

/-- Goes on unless a step could not be done. -/
def andThen (next : Files → Attempt) : Attempt → Attempt
  | ok files => next files
  | error e files => error e files

end Attempt

/-- Makes the first of some directories; where that is not possible because something above is
missing, it makes the next ones first. -/
def makeWithin (files : Files) : List String → Attempt
  | [] => .ok files
  | path :: outer =>
    match files.ensureDirectory path with
    | .error .notFound =>
      (files.makeWithin outer).andThen fun files => .of files (files.ensureDirectory path)
    | answer => .of files answer

/-- Makes a directory and those above it. -/
def makeDirectories (files : Files) (path : String) : Attempt :=
  if path.isEmpty then .ok files else files.makeWithin (path :: Path.above path)

/-- Makes the directory that is to hold a file. -/
def makeParent (files : Files) (path : String) : Attempt :=
  files.makeDirectories ((Path.above path).head?.getD "")

/-- Makes the directory that is to hold a file, then appends to it. -/
def appendMaking (files : Files) (path : String) (more : Bytes) : Attempt :=
  (files.makeParent path).andThen fun files => .of files (files.append path more)

/-- Takes away what a path leads to and all below it; the flag tells whether there was any. -/
def remove (files : Files) (path : String) : Files × Bool :=
  match files.reach path, files.lookUp path with
  | .ok p, .ok _ => (⟨files.nodes.filter fun entry => !p.isPrefixOf entry.1⟩, true)
  | _, _ => (files, false)

/-- The names in a directory. -/
def names (files : Files) (path : String) : List String :=
  match files.reach path with
  | .error _ => []
  | .ok p => files.nodes.filterMap fun entry =>
      if entry.1.length = p.length + 1 ∧ p.isPrefixOf entry.1 then entry.1.getLast? else none

end Files

end Failsafe
