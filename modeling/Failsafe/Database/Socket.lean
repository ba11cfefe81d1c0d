import Failsafe.Files
/-
  Sockets in the file system, and why none can be opened.

  The socket of a server is a file in a directory, named for the server's port. There is no
  server, so that there is never such a file; what is wrong depends on how far its path leads.
-/

namespace Failsafe.Database

/-- Why a socket cannot be opened. -/
inductive SocketError where
  /-- the path holds a character that no name can hold -/
  | unnameable
  | tooLong
  | file (e : FileError)
deriving DecidableEq, Repr

namespace SocketError

/-- The diagnostic form of an error. -/
def diagnostic : SocketError → String
  | unnameable => invalid "paths must not contain interior null bytes"
  | tooLong => invalid "path must be shorter than SUN_LEN"
  | file e => e.diagnostic
where
  /-- The diagnostic form of an error that needs no file system. -/
  invalid (message : String) : String :=
    "Error \x7b kind: InvalidInput, message: " ++ Text.quoted message ++ " \x7d"

end SocketError

namespace Socket

/-- How many bytes the path of a socket may have. -/
def longestPath : Nat := 107

/-- The path of the socket in a directory. -/
def path (directory : String) (port : Nat) : String :=
  directory ++ "/.s.PGSQL." ++ toString port

/-- Directories that there are everywhere, and files in them. -/
def commonPlaces : List (Place × List String) :=
  [(["/", "bin"], ["bash", "cat", "ls", "sh"]),
    (["/", "dev"],
      ["full", "null", "ptmx", "random", "stderr", "stdin", "stdout", "tty", "urandom", "zero"]),
    (["/", "etc"],
      ["group", "host.conf", "hostname", "hosts", "nsswitch.conf", "os-release", "passwd",
        "profile", "resolv.conf", "shadow", "shells"]),
    (["/", "proc"],
      ["cmdline", "cpuinfo", "filesystems", "loadavg", "meminfo", "mounts", "stat", "uptime",
        "version"]),
    (["/", "proc", "self"], ["cmdline", "environ", "exe", "maps", "stat", "status"]),
    (["/", "usr"], []), (["/", "usr", "bin"], ["bash", "cat", "env", "ls", "sh"])]

/-- More directories that there are everywhere. -/
def commonDirectories : List Place :=
  ["boot", "home", "lib", "media", "mnt", "opt", "root", "run", "sbin", "srv", "sys", "tmp",
    "var"].map fun name => ["/", name]

/-- What there is everywhere on the way to a socket. -/
def surroundings : Files :=
  ⟨(commonPlaces.flatMap fun (p, names) =>
      (p, .directory) :: names.map fun name => (p ++ [name], .file []))
    ++ commonDirectories.map fun p => (p, .directory)⟩

/-- Why the socket of a path cannot be opened. -/
def failure (path : String) : SocketError :=
  if path.contains '\x00' then .unnameable
  else if longestPath < path.utf8ByteSize then .tooLong
  else
    match surroundings.reach path with
    | .error e => .file e
    | .ok _ => .file .notFound

end Socket

end Failsafe.Database
