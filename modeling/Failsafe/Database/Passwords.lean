import Failsafe.Files
import Failsafe.Log
/-
  Files with passwords.

  Where an address has no password, it is looked for in the file that a variable of the
  environment names and in one of the user's home. A file that is missing is hardly worth
  mentioning; one that others than its owner may read, which holds of all files here, is passed
  over with a warning.
-/

namespace Failsafe.Database.Passwords

/-- The variables of the environment. -/
abbrev Variables := List (String × String)

/-- The value of a variable. -/
def Variables.value? (vars : Variables) (name : String) : Option String :=
  (vars.find? fun e => e.1 = name).map Prod.snd

/-- The home of a user for whom the environment names none. -/
def standardHome : String := "/root"

/-- The files in which a password is looked for. -/
def paths (vars : Variables) : List String :=
  let home := ((vars.value? "HOME").filter (· ≠ "")).getD standardHome
  (vars.value? "PGPASSFILE").toList ++ [Path.below home ".pgpass"]

/-- The kind of a node and what may be done with it, in octal digits. -/
def permissions : Node → String
  | .file _ => "100644"
  | .directory => "40755"

/-- What is logged about a file with passwords. -/
def look (files : Files) (path : String) : Log.Record :=
  let record (level : Log.Level) (message : String) (fields : List (String × Log.Field)) :
      Log.Record :=
    ⟨level, "sqlx_postgres::options::pgpass", message, ("path", .word path) :: fields⟩
  match files.lookUp path with
  | .ok node =>
    record .warn "Ignoring path. Permissions are not strict enough"
      [("permissions", .text (permissions node))]
  | .error .notFound => record .debug "`.pgpass` file not found" []
  | .error e => record .warn ("Failed to open `.pgpass` file: " ++ e.diagnostic) []

/-- What is logged while a password is looked for. -/
def search (vars : Variables) (files : Files) : List Log.Record :=
  (paths vars).map (look files)

end Failsafe.Database.Passwords
