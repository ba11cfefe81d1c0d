import Failsafe.Decimal.Whole
import Failsafe.Files
import Failsafe.Json.Plain
import Failsafe.Settings.Tree
import Failsafe.Toml.Document
/-
  The layers of the settings: standard values, two files and the environment.

  A later layer is written over the earlier ones. The first file is common to all environments,
  the second belongs to the one that is named. A file that is missing or is no text is left out; one
  that is no valid text of its format is a `LoadError`.
-/

namespace Failsafe.Settings

/-- Why settings cannot be loaded. -/
inductive LoadError where
  /-- a file is no valid text of its format; the lines of the report -/
  | malformed (report : List String) (file : String)
  /-- a value is not of the expected type -/
  | mistyped (found expected : String) (key? : Option String) (origin? : Option Origin)
  | message (text : String)
deriving DecidableEq, Repr

namespace LoadError

/-- The text about a value that is not of the expected type. -/
def mistypedText (found expected : String) (key? : Option String) (origin? : Option Origin) :
    String :=
  "invalid type: " ++ found ++ ", expected " ++ expected
    ++ (key?.elim "" fun k => " for key `" ++ k ++ "`")
    ++ (origin?.elim "" fun o => " in " ++ o.text)

/-- The lines of the text of an error. -/
def lines : LoadError → List String
  | malformed report file =>
    report.dropLast ++ [report.getLast?.getD "" ++ " in " ++ file]
  | mistyped found expected key? origin? => [mistypedText found expected key? origin?]
  | message text => [text]

/-- The error, below one more step of a key. -/
def below (step : String) (isItem : Bool) : LoadError → LoadError
  | mistyped found expected key? origin? =>
    let key := key?.getD ""
    let dot := if !isItem && !key.isEmpty && !key.startsWith "[" then "." else ""
    mistyped found expected (some (step ++ dot ++ key)) origin?
  | e => e

end LoadError

/-! ## Files -/

mutual

/-- A TOML value in a file. -/
def ofToml (o : Origin) : Toml.Value → Tree
  | .text s => .scalar (some o) (.text s)
  | .integer n => .scalar (some o) (.integer n)
  | .float bits => .scalar (some o) (.float bits)
  | .bool b => .scalar (some o) (.bool b)
  | .moment s => .scalar (some o) (.text s)
  | .keyed v _ => ofToml o v
  | .list items => .list (some o) (ofTomlItems o items)
  | .table entries => .table (some o) (ofTomlEntries o entries)

/-- The items of a TOML list. -/
def ofTomlItems (o : Origin) : List Toml.Value → List Tree
  | [] => []
  | v :: rest => ofToml o v :: ofTomlItems o rest

/-- The entries of a TOML table. -/
def ofTomlEntries (o : Origin) : List (String × Toml.Value) → List (String × Tree)
  | [] => []
  | (k, v) :: rest => (k, ofToml o v) :: ofTomlEntries o rest

end

/-- A JSON number; an integer beyond 64 bits with a sign becomes a float. -/
def ofJsonNumber : Json.Number → Scalar
  | .float bits => .float bits
  | .int n => if n < Width.bound 63 then .integer n else .float (Float.ofNat n.toNat).toBits

mutual

/-- A JSON value in a file. -/
def ofJson (o : Origin) : Json.Value → Tree
  | .null => .scalar (some o) .empty
  | .bool b => .scalar (some o) (.bool b)
  | .num n => .scalar (some o) (ofJsonNumber n)
  | .str s => .scalar (some o) (.text s)
  | .arr items => .list (some o) (ofJsonItems o items)
  | .obj members => .table (some o) (ofJsonMembers o members)

/-- The items of a JSON array. -/
def ofJsonItems (o : Origin) : List Json.Value → List Tree
  | [] => []
  | v :: rest => ofJson o v :: ofJsonItems o rest

/-- The members of a JSON object. -/
def ofJsonMembers (o : Origin) : List (String × Json.Value) → List (String × Tree)
  | [] => []
  | (k, v) :: rest => (k, ofJson o v) :: ofJsonMembers o rest

end

/-- What a value of the wrong type is. -/
def Tree.found : Tree → String
  | .scalar _ .empty => "unit value"
  | .scalar _ (.bool b) => "boolean `" ++ (if b then "true" else "false") ++ "`"
  | .scalar _ (.integer n) => "64-bit integer `" ++ String.ofList (Decimal.integer n) ++ "`"
  | .scalar _ (.float bits) =>
    "floating point `" ++ String.ofList (Decimal.write (.positional false) bits) ++ "`"
  | .scalar _ (.text s) => "string " ++ Text.quoted s
  | .list _ _ => "sequence"
  | .table _ _ => "map"

/-- The entries of a file, whose value has to be a table. -/
def entriesOf (file : String) : Tree → Except LoadError (List (String × Tree))
  | .table _ entries => .ok entries
  | t => .error (.malformed
      [LoadError.mistypedText t.found "a map" none (some (.file file))] file)

/-- The entries that a file holds as a TOML text. -/
def readToml (file : String) (text : List Char) : Except LoadError (List (String × Tree)) :=
  match Toml.Document.read text with
  | .ok v => entriesOf file (ofToml (.file file) v)
  | .error f => .error (.malformed (f.report text ++ [""]) file)

/-- The entries that a file holds as a JSON text, which has to be an object. -/
def readJson (file : String) (text : List Char) : Except LoadError (List (String × Tree)) :=
  match Json.readAll (Json.readValue Json.nestingLimit) text with
  | .error f => .error (.malformed [f.report text] file)
  | .ok v => entriesOf file (ofJson (.file file) v)

/-- The entries of a text by the ending of its file's name; without a known ending it is left
out. -/
def readText (path : String) (text : List Char) : Except LoadError (List (String × Tree)) :=
  match Path.ending? path with
  | some "toml" => readToml (Path.shown path) text
  | some "json" => readJson (Path.shown path) text
  | _ => .ok []

/-- The entries of the first file among some; there may be none. One that is not UTF-8 is left
out. -/
def readFirst (files : Files) (paths : List String) : Except LoadError (List (String × Tree)) :=
  match paths.findSome? fun p => (files.read p).toOption.map fun content => (p, content) with
  | none => .ok []
  | some (p, content) =>
    match Bytes.decode? content with
    | none => .ok []
    | some text => readText p text

/-! ## The environment -/

/-- What a variable has to begin with to be a setting. -/
def variableMark : String := "sentinel_"

/-- The value of a variable: a truth value, a number or a text. -/
def ofVariable (value : String) : Scalar :=
  let s := value.toList
  if Text.lower value = "true" then .bool true
  else if Text.lower value = "false" then .bool false
  else
    match Decimal.readInteger (Width.bound 63 - 1) s with
    | .ok n => .integer n
    | .error _ =>
      match Decimal.float? s with
      | some f => .float f.toBits
      | none => .text value

/-- The setting that a variable holds, if its name begins as it has to. -/
def ofEnvironment? (entry : String × String) : Option (String × Tree) :=
  let name := (Text.lower entry.1).toList
  if variableMark.toList.isPrefixOf name then
    let rest := String.ofList (name.drop variableMark.length)
    some (String.intercalate "." (rest.splitOn "__"),
      .scalar (some .environment) (ofVariable entry.2))
  else none

/-! ## All layers -/

/-- The standard values that are part of the tree; all others belong to the sections. -/
def firstLayer : List (String × Tree) :=
  [("logging.level", .scalar none (.text "info")), ("logging.json", .scalar none (.bool false)),
    ("database.max_connections", .scalar none (.integer 5)),
    ("recovery.ready_stable_secs", .scalar none (.integer 30))]

/-- The environment whose file is read. -/
def environmentName (vars : List (String × String)) : String :=
  ((vars.find? fun e => e.1 = "SENTINEL_ENV").map Prod.snd).getD "development"

/-- The places of a file: the very path, and those with an ending added. -/
def candidates (path : String) : List String :=
  path :: ["toml", "json"].filterMap fun ending => Path.withEnding? ending path

/-- The places of the file that is common to all environments. -/
def commonFiles (directory : String) : List String :=
  candidates (Path.below directory "default.toml")

/-- The places of the file that belongs to the environment. -/
def ownFiles (directory : String) (vars : List (String × String)) : List String :=
  candidates (Path.below directory (environmentName vars))

/-- All layers, written over each other. -/
def layers (files : Files) (directory : String) (vars : List (String × String)) :
    Except LoadError Tree := do
  let common ← readFirst files (commonFiles directory)
  let own ← readFirst files (ownFiles directory vars)
  .ok ((((Tree.empty.putAll firstLayer).putAll common).putAll own).putAll
    (vars.filterMap ofEnvironment?))

end Failsafe.Settings
