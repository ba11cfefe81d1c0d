/-
  The commands of the program, their options and their help pages.

  A help page has the purpose of the command, its usage, and one entry for each subcommand,
  operand and option. The entries stand beside their names, or below them when one is too wide
  for that.
-/

namespace Failsafe.CommandLine

/-- What an option is for. -/
inductive Role where
  /-- it is given or not -/
  | switch
  /-- it takes a path, shown by this word -/
  | path (shown : String)
  /-- it takes a number, shown by this word -/
  | number (shown : String)
  /-- it asks for the help page -/
  | help
  /-- it asks for the version -/
  | version
deriving DecidableEq, Repr

/-- The word that stands for what an option takes. -/
def Role.shown? : Role → Option String
  | path shown => some shown
  | number shown => some shown
  | _ => none

/-- An option of a command. -/
structure Opt where
  name : String
  letter? : Option Char
  role : Role
  about : String
  /-- the value that it has when it is not given -/
  standard? : Option String
  /-- it has to be given -/
  required : Bool
deriving DecidableEq, Repr

namespace Opt

/-- The option as it is written, with what it takes. -/
def shown (o : Opt) : String :=
  match o.role.shown? with
  | some word => "--" ++ o.name ++ " <" ++ word ++ ">"
  | none => "--" ++ o.name

/-- The option is one of the command's own, rather than a request for help or the version. -/
def isOwn (o : Opt) : Bool :=
  match o.role with
  | .help | .version => false
  | _ => true

/-- What the help page says about the option. -/
def entry (o : Opt) : String :=
  match o.standard? with
  | some value => o.about ++ " [default: " ++ value ++ "]"
  | none => o.about

/-- The option with its letter, as the help page names it. -/
def head (o : Opt) : String :=
  match o.letter? with
  | some c => "-" ++ c.toString ++ ", " ++ o.shown
  | none => "    " ++ o.shown

end Opt

/-- A command. -/
structure Command where
  /-- the words by which it is called -/
  name : String
  about : String
  /-- the names of its subcommands and what they are for -/
  subcommands : List (String × String)
  /-- the operands that it takes and what they are -/
  operands? : Option (String × String)
  options : List Opt
deriving DecidableEq, Repr

namespace Command

/-- The options that have to be given. -/
def required (c : Command) : List Opt := c.options.filter Opt.required

/-- The options of the command's own. -/
def own (c : Command) : List Opt := c.options.filter Opt.isOwn

/-- The option with a name. -/
def named? (c : Command) (name : String) : Option Opt := c.options.find? fun o => o.name = name

/-- The option with a letter. -/
def lettered? (c : Command) (letter : Char) : Option Opt :=
  c.options.find? fun o => o.letter? = some letter

/-- The command has a help option. -/
def hasHelp (c : Command) : Bool := c.options.any fun o => o.role = .help

/-- The usage of the command with some parts between its name and its subcommand. -/
def usageWith (c : Command) (parts : List String) : String :=
  String.intercalate " " (c.name :: parts
    ++ c.operands?.toList.map Prod.fst ++ if c.subcommands.isEmpty then [] else ["<COMMAND>"])

/-- The usage of the command. -/
def usage (c : Command) : String :=
  let optional := if c.own.any fun o => !o.required then ["[OPTIONS]"] else []
  c.usageWith (optional ++ c.required.map Opt.shown)

/-- The usage of the command with what it requires and the options that have been used. -/
def usageRequired (c : Command) (used : List Opt) : String :=
  c.usageWith ((c.required ++ used).map Opt.shown).eraseDups

/-- The usage of the command for someone who has used some of its options. -/
def usageAfter (c : Command) (used : List Opt) : String :=
  if used.isEmpty then c.usage else c.usageRequired used

/-- The usage of the command with a choice between its own options, after an option that may not
be one of them. -/
def usageChoice (c : Command) (o : Opt) : String :=
  c.usageWith ((if o.isOwn then [] else [o.shown])
    ++ ["<" ++ String.intercalate "|" (c.own.map Opt.shown) ++ ">"])

/-! ## Help pages -/

/-- How many columns a line of a help page has. -/
def columns : Nat := 100

/-- A name with blanks after it, up to a width. -/
def aligned (width : Nat) (s : String) : String :=
  s ++ String.ofList (List.replicate (width - s.length) ' ')

/-- The greatest length of some texts. -/
def widest (l : List String) : Nat := l.foldl (fun n s => max n s.length) 0

/-- The entries of the section on options. -/
def optionLines (c : Command) : List String :=
  let width := widest (c.options.map Opt.shown)
  let taken := width + 8
  let crowded := c.options.any fun o =>
    decide (columns * 2 < taken * 5) && decide (columns - taken < o.entry.length)
  if crowded then
    c.options.flatMap fun o => ["  " ++ o.head, "          " ++ o.entry]
  else c.options.map fun o => "  " ++ aligned (width + 4) o.head ++ "  " ++ o.entry

/-- A section of the help page, if there is anything in it. -/
def section? (title : String) (entries : List String) : List String :=
  if entries.isEmpty then [] else "" :: title :: entries

/-- The lines of the help page. -/
def helpPage (c : Command) : List String :=
  let width := widest (c.subcommands.map Prod.fst)
  [c.about, "", "Usage: " ++ c.usage]
  ++ section? "Commands:"
    (c.subcommands.map fun s => "  " ++ aligned width s.1 ++ "  " ++ s.2)
  ++ section? "Arguments:" (c.operands?.toList.map fun o => "  " ++ o.1 ++ "  " ++ o.2)
  ++ section? "Options:" c.optionLines

end Command

/-! ## The commands of the program -/

/-- The option that asks for the help page. -/
def helpOption : Opt := ⟨"help", some 'h', .help, "Print help", none, false⟩

/-- What the command `help` is for. -/
def helpAbout : String := "Print this message or the help of the given subcommand(s)"

/-- The program as a whole. -/
def root : Command :=
  { name := "ploy-sentinel"
    about := "Degradation and recovery control plane"
    subcommands :=
      [("run", "Run the control plane until Ctrl-C"),
        ("inspect-wal", "Replay a write-buffer WAL offline and print what it holds"),
        ("help", helpAbout)]
    operands? := none
    options := [helpOption, ⟨"version", some 'V', .version, "Print version", none, false⟩] }

/-- The line that tells the version. -/
def versionLine : String := "ploy-sentinel 0.1.0"

/-- The command that runs the control plane. -/
def runCommand : Command :=
  { name := "ploy-sentinel run"
    about := "Run the control plane until Ctrl-C"
    subcommands := []
    operands? := none
    options :=
      [⟨"config-dir", some 'c', .path "CONFIG_DIR",
          "Directory holding default.toml and <SENTINEL_ENV>.toml", some "config", false⟩,
        ⟨"recovery-poll-ms", none, .number "RECOVERY_POLL_MS",
          "How often to try advancing an active recovery run (ms)", some "1000", false⟩,
        ⟨"flush-interval-ms", none, .number "FLUSH_INTERVAL_MS",
          "How often to flush the write buffer when a database is configured (ms)",
          some "5000", false⟩,
        helpOption] }

/-- The command that reports on a write-ahead log. -/
def inspectCommand : Command :=
  { name := "ploy-sentinel inspect-wal"
    about := "Replay a write-buffer WAL offline and print what it holds"
    subcommands := []
    operands? := none
    options :=
      [⟨"path", some 'p', .path "PATH", "WAL file", none, true⟩,
        ⟨"verbose", some 'v', .switch, "Print every deduplicated entry", none, false⟩,
        helpOption] }

/-- The command that prints help pages. -/
def helpCommand : Command :=
  { name := "ploy-sentinel help"
    about := helpAbout
    subcommands := []
    operands? := some ("[COMMAND]...", "Print help for the subcommand(s)")
    options := [] }

/-- The subcommand with a name. -/
def subcommand? : String → Option Command
  | "run" => some runCommand
  | "inspect-wal" => some inspectCommand
  | "help" => some helpCommand
  | _ => none

end Failsafe.CommandLine
