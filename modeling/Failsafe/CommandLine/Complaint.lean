import Failsafe.CommandLine.Command
import Failsafe.Decimal.Whole
import Failsafe.Text.Terminal
/-
  Why arguments lead to no action: a help page or the version was asked for, or something is
  wrong with them.

  What was asked for is printed as output and counts as success; everything else is printed as
  an error (`Complaint.isRequest`).
-/

namespace Failsafe.CommandLine

/-- A hint after an unknown option. -/
inductive Tip where
  /-- an option with a similar name -/
  | similar (option : String)
  /-- a subcommand has such an option -/
  | elsewhere (command option : String)
deriving DecidableEq, Repr

/-- Why arguments lead to no action. -/
inductive Complaint where
  | helpAsked (c : Command)
  | versionAsked
  /-- no subcommand was given -/
  | nothingAsked (c : Command)
  | unknownArgument (c : Command) (written : String) (tip : Option Tip) (used : List Opt)
  /-- a value was attached to a switch -/
  | valueNotTaken (c : Command) (o : Opt) (value : String) (used : List Opt)
  | valueMissing (c : Command) (o : Opt)
  | repeated (c : Command) (o : Opt)
  | badNumber (c : Command) (o : Opt) (value : String) (why : Decimal.WholeError)
  | optionMissing (c : Command) (given : List Opt)
  | unknownCommand (c : Command) (word : String) (similar : List String)
  /-- a subcommand was given after two dashes -/
  | needlessDashes (c : Command) (word : String)
deriving DecidableEq, Repr

namespace Complaint

/-- What is printed was asked for. -/
def isRequest : Complaint → Bool
  | helpAsked _ | versionAsked => true
  | _ => false

/-- The exit code of the program. -/
def exitCode (c : Complaint) : Nat := if c.isRequest then 0 else 2

/-- A text between quotes. -/
def ticked (s : String) : String := "'" ++ s ++ "'"

/-- Something that was written, between quotes, as it is seen. -/
def cited (s : String) : String := ticked (Text.visible s)

/-- The lines of an error: what is wrong, hints, the usage and where to find help. -/
def report (c : Command) (wrong tips : List String) (usage? : Option String) : List String :=
  wrong
  ++ (if tips.isEmpty then [] else "" :: tips.map fun t => "  tip: " ++ t)
  ++ (match usage? with
    | some usage => ["", "Usage: " ++ usage]
    | none => [])
  ++ (if c.hasHelp then ["", "For more information, try '--help'."] else [])

/-- The hint as it is printed. -/
def tipText : Tip → String
  | .similar option => "a similar argument exists: " ++ ticked ("--" ++ option)
  | .elsewhere command option => ticked (command ++ " --" ++ option) ++ " exists"

/-- The hint about similar subcommands. -/
def similarCommands (names : List String) : List String :=
  match names with
  | [] => []
  | [name] => ["a similar subcommand exists: " ++ ticked name]
  | _ => ["some similar subcommands exist: " ++ String.intercalate ", " (names.map ticked)]

/-- The lines that are printed. -/
def lines : Complaint → List String
  | helpAsked c => c.helpPage
  | versionAsked => [versionLine]
  | nothingAsked c => c.helpPage
  | unknownArgument c written tip used =>
    report c ["error: unexpected argument " ++ cited written ++ " found"]
      (tip.toList.map tipText) (some (c.usageAfter used))
  | valueNotTaken c o value used =>
    report c ["error: unexpected value " ++ cited value ++ " for " ++ ticked o.shown
      ++ " found; no more were expected"] []
      (some (if used.isEmpty then c.usageRequired [o] else c.usageChoice o))
  | valueMissing c o =>
    report c ["error: a value is required for " ++ ticked o.shown ++ " but none was supplied"]
      [] none
  | repeated c o =>
    report c ["error: the argument " ++ ticked o.shown ++ " cannot be used multiple times"]
      [] (some c.usage)
  | badNumber c o value why =>
    report c ["error: invalid value " ++ cited value ++ " for " ++ ticked o.shown ++ ": "
      ++ why.message] [] none
  | optionMissing c given =>
    report c ("error: the following required arguments were not provided:"
      :: c.required.map fun o => "  " ++ o.shown) [] (some (c.usageRequired given))
  | unknownCommand c word similar =>
    report c ["error: unrecognized subcommand " ++ cited word] (similarCommands similar)
      (some c.usage)
  | needlessDashes c word =>
    report c ["error: unexpected argument " ++ ticked word ++ " found"]
      ["subcommand " ++ ticked word ++ " exists; to use it, remove the '--' before it"]
      (some c.usage)

end Complaint

end Failsafe.CommandLine
