import Failsafe.CommandLine.Complaint
import Failsafe.Text.Similarity
/-
  What the arguments of the program ask for.

  Arguments are read from left to right. An option waits for its value until the next argument
  that is no option; its value is looked at when the following option, or the end, is reached.
  The first thing that is wrong decides the complaint.
-/

namespace Failsafe.CommandLine

/-- What the program is asked to do. -/
inductive Invocation where
  | run (configDir : String) (recoveryPollMs flushIntervalMs : Nat)
  | inspect (path : String) (verbose : Bool)
deriving DecidableEq, Repr

/-- The options read so far. -/
structure Progress where
  /-- the options given, with their values -/
  given : List (Opt × String)
  /-- the option read last, if its value has not been looked at yet -/
  pending? : Option (Opt × Option String)
deriving DecidableEq, Repr

namespace Progress

/-- Nothing has been read. -/
def start : Progress := ⟨[], none⟩

/-- An option waits for its value. -/
def awaits (p : Progress) : Bool :=
  match p.pending? with
  | some (_, none) => true
  | _ => false

/-- The value given for an option. -/
def value? (p : Progress) (name : String) : Option String :=
  (p.given.find? fun g => g.1.name = name).map Prod.snd

/-- The options that have been used. An option that waits to be repeated no longer counts. -/
def used (p : Progress) : List Opt :=
  let settled := p.given.map Prod.fst
  match p.pending? with
  | some (o, some _) => if settled.contains o then settled.erase o else settled ++ [o]
  | _ => settled

/-- The greatest number that an option takes. -/
def greatest : Nat := Width.bound 64 - 1

/-- Gives an option a value. -/
def assign (c : Command) (o : Opt) (value : String) (p : Progress) : Except Complaint Progress :=
  if p.given.any fun g => g.1.name = o.name then .error (.repeated c o)
  else
    let done : Progress := ⟨p.given ++ [(o, value)], none⟩
    match o.role with
    | .path _ => if value.isEmpty then .error (.valueMissing c o) else .ok done
    | .number _ =>
      match Decimal.readNatural greatest value.toList with
      | .ok _ => .ok done
      | .error why => .error (.badNumber c o value why)
    | _ => .ok done

/-- Looks at the value of the option read last. -/
def settle (c : Command) (p : Progress) : Except Complaint Progress :=
  match p.pending? with
  | none => .ok p
  | some (o, none) => .error (.valueMissing c o)
  | some (o, some value) => assign c o value { p with pending? := none }

/-- Takes an option, with the value attached to it if there is one. -/
def take (c : Command) (o : Opt) (attached? : Option String) (p : Progress) :
    Except Complaint Progress := do
  let p ← p.settle c
  match o.role with
  | .help => .error (.helpAsked c)
  | .version => .error .versionAsked
  | .switch => p.assign c o "true"
  | .path _ | .number _ =>
    match attached? with
    | some value => p.assign c o value
    | none => .ok { p with pending? := some (o, none) }

/-- The argument is the value that the option read last waits for. -/
def supply (value : String) (p : Progress) : Progress :=
  match p.pending? with
  | some (o, none) => { p with pending? := some (o, some value) }
  | _ => p

end Progress

/-! ## Options -/

/-- The hint after an unknown option: one of the command's own that is similar, or else one of
the subcommand that comes soonest among the arguments left. -/
def tipFor (c : Command) (name : String) (left : List String) : Option Tip :=
  match (Text.similar name (c.options.map Opt.name)).getLast? with
  | some option => some (.similar option)
  | none =>
    let offers := c.subcommands.filterMap fun s =>
      match subcommand? s.1 with
      | none => none
      | some sub =>
        match (Text.similar name (sub.options.map Opt.name)).getLast? with
        | some option => if left.contains s.1 then some (left.idxOf s.1, s.1, option) else none
        | none => none
    (offers.foldl (fun (best : Option (Nat × String × String)) offer =>
      match best with
      | some b => if offer.1 < b.1 then some offer else some b
      | none => some offer) none).map fun offer => .elsewhere offer.2.1 offer.2.2

/-- Takes an option given by its name. -/
def takeNamed (c : Command) (name : String) (attached? : Option String) (left : List String)
    (p : Progress) : Except Complaint Progress :=
  match c.named? name with
  | none =>
    let tip := tipFor c name left
    let suggested := match tip with
      | some (.similar option) => (c.named? option).toList
      | _ => []
    .error (.unknownArgument c ("--" ++ name) tip (p.used ++ suggested))
  | some o =>
    match o.role.shown?, attached? with
    | none, some value => .error (.valueNotTaken c o value (p.given.map Prod.fst))
    | _, _ => p.take c o attached?

/-- Takes options given by their letters. What follows the letter of an option that takes a
value is its value. -/
def takeLetters (c : Command) (p : Progress) : List Char → Except Complaint Progress
  | [] => .ok p
  | letter :: rest =>
    match c.lettered? letter with
    | none => .error (.unknownArgument c ("-" ++ letter.toString) none [])
    | some o =>
      match o.role.shown?, rest with
      | none, _ =>
        match p.take c o none with
        | .error e => .error e
        | .ok p => takeLetters c p rest
      | some _, [] => p.take c o none
      | some _, '=' :: value => p.take c o (some (String.ofList value))
      | some _, value => p.take c o (some (String.ofList value))

/-! ## Arguments -/

/-- How an argument is written. -/
inductive Form where
  | word
  | dashes
  | named (name : String) (attached? : Option String)
  | letters (cs : List Char)
deriving DecidableEq, Repr

/-- The form of an argument. -/
def Form.of (a : String) : Form :=
  match a.toList with
  | ['-', '-'] => .dashes
  | '-' :: '-' :: rest =>
    let name := rest.takeWhile (· ≠ '=')
    match rest.dropWhile (· ≠ '=') with
    | _ :: value => .named (String.ofList name) (some (String.ofList value))
    | [] => .named (String.ofList name) none
  | '-' :: c :: rest => .letters (c :: rest)
  | _ => .word

/-- The complaint about a word that the command does not expect. -/
def unexpected (c : Command) (afterDashes : Bool) (word : String) : Complaint :=
  if c.subcommands.isEmpty then .unknownArgument c word none []
  else if afterDashes && c.subcommands.any fun s => s.1 = word then .needlessDashes c word
  else .unknownCommand c word (Text.similar word (c.subcommands.map Prod.fst))

/-- Reads the arguments of a command, up to the end or to the name of a subcommand. -/
def scan (c : Command) : Bool → Progress → List String →
    Except Complaint (Progress × Option (String × List String))
  | _, p, [] => .ok (p, none)
  | afterDashes, p, a :: rest =>
    if !afterDashes && !p.awaits && c.subcommands.any (fun s => s.1 = a) then
      .ok (p, some (a, rest))
    else if afterDashes then .error (unexpected c true a)
    else
      match Form.of a with
      | .dashes => scan c true p rest
      | .named name attached? =>
        match takeNamed c name attached? rest p with
        | .error e => .error e
        | .ok p => scan c false p rest
      | .letters cs =>
        match takeLetters c p cs with
        | .error e => .error e
        | .ok p => scan c false p rest
      | .word =>
        if p.awaits then scan c false (p.supply a) rest else .error (unexpected c false a)

/-- Reads the arguments of a command without subcommands. -/
def readOptions (c : Command) (args : List String) : Except Complaint Progress := do
  let (p, _) ← scan c false .start args
  let p ← p.settle c
  if c.required.all fun o => (p.value? o.name).isSome then .ok p
  else .error (.optionMissing c (p.given.map Prod.fst))

/-- The page that the command `help` prints. -/
def readHelp (c : Command) : List String → Complaint
  | [] => .helpAsked c
  | word :: rest =>
    match (if c.subcommands.any (fun s => s.1 = word) then subcommand? word else none) with
    | some sub => readHelp sub rest
    | none => .unknownCommand c word []

/-- The number given for an option, or its standard value. -/
def number (p : Progress) (name : String) (standard : Nat) : Nat :=
  match p.value? name with
  | some s => (Decimal.readNatural Progress.greatest s.toList).toOption.getD standard
  | none => standard

/-- Reads the arguments of the program, its own name left out. -/
def Invocation.read (args : List String) : Except Complaint Invocation := do
  match ← scan root false .start args with
  | (_, some ("help", rest)) => .error (readHelp root rest)
  | (_, some ("run", rest)) =>
    let p ← readOptions runCommand rest
    .ok (.run ((p.value? "config-dir").getD "config") (number p "recovery-poll-ms" 1000)
      (number p "flush-interval-ms" 5000))
  | (_, some (_, rest)) =>
    let p ← readOptions inspectCommand rest
    .ok (.inspect ((p.value? "path").getD "") (p.value? "verbose").isSome)
  | (_, none) => .error (.nothingAsked root)

end Failsafe.CommandLine
