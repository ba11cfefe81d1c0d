import Failsafe.Database.Passwords
import Failsafe.Database.Socket
import Failsafe.Database.Url
import Failsafe.Decimal.Whole
/-
  The address of a database, and why none can be reached under it.

  An address is a URL with parameters. What is wrong with it is found without asking anyone: the
  URL is looked at first, then the texts in it, then the parameters in order. What an address does
  not name, the environment does. An address with nothing wrong in it names a server, and there is
  no server.
-/

namespace Failsafe.Database

/-- What is wrong with an address. -/
inductive AddressError where
  | url (e : UrlError)
  /-- the host, the user or the password is no text -/
  | notText (e : Bytes.DecodeError)
  /-- a parameter that has to be a number -/
  | badNumber (e : Decimal.WholeError)
  /-- a parameter that has to be an IP address -/
  | badIp
  | unknownTlsMode (mode : String)
deriving DecidableEq, Repr

/-- Why a database cannot be used. -/
inductive ConnectError where
  | address (e : AddressError)
  /-- a socket that cannot be opened -/
  | socket (e : SocketError)
  | timedOut
deriving DecidableEq, Repr

/-- The name of the kind of a number that cannot be read. -/
def numberKind : Decimal.WholeError → String
  | .empty => "Empty"
  | .notDigit => "InvalidDigit"
  | .tooLarge => "PosOverflow"
  | .tooSmall => "NegOverflow"

/-- The name of the kind of an error in a URL. -/
def UrlError.kind : UrlError → String
  | relative => "RelativeUrlWithoutBase"
  | host .empty => "EmptyHost"
  | host .badBrackets => "InvalidIpv6Address"
  | host .badCharacter => "InvalidDomainCharacter"
  | host .badDomain => "IdnaError"
  | host .badIpv4 => "InvalidIpv4Address"
  | badPort => "InvalidPort"

/-- The diagnostic form of a length that may be unknown. -/
def lengthText : Option Nat → String
  | none => "None"
  | some n => "Some(" ++ toString n ++ ")"

/-- The diagnostic form of an error in an address. -/
def AddressError.diagnostic : AddressError → String
  | url e => e.kind
  | notText e => "Utf8Error \x7b valid_up_to: " ++ toString e.validUpTo ++ ", error_len: "
      ++ lengthText e.length? ++ " \x7d"
  | badNumber e => "ParseIntError \x7b kind: " ++ numberKind e ++ " \x7d"
  | badIp => "AddrParseError(Ip)"
  | unknownTlsMode mode => "Configuration("
      ++ Text.quoted ("unknown value " ++ Text.quoted mode ++ " for `ssl_mode`") ++ ")"

/-- The diagnostic form of an error. -/
def ConnectError.diagnostic : ConnectError → String
  | address e => "Configuration(" ++ e.diagnostic ++ ")"
  | socket e => "Io(" ++ e.diagnostic ++ ")"
  | timedOut => "PoolTimedOut"

/-! ## Parameters -/

/-- The ways in which a connection may be encrypted. -/
def tlsModes : List String :=
  ["disable", "allow", "prefer", "require", "verify-ca", "verify-full"]

/-- The parameters whose values are taken as they are. -/
def plainParameters : List String :=
  ["sslrootcert", "ssl-root-cert", "ssl-ca", "sslcert", "ssl-cert", "sslkey", "ssl-key", "dbname",
    "user", "password", "application_name", "options"]

/-- What a connection goes to. -/
structure Target where
  /-- the directory of a socket; nothing makes a connection leave it again -/
  socket? : Option String
  /-- the directory of the socket that is used as long as no host is named -/
  standard? : Option String
  port : Nat
  /-- a password has been given -/
  hasPassword : Bool
deriving DecidableEq, Repr

namespace Target

/-- The target after a host has been named. -/
def named (t : Target) : Target := { t with standard? := none }

/-- The target after a host has been named that may be a directory. -/
def toward (t : Target) (host : String) : Target :=
  if host.startsWith "/" then { t with socket? := some host } else t.named

/-- The port of a server unless another one is named. -/
def standardPort : Nat := 5432

/-- The greatest port. -/
def greatestPort : Nat := Width.bound 16 - 1

/-- The target that the environment names. -/
def ofEnvironment (vars : Passwords.Variables) : Target :=
  let host? := (vars.value? "PGHOSTADDR").or (vars.value? "PGHOST")
  let port? := (vars.value? "PGPORT").bind fun s =>
    (Decimal.readNatural greatestPort s.toList).toOption
  { socket? := none
    standard? := host?.filter (·.startsWith "/")
    port := port?.getD standardPort
    hasPassword := (vars.value? "PGPASSWORD").isSome }

/-- The path of the socket to which the connection goes, if it goes to one. -/
def path? (t : Target) : Option String :=
  (t.socket?.or t.standard?).map fun directory => Socket.path directory t.port

end Target

/-- A parameter that has to be a number of at most `limit`. -/
def readNumber (limit : Nat) (value : String) : Except AddressError Nat :=
  (Decimal.readNatural limit value.toList).mapError .badNumber

/-- Takes up a parameter. -/
def readParameter (t : Target) (key value : String) : Except AddressError Target :=
  if key = "sslmode" ∨ key = "ssl-mode" then
    if tlsModes.contains (String.ofList (value.toList.map Char.toLower)) then .ok t
    else .error (.unknownTlsMode value)
  else if key = "statement-cache-capacity" then
    (readNumber (Width.bound 64 - 1) value).map fun _ => t
  else if key = "port" then
    (readNumber Target.greatestPort value).map fun port => { t with port }
  else if key = "host" then .ok (t.toward value)
  else if key = "hostaddr" then
    if isIpv4 value || isIpv6 value then .ok t.named else .error .badIp
  else if key = "password" then .ok { t with hasPassword := true }
  else .ok t

/-- A parameter is known by its name. -/
def isKnown (key : String) : Bool :=
  plainParameters.contains key || key.startsWith "options["
    || ["sslmode", "ssl-mode", "statement-cache-capacity", "port", "host", "hostaddr"].contains key

/-- What is logged about a parameter that is not known. -/
def unknownRecord (key value : String) : Log.Record :=
  ⟨.warn, "sqlx_postgres::options::parse", "ignoring unrecognized connect parameter",
    [("key", .word key), ("value", .word value)]⟩

/-- Takes up parameters in order, and logs those that are not known. -/
def readParameters (t : Target) :
    List (String × String) → Except AddressError Target × List Log.Record
  | [] => (.ok t, [])
  | (key, value) :: rest =>
    match readParameter t key value with
    | .error e => (.error e, [])
    | .ok t =>
      let (answer, logged) := readParameters t rest
      (answer, if isKnown key then logged else unknownRecord key value :: logged)

/-! ## Connecting -/

/-- A part of a URL that has to be a text. -/
def readText (s : List Char) : Except AddressError (List Char) :=
  (Percent.decode s).mapError .notText

/-- The target after the host of a URL. -/
def readHost (t : Target) : Option Host → Except AddressError Target
  | none => .ok t
  | some (.named text) =>
    if (Percent.bytes text).head? = some 47 then
      (readText text).map fun cs => t.toward (String.ofList cs)
    else .ok t.named
  | some _ => .ok t.named

/-- The target after the parts of a URL. -/
def readUrl (t : Target) (u : Url) : Except AddressError Target := do
  let t ← readHost t u.host?
  let _ ← readText u.user
  let _ ← readText (u.password?.getD [])
  .ok { t with port := u.port?.getD t.port, hasPassword := t.hasPassword || u.password?.isSome }

/-- What an address names. -/
def read (vars : Passwords.Variables) (address : String) :
    Except AddressError Target × List Log.Record :=
  match Url.read address.toList with
  | .error e => (.error (.url e), [])
  | .ok u =>
    match readUrl (.ofEnvironment vars) u with
    | .error e => (.error e, [])
    | .ok t => readParameters t (Url.queryPairs (String.ofList u.query))

/-- Why the database under an address cannot be used, and what is logged meanwhile. -/
def connect (vars : Passwords.Variables) (files : Files) (address : String) :
    ConnectError × List Log.Record :=
  match read vars address with
  | (.error e, logged) => (.address e, logged)
  | (.ok t, logged) =>
    let searched := if t.hasPassword then [] else Passwords.search vars files
    (match t.path? with
      | some path => .socket (Socket.failure path)
      | none => .timedOut, logged ++ searched)

end Failsafe.Database
