import Failsafe.Database.Host
/-
  URLs and what can be wrong with them.

  Blanks around a URL and line breaks in it do not count. On the web (`Kind.web`) the slashes
  after the scheme may be of either kind and of any number, and there has to be a host; a URL for
  a file has no user and no port; anything else has a host only after two slashes.
-/

namespace Failsafe.Database

/-- What is wrong with a URL. -/
inductive UrlError where
  /-- there is no scheme in front -/
  | relative
  | host (e : HostError)
  | badPort
deriving DecidableEq, Repr

/-- The parts of a URL that matter for a connection. All but the host and the port are as they are
written. -/
structure Url where
  host? : Option Host
  port? : Option Nat
  user : List Char
  password? : Option (List Char)
  query : List Char
deriving DecidableEq, Repr

namespace Url

/-- The kinds of schemes. -/
inductive Kind where
  | web
  | file
  | other
deriving DecidableEq, Repr

/-- The kind of a scheme. -/
def Kind.of (scheme : List Char) : Kind :=
  let name := String.ofList (scheme.map Char.toLower)
  if ["http", "https", "ws", "wss", "ftp"].contains name then .web
  else if name = "file" then .file
  else .other

/-- A slash; outside of other schemes a backslash is one too. -/
def Kind.isSlash (k : Kind) (c : Char) : Bool := c = '/' || (c = '\\' && k ≠ .other)

/-- The end of the part that names user, host and port. -/
def Kind.isEnd (k : Kind) (c : Char) : Bool := k.isSlash c || c = '?' || c = '#'

/-- The text that counts. -/
def significant (s : List Char) : List Char :=
  let isMargin (c : Char) : Bool := c ≤ ' '
  let front := s.dropWhile isMargin
  ((front.reverse.dropWhile isMargin).reverse).filter
    fun c => c ≠ '\t' && c ≠ '\n' && c ≠ '\r'

/-- The scheme in front of a colon, and the rest. -/
def readScheme? (s : List Char) : Option (List Char × List Char) :=
  let isPart (c : Char) : Bool := c.isAlphanum || c = '+' || c = '-' || c = '.'
  let scheme := s.takeWhile isPart
  match scheme.head?.any Char.isAlpha, s.dropWhile isPart with
  | true, ':' :: rest => some (scheme, rest)
  | _, _ => none

/-- The host in front of a text, up to a colon outside of brackets. -/
def splitHost : Bool → List Char → List Char × List Char
  | _, [] => ([], [])
  | inside, c :: rest =>
    if c = ':' ∧ !inside then ([], c :: rest)
    else
      let inside := if c = '[' then true else if c = ']' then false else inside
      let (host, after) := splitHost inside rest
      (c :: host, after)

/-- The port that a scheme has unless another one is named. -/
def standardPort? (scheme : List Char) : Option Nat :=
  match String.ofList (scheme.map Char.toLower) with
  | "http" | "ws" => some 80
  | "https" | "wss" => some 443
  | "ftp" => some 21
  | _ => none

/-- A port is a number of 16 bits, or nothing at all. A backslash may follow it. The standard port
counts as nothing. -/
def readPort (standard? : Option Nat) (s : List Char) : Except UrlError (Option Nat) :=
  let digits := s.takeWhile Char.isDigit
  let n := digits.foldl (fun n c => n * 10 + (c.toNat - '0'.toNat)) 0
  if Width.bound 16 ≤ n ∨ !(s.dropWhile Char.isDigit).head?.all (· = '\\') then .error .badPort
  else .ok (if digits.isEmpty ∨ standard? = some n then none else some n)

/-- The user and the password in front of the host; an empty password is none. -/
def readUser (s : List Char) : List Char × Option (List Char) :=
  match s.dropWhile (· ≠ ':') with
  | _ :: password =>
    (s.takeWhile (· ≠ ':'), if password.isEmpty then none else some password)
  | [] => (s, none)

/-- Reads the part between the slashes and the path; `after` is what follows it. -/
def readAuthority (k : Kind) (standard? : Option Nat) (s after query : List Char) :
    Except UrlError Url := do
  let backwards := s.reverse
  let address := (backwards.takeWhile (· ≠ '@')).reverse
  let front := (backwards.dropWhile (· ≠ '@')).tail.reverse
  let (user, password?) := readUser front
  let (host, port) := splitHost false address
  let bare := s = ['@'] ∧ !after.isEmpty
  if host.isEmpty ∧ (bare ∨ k = .web) then .error (.host .empty)
  else
    let found ← (Host.read (k = .web) host).mapError .host
    if host.isEmpty ∧ !port.isEmpty then .error (.host .empty)
    else
      let port? ← readPort standard? port.tail
      if host.isEmpty ∧ (!user.isEmpty ∨ password?.isSome) then .error (.host .empty)
      else .ok ⟨if host.isEmpty then none else some found, port?, user, password?, query⟩

/-- The letter of a drive. -/
def isDrive : List Char → Bool
  | [c, d] => c.isAlpha && (d = ':' || d = '|')
  | _ => false

/-- A URL without host, port and user. -/
def bare (query : List Char) : Url := ⟨none, none, [], none, query⟩

/-- Reads the host of a URL for a file; a drive is none, and neither is the machine itself. -/
def readFileHost (host query : List Char) : Except UrlError Url :=
  if host.isEmpty ∨ isDrive host then .ok (bare query)
  else
    match Host.read true host with
    | .error e => .error (.host e)
    | .ok (.domain "localhost") => .ok (bare query)
    | .ok found => .ok { bare query with host? := some found }

/-- Reads a URL. -/
def read (s : List Char) : Except UrlError Url :=
  match readScheme? (significant s) with
  | none => .error .relative
  | some (scheme, rest) =>
    let k := Kind.of scheme
    let query := ((rest.takeWhile (· ≠ '#')).dropWhile (· ≠ '?')).tail
    let authority (t : List Char) : Except UrlError Url :=
      readAuthority k (standardPort? scheme) (t.takeWhile fun c => !k.isEnd c)
        (t.dropWhile fun c => !k.isEnd c) query
    match k, rest with
    | .web, _ => authority (rest.dropWhile k.isSlash)
    | .other, '/' :: '/' :: t => authority t
    | .file, a :: b :: t =>
      if k.isSlash a ∧ k.isSlash b then readFileHost (t.takeWhile fun c => !k.isEnd c) query
      else .ok (bare query)
    | _, _ => .ok (bare query)

/-! ## Queries -/

/-- A key or a value of the query; a plus sign stands for a blank. -/
def queryText (s : String) : String :=
  Percent.decodeLossy (s.toList.map fun c => if c = '+' then ' ' else c)

/-- The keys and values of a query. -/
def queryPairs (query : String) : List (String × String) :=
  ((query.splitOn "&").filter fun part => !part.isEmpty).map fun part =>
    match part.splitOn "=" with
    | key :: rest => (queryText key, queryText (String.intercalate "=" rest))
    | [] => ("", "")

end Url

end Failsafe.Database
