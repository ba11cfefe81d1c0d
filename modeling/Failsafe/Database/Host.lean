import Failsafe.Database.Domain
import Failsafe.Database.Percent
import Failsafe.Width
/-
  Hosts: IP addresses and domain names.

  A host between brackets is an IPv6 address. On the web any other host is a domain name, and one
  that ends in a number an IPv4 address; elsewhere it is a name of any kind.
-/

namespace Failsafe.Database

/-! ## IP addresses -/

/-- A number from 0 to 255 without needless zeros. -/
def isOctet (s : String) : Bool :=
  let ds := s.toList
  ds.all Char.isDigit && !ds.isEmpty && ds.length ≤ 3 && (ds.length = 1 || ds.head? ≠ some '0')
    && ds.foldl (fun n c => n * 10 + (c.toNat - '0'.toNat)) 0 ≤ 255

/-- Four octets with dots between them. -/
def isIpv4 (s : String) : Bool :=
  let parts := s.splitOn "."
  parts.length = 4 && parts.all isOctet

/-- A group of one to four hexadecimal digits. -/
def isGroup (s : String) : Bool :=
  let isHex (c : Char) : Bool := c.isDigit || ('a' ≤ c && c ≤ 'f') || ('A' ≤ c && c ≤ 'F')
  s.toList.all isHex && !s.isEmpty && s.length ≤ 4

/-- How many groups a text of groups with colons between them has, if it is well-formed; four
octets may stand for the last two. -/
def groups? (s : String) (octets : Bool) : Option Nat :=
  if s.isEmpty then some 0
  else
    let parts := s.splitOn ":"
    let last := parts.getLast?.getD ""
    if parts.dropLast.all isGroup then
      if isGroup last then some parts.length
      else if octets && isIpv4 last then some (parts.length + 1)
      else none
    else none

/-- Eight groups, or fewer with one gap. -/
def isIpv6 (s : String) : Bool :=
  match s.splitOn "::" with
  | [whole] => groups? whole true = some 8
  | [before, after] =>
    match groups? before false, groups? after true with
    | some n, some m => n + m ≤ 7
    | _, _ => false
  | _ => false

/-! ## IPv4 addresses by other numbers -/

/-- A number of an IPv4 address, which is decimal unless a zero or `0x` makes it octal or
hexadecimal. -/
def readPart? (s : String) : Option Nat :=
  let number (base : Nat) (ds : List Char) : Option Nat :=
    (ds.mapM fun c => (Percent.hexDigit? c).filter (· < base)).map
      fun l => l.foldl (fun n d => n * base + d) 0
  match s.toList with
  | [] => none
  | '0' :: 'x' :: ds => number 16 ds
  | '0' :: 'X' :: ds => number 16 ds
  | '0' :: c :: ds => number 8 (c :: ds)
  | ds => number 10 ds

/-- The parts of a domain name, without an empty one at its end. -/
def domainParts (domain : String) : List String :=
  let parts := domain.splitOn "."
  if parts.getLast? = some "" then parts.dropLast else parts

/-- A domain name that ends in a number. -/
def endsInNumber (domain : String) : Bool :=
  match (domainParts domain).getLast? with
  | none => false
  | some last =>
    (!last.isEmpty && last.toList.all Char.isDigit) || (readPart? last).isSome

/-- At most four numbers, each of a byte but for the last, which fills the rest of 32 bits. -/
def isNumericIpv4 (domain : String) : Bool :=
  match (domainParts domain).mapM readPart? with
  | none => false
  | some l =>
    l.length ≤ 4 && l.dropLast.all (· ≤ 255)
      && l.getLast?.any fun n => n < Width.bound (8 * (5 - l.length))

/-! ## Hosts -/

/-- What is wrong with a host. -/
inductive HostError where
  | empty
  /-- brackets that hold no IPv6 address -/
  | badBrackets
  | badCharacter
  | badDomain
  | badIpv4
deriving DecidableEq, Repr

/-- A character that cannot be part of a name of any kind. -/
def isForbidden (c : Char) : Bool :=
  ['\x00', '\t', '\n', '\r', ' ', '#', '/', ':', '<', '>', '?', '@', '[', '\\', ']', '^',
    '|'].contains c

/-- A host. -/
inductive Host where
  | domain (name : String)
  | ipv4
  | ipv6
  /-- a name of any kind, as it is written -/
  | named (text : List Char)
deriving DecidableEq, Repr

namespace Host

/-- A host on the web. -/
def readDomain (s : List Char) : Except HostError Host :=
  match (Percent.decode s).toOption.bind Domain.name? with
  | none => .error .badDomain
  | some [] => .error .empty
  | some cs =>
    let name := String.ofList cs
    if !endsInNumber name then .ok (.domain name)
    else if isNumericIpv4 name then .ok .ipv4
    else .error .badIpv4

/-- A host as it is written in a URL. -/
def read (web : Bool) (host : List Char) : Except HostError Host :=
  match host with
  | '[' :: rest =>
    if rest.getLast? = some ']' ∧ isIpv6 (String.ofList rest.dropLast) then .ok .ipv6
    else .error .badBrackets
  | _ =>
    if web then readDomain host
    else if host.any isForbidden then .error .badCharacter
    else .ok (.named host)

end Host

end Failsafe.Database
