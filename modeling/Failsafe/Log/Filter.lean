import Failsafe.Decimal.Nearest
import Failsafe.Decimal.Whole
import Failsafe.Log
import Failsafe.Log.Pattern
import Failsafe.Text.Blank
import Failsafe.Text.Letter
import Failsafe.Text.Utf8
/-
  Which log records are kept.

  A filter is a list of directives such as `info` or `target=debug`. For a record the most
  specific directive whose target is the beginning of the record's target decides; of equally
  specific ones the last. Without such a directive the record is dropped.
-/

namespace Failsafe.Log

/-- Why a text is no directive. -/
inductive DirectiveFault where
  | malformed
  | unknownLevel
  /-- what a field is to be like is no pattern -/
  | noPattern
deriving DecidableEq, Repr

/-- The text of a fault. -/
def DirectiveFault.message : DirectiveFault → String
  | malformed => "invalid filter directive"
  | unknownLevel => "error parsing level filter: expected one of \"off\", \"error\", \"warn\", "
      ++ "\"info\", \"debug\", \"trace\", or a number 0-5"
  | noPattern => "invalid field filter: error building NFA"

/-- The least important records that are kept; without a level none are. -/
abbrev Threshold := Option Level

/-- The thresholds by number. -/
def thresholds : List Threshold :=
  [none, some .error, some .warn, some .info, some .debug, some .trace]

/-- A rule for some records. -/
structure Directive where
  /-- what a record's target has to begin with -/
  target? : Option String
  /-- the rule is about spans of time only, not about records -/
  spansOnly : Bool
  /-- the fields that a record has to have -/
  fields : List String
  threshold : Threshold
deriving DecidableEq, Repr

namespace Directive

/-- The threshold of a name or a number. -/
def readThreshold? (s : List Char) : Option Threshold :=
  let names := ["off", "error", "warn", "info", "debug", "trace"]
  let name := String.ofList (s.map Char.toLower)
  match Decimal.readNatural (Width.bound 64 - 1) s with
  | .ok n => thresholds[n]?
  | .error _ => if names.contains name then thresholds[names.idxOf name]? else none

/-- What a field can be like: a truth value, a number or a pattern. -/
def isFieldValue (s : List Char) : Bool :=
  (Decimal.float? s).isSome || Pattern.isPattern s

/-- A field between braces: its name, and what its value is like if that is asked for. -/
def readField (s : List Char) : Except DirectiveFault (String × Option (List Char)) :=
  match s.dropWhile (· ≠ '=') with
  | [] => if s.isEmpty then .error .malformed else .ok (String.ofList s, none)
  | _ :: t =>
    let value := t.takeWhile (· ≠ '=')
    if isFieldValue value then .ok (String.ofList (s.takeWhile (· ≠ '=')), some value)
    else .error .noPattern

/-- A character with which a target or a level may begin. -/
def isInitial (c : Char) : Bool := Text.isLetterOrDigit c || c = '-' || c = ':' || c = '_'

/-- What a directive has got so far. -/
structure Draft where
  target? : Option String
  /-- the name of a span -/
  span? : Option String
  /-- a field, and what its value is to be like -/
  field? : Option (String × Option (List Char))
deriving DecidableEq, Repr

/-- The parts of a directive; those that are cut out of the text know the place of their first
byte. -/
inductive Point where
  | start
  | name (first : Nat)
  | span (first : Nat)
  | field (first : Nat)
  /-- after the closing brace of a field -/
  | fieldEnd
  /-- after the closing bracket of a span -/
  | spanEnd
  | level (first : Nat)
deriving DecidableEq, Repr

/-- The part of a text between two places. -/
def cut (text : List Char) (first last : Nat) : Except DirectiveFault (List Char) :=
  match Text.splitAt? first text with
  | none => .error .malformed
  | some (_, rest) =>
    match Text.splitAt? (last - first) rest with
    | none => .error .malformed
    | some (part, _) => .ok part

/-- One character of a directive, at a place. -/
def step (text : List Char) (d : Draft) (p : Point) (place : Nat) (c : Char) :
    Except DirectiveFault (Draft × Point) :=
  match p with
  | .start =>
    if c = '[' then .ok (d, .span (place + 1))
    else if isInitial c then .ok (d, .name place)
    else .error .malformed
  | .name first =>
    if c = '=' ∨ c = '[' then
      (cut text first place).map fun target =>
        ({ d with target? := some (String.ofList target) },
          if c = '=' then .level (place + 1) else .span (place + 1))
    else .ok (d, p)
  | .span first =>
    if c = ']' then
      (cut text first place).map fun name =>
        ({ d with span? := some (String.ofList name) }, .spanEnd)
    else if c = '\x7b' then
      (cut text first place).map fun name =>
        ({ d with span? := if name.isEmpty then none else some (String.ofList name) },
          .field (place + 1))
    else .ok (d, p)
  | .field first =>
    if c = '\x7d' then do
      let field ← readField (← cut text first place)
      .ok ({ d with field? := some field }, .fieldEnd)
    else .ok (d, p)
  | .fieldEnd => if c = ']' then .ok (d, .spanEnd) else .error .malformed
  | .spanEnd => if c = '=' then .ok (d, .level (place + 1)) else .error .malformed
  | .level _ => .ok (d, p)

/-- The characters of a directive from a place on. -/
def walk (text : List Char) :
    Draft → Point → Nat → List Char → Except DirectiveFault (Draft × Point)
  | d, p, _, [] => .ok (d, p)
  | d, p, place, c :: rest =>
    match step text d p place c with
    | .error f => .error f
    | .ok (d, p) => walk text d p (place + c.utf8Size) rest

/-- A directive is about spans only if it names one, be it with the empty name, or asks for
a value. -/
def Draft.spansOnly (d : Draft) : Bool := d.span?.isSome || d.field?.any fun f => f.2.isSome

/-- The directive of a draft, with a threshold. -/
def Draft.with (d : Draft) (threshold : Threshold) : Directive :=
  ⟨d.target?, d.spansOnly, d.field?.toList.map Prod.fst, threshold⟩

/-- A directive. Places are counted without the blanks in front, but the parts are cut out of the
whole text, so that with such blanks hardly any directive is well-formed; and the last part has the
blanks at the end with it. -/
def read (text : List Char) : Except DirectiveFault Directive :=
  match walk text ⟨none, none, none⟩ .start 0 (Text.trim text) with
  | .error f => .error f
  | .ok (d, .spanEnd) => .ok (d.with (some .trace))
  | .ok (d, .level first) => do
    let level ← cut text first (Text.byteLength text)
    if level.isEmpty then .ok (d.with (some .trace))
    else
      match readThreshold? level with
      | some threshold => .ok (d.with threshold)
      | none => .error .unknownLevel
  | .ok (d, .name first) => do
    let name ← cut text first (Text.byteLength text)
    match readThreshold? name with
    | some threshold => .ok (d.with threshold)
    | none => .ok ({ d with target? := some (String.ofList name) }.with (some .trace))
  | .ok _ => .error .malformed

/-- The directive is about a record. Targets are for the records of modules; those of the program
around them have none that a directive could name. -/
def concerns (d : Directive) (r : Record) : Bool :=
  !d.spansOnly && (d.target?.all fun t => r.hasModule && t.isPrefixOf r.target)
    && d.fields.all fun f => f = "message" || r.fields.any fun e => e.1 = f

/-- A directive is at least as specific as another: its target is longer, or else it asks for
more fields, or else for fields with later names. -/
def refines (d e : Directive) : Bool :=
  let size (d : Directive) : Nat := d.target?.elim 0 fun t => t.utf8ByteSize + 1
  if size d ≠ size e then size e < size d
  else if d.fields.length ≠ e.fields.length then e.fields.length < d.fields.length
  else !decide (d.fields < e.fields)

end Directive

/-- Which records are kept. -/
structure Filter where
  directives : List Directive
deriving DecidableEq, Repr

namespace Filter

/-- The filter of some directives; without any, only errors are kept. -/
def ofDirectives (l : List Directive) : Filter :=
  if l.isEmpty then ⟨[⟨none, false, [], some .error⟩]⟩ else ⟨l⟩

/-- The directives of a text; between commas there may be nothing. -/
def parts (text : String) : List String := (text.splitOn ",").filter fun part => part ≠ ""

/-- The filter that a text stands for, if it is well-formed all through. -/
def read? (text : String) : Option Filter :=
  ((parts text).mapM fun p => (Directive.read p.toList).toOption).map ofDirectives

/-- A filter from the well-formed directives of a text, and what is said about the others. -/
def readLenient (text : String) : Filter × List String :=
  let read := (parts text).map fun p => (p, Directive.read p.toList)
  (ofDirectives (read.filterMap fun e => e.2.toOption),
    read.filterMap fun e =>
      match e.2 with
      | .ok _ => none
      | .error f => some ("ignoring `" ++ e.1 ++ "`: " ++ f.message))

/-- The directive that decides about a record. -/
def decisive? (f : Filter) (r : Record) : Option Directive :=
  (f.directives.filter fun d => d.concerns r).foldl
    (fun best? d =>
      match best? with
      | some best => if d.refines best then some d else best?
      | none => some d) none

/-- A record is kept. -/
def keeps (f : Filter) (r : Record) : Bool :=
  (f.decisive? r).any fun d => d.threshold.any fun t => decide (t.rank ≤ r.level.rank)

/-- The filter that keeps records from a level up. -/
def atLeast (level : Level) : Filter := ⟨[⟨none, false, [], some level⟩]⟩

end Filter

end Failsafe.Log
