import Failsafe.Settings.Basic
import Failsafe.Settings.Layers
/-
  Reading settings out of their tree.

  Plain values are converted between types where that makes sense: texts that spell a number or
  a truth value, numbers for texts, truth values for numbers. A section is a table, or a list of
  its settings in order; what is missing keeps its standard value and what is unknown is passed
  over.
-/

namespace Failsafe.Settings

/-- A reader of `α` from a value of the tree. -/
abbrev Reading (α : Type) := Tree → Except LoadError α

/-- Where a value is written. -/
def Tree.origin? : Tree → Option Origin
  | .scalar origin? _ => origin?
  | .list origin? _ => origin?
  | .table origin? _ => origin?

/-- The error that a value, described by `found`, is not of the expected type. -/
def Tree.mistyped (t : Tree) (found expected : String) : LoadError :=
  .mistyped found expected none t.origin?

/-- Rounds to the nearest natural number below `2 ^ 64`, a half away from zero. -/
def roundedFloat (bits : UInt64) : Nat := (Float.ofBits bits).round.toUInt64.toNat

/-- A natural number of 64 bits. -/
def asNatural : Reading Nat := fun t =>
  match t with
  | .scalar _ (.integer n) =>
    if 0 ≤ n then .ok n.toNat
    else .error (t.mistyped t.found "an unsigned 64 bit or less integer")
  | .scalar _ (.float bits) => .ok (roundedFloat bits)
  | .scalar _ (.bool b) => .ok (if b then 1 else 0)
  | .scalar _ (.text s) =>
    if ["true", "on", "yes"].contains (Text.lower s) then .ok 1
    else if ["false", "off", "no"].contains (Text.lower s) then .ok 0
    else
      match Decimal.readNatural (Width.bound 64 - 1) s.toList with
      | .ok n => .ok n
      | .error _ => .error (t.mistyped t.found "an integer")
  | t => .error (t.mistyped t.found "an integer")

/-- A natural number of 32 bits. -/
def asNat32 : Reading Nat := fun t => do
  let n ← asNatural t
  if n < Width.bound 32 then .ok n
  else .error (.mistyped ("64-bit unsigned integer `" ++ toString n ++ "`")
    "an unsigned 32 bit integer" none none)

/-- A truth value. -/
def asBool : Reading Bool := fun t =>
  match t with
  | .scalar _ (.bool b) => .ok b
  | .scalar _ (.integer n) => .ok (n ≠ 0)
  | .scalar _ (.float bits) => .ok (Float.ofBits bits != 0.0)
  | .scalar _ (.text s) =>
    if ["1", "true", "on", "yes"].contains (Text.lower s) then .ok true
    else if ["0", "false", "off", "no"].contains (Text.lower s) then .ok false
    else .error (t.mistyped ("string " ++ Text.quoted (Text.lower s)) "a boolean")
  | t => .error (t.mistyped t.found "a boolean")

/-- A text. -/
def asText : Reading String := fun t =>
  match t with
  | .scalar _ (.text s) => .ok s
  | .scalar _ (.bool b) => .ok (if b then "true" else "false")
  | .scalar _ (.integer n) => .ok (String.ofList (Decimal.integer n))
  | .scalar _ (.float bits) => .ok (String.ofList (Decimal.write (.positional false) bits))
  | t => .error (t.mistyped t.found "a string")

/-- A text that may be absent. -/
def asOptionalText : Reading (Option String) := fun t =>
  match t with
  | .scalar _ .empty => .ok none
  | t => (asText t).map some

/-! ## Names, lists and sections -/

/-- The value of a name in a table, in whatever case it is written. -/
def lookUp (type : String) (table : List (String × α)) (name : String) : Except LoadError α :=
  match table.find? fun e => Text.lower e.1 = Text.lower name with
  | some e => .ok e.2
  | none => .error (.message
      ("enum " ++ type ++ " does not have variant constructor " ++ name))

/-- A name from a table; it may also be the only key of a table. -/
def asName (type : String) (table : List (String × α)) : Reading α := fun t =>
  match t with
  | .scalar _ (.text name) => lookUp type table name
  | .table _ [(name, _)] => lookUp type table name
  | _ => .error (.message ("value of enum " ++ type
      ++ " should be represented by either string or table with exactly one key"))

/-- What stands where a list or a section is expected; a float is shown with a point. -/
def Tree.foundInstead : Tree → String
  | .scalar _ (.integer n) => "integer `" ++ String.ofList (Decimal.integer n) ++ "`"
  | .scalar _ (.float bits) =>
    "floating point `" ++ String.ofList (Decimal.write (.positional true) bits) ++ "`"
  | t => t.found

/-- The error that something else stands where a list or a section is expected. -/
def Tree.misplaced (t : Tree) (expected : String) : LoadError :=
  .message ("invalid type: " ++ t.foundInstead ++ ", expected " ++ expected)

/-- A place in a list, as a step of a key. -/
def itemStep (place : Nat) : String := "[" ++ toString place ++ "]"

/-- The items of a list from a place on. -/
def readItems (item : Reading α) : Nat → List Tree → Except LoadError (List α)
  | _, [] => .ok []
  | place, t :: rest => do
    let a ← (item t).mapError (LoadError.below (itemStep place) true)
    let l ← readItems item (place + 1) rest
    .ok (a :: l)

/-- A list. -/
def asList (item : Reading α) : Reading (List α) := fun t =>
  match t with
  | .list _ items => readItems item 0 items
  | t => .error (t.misplaced "a sequence")

/-- A setting of a section: its name, and how it is read into the section. -/
structure Setting (σ : Type) where
  name : String
  read : Tree → σ → Except LoadError σ

/-- A setting given by its reader and its place in the section. -/
def setting (name : String) (reader : Reading α) (store : α → σ → σ) : Setting σ :=
  ⟨name, fun t s => (reader t).map fun a => store a s⟩

/-- The settings of a section that its entries give. -/
def readEntries (t : Tree) : List (Setting σ) → σ → Except LoadError σ
  | [], s => .ok s
  | x :: rest, s =>
    match t.get? x.name with
    | none => readEntries t rest s
    | some v => do
      let s ← (x.read v s).mapError (LoadError.below x.name false)
      readEntries t rest s

/-- The settings of a section that a list gives in order, from a place on. -/
def readInOrder : Nat → List (Setting σ) → List Tree → σ → Except LoadError σ
  | place, x :: settings, t :: items, s => do
    let s ← (x.read t s).mapError (LoadError.below (itemStep place) true)
    readInOrder (place + 1) settings items s
  | _, _, _, s => .ok s

/-- A section, given the name of its type, its settings and their standard values. -/
def asSection (type : String) (settings : List (Setting σ)) (standard : σ) : Reading σ := fun t =>
  match t with
  | .table _ _ => readEntries t settings standard
  | .list _ items => readInOrder 0 settings items standard
  | t => .error (t.misplaced ("struct " ++ type))

/-! ## The sections -/

/-- The section on the state service. -/
def asMode : Reading Mode :=
  asSection "StateServiceConfig"
    [setting "initial_mode" (asName "SystemMode" Mode.table) fun a _ => a] .initial

/-- The section on one breaker. -/
def asBreaker : Reading BreakerConfig :=
  asSection "BreakerConfig"
    [setting "fail_threshold_count" asNat32 fun a c => { c with failures := a },
      setting "fail_threshold_seconds" asNatural fun a c => { c with seconds := a }] .standard

/-- The section on the breakers. -/
def asBreakers : Reading BreakerSettings :=
  asSection "BreakersConfig"
    [setting "broker" asBreaker fun a s => { s with broker := a },
      setting "market_data" asBreaker fun a s => { s with marketData := a },
      setting "risk" asBreaker fun a s => { s with risk := a },
      setting "database" asBreaker fun a s => { s with database := a }] standardBreakers

/-- The section on the event bus. -/
def asBus : Reading BusConfig :=
  asSection "EventBusConfig"
    [setting "queue_size" asNatural fun a c => { c with queueSize := a },
      setting "fallback_log_path" asOptionalText fun a c => { c with fallbackLog := a },
      setting "must_deliver" (asList (asName "EventType" EventKind.table))
        fun a c => { c with mustDeliver := a }] .standard

/-- The section on recovery. -/
def asRecovery : Reading RecoveryConfig :=
  asSection "RecoveryConfig"
    [setting "ready_stable_secs" asNatural fun a c => { c with readySeconds := a }] .standard

/-- The section on the write buffer. -/
def asBuffer : Reading BufferConfig :=
  asSection "DbBufferConfig"
    [setting "max_entries" asNatural fun a c => { c with maxEntries := a },
      setting "max_bytes" asNatural fun a c => { c with maxBytes := a },
      setting "wal_path" asOptionalText fun a c => { c with wal := a },
      setting "fsync" asBool fun a c => { c with sync := a }] .standard

/-- The section on the database. -/
def asDatabase : Reading DatabaseSettings :=
  asSection "DatabaseConfig"
    [setting "url" asOptionalText fun a s => { s with url := a },
      setting "max_connections" asNat32 fun a s => { s with maxConnections := a }] standardDatabase

/-- The section on logging. -/
def asLogging : Reading LoggingSettings :=
  asSection "LoggingConfig"
    [setting "level" asText fun a s => { s with level := a },
      setting "json" asBool fun a s => { s with json := a },
      setting "log_dir" asOptionalText fun a s => { s with directory := a }] standardLogging

/-- All settings. -/
def ofTree : Reading Settings :=
  asSection "AppConfig"
    [setting "state" asMode fun a s => { s with initialMode := a },
      setting "breakers" asBreakers fun a s => { s with breakers := a },
      setting "event_bus" asBus fun a s => { s with bus := a },
      setting "recovery" asRecovery fun a s => { s with recovery := a },
      setting "db_buffer" asBuffer fun a s => { s with buffer := a },
      setting "database" asDatabase fun a s => { s with database := a },
      setting "logging" asLogging fun a s => { s with logging := a }] standard

/-- The directory that the settings are loaded from if none is named. -/
def standardDirectory : String := "config"

/-- Loads the settings from the files of a directory and the environment. -/
def load (files : Files) (directory : String) (vars : List (String × String)) :
    Except LoadError Settings := do
  ofTree (← layers files directory vars)

end Failsafe.Settings
