import Failsafe.Breaker
import Failsafe.Buffer
import Failsafe.Bus
import Failsafe.Recovery
/-
  The settings of the whole system, section by section.

  Every setting has a standard value. `Settings.check` collects everything that is wrong with
  the values into one error. The sections have JSON forms, in which any setting may be left out.
-/

namespace Failsafe

/-- The breakers' thresholds. -/
structure BreakerSettings where
  broker : BreakerConfig
  marketData : BreakerConfig
  risk : BreakerConfig
  database : BreakerConfig
deriving DecidableEq, Repr, Inhabited

/-- The thresholds of one dependency's breaker. -/
def BreakerSettings.of (s : BreakerSettings) : Dependency → BreakerConfig
  | .broker => s.broker
  | .marketData => s.marketData
  | .risk => s.risk
  | .database => s.database

/-- The database that buffered writes are flushed to. -/
structure DatabaseSettings where
  /-- without one, buffered writes are never flushed -/
  url : Option String
  maxConnections : Nat
deriving DecidableEq, Repr, Inhabited

/-- What is logged, how and where. -/
structure LoggingSettings where
  level : String
  json : Bool
  directory : Option String
deriving DecidableEq, Repr, Inhabited

/-- The settings of the whole system. -/
structure Settings where
  initialMode : Mode
  breakers : BreakerSettings
  bus : BusConfig
  recovery : RecoveryConfig
  buffer : BufferConfig
  database : DatabaseSettings
  logging : LoggingSettings
deriving DecidableEq, Repr, Inhabited

namespace Settings

/-- The standard thresholds for every breaker. -/
def standardBreakers : BreakerSettings := ⟨.standard, .standard, .standard, .standard⟩

/-- No database, five connections to it. -/
def standardDatabase : DatabaseSettings := ⟨none, 5⟩

/-- Plain log lines from the level `info` up, to the console only. -/
def standardLogging : LoggingSettings := ⟨"info", false, none⟩

/-- The standard settings. -/
def standard : Settings :=
  { initialMode := .initial, breakers := standardBreakers, bus := .standard
    recovery := .standard, buffer := .standard, database := standardDatabase
    logging := standardLogging }

/-! ## Checking -/

/-- Everything that is wrong with the settings. -/
def problems (s : Settings) : List String :=
  (Dependency.all.filterMap fun d => (s.breakers.of d).problem?.map fun p =>
      "breakers." ++ d.name ++ ": " ++ (Error.validation p).message)
    ++ (s.bus.problem?.toList.map fun p => (Error.validation p).message)
    ++ (s.buffer.problem?.toList.map fun p => (Error.validation p).message)
    ++ (if s.database.maxConnections = 0 then
      ["database.max_connections must be greater than 0"] else [])

/-- Nothing is wrong with the settings, or else everything that is. -/
def check (s : Settings) : Except Error Unit :=
  if s.problems.isEmpty then .ok () else .error (.validation (String.intercalate "; " s.problems))

end Settings

/-! ## JSON forms -/

open Json (Slot Value readRecord readNat32 readNat64 readSize readBool readName readText readOption
  readList)

namespace BreakerConfig

/-- The stored form. -/
def toJson (c : BreakerConfig) : Value :=
  .obj [("fail_threshold_count", .nat c.failures), ("fail_threshold_seconds", .nat c.seconds)]

/-- The fields of the stored form. -/
def slots : List (Slot BreakerConfig) :=
  [.store "fail_threshold_count" .defaulted (fun _ => readNat32)
      fun a c => { c with failures := a },
    .store "fail_threshold_seconds" .defaulted (fun _ => readNat64)
      fun a c => { c with seconds := a }]

/-- Reads the stored form. -/
def read : Nat → Json.Reader BreakerConfig := readRecord "struct BreakerConfig" slots standard

end BreakerConfig

namespace BusConfig

/-- The stored form. -/
def toJson (c : BusConfig) : Value :=
  .obj [("queue_size", .nat c.queueSize), ("fallback_log_path", .opt .str c.fallbackLog),
    ("must_deliver", .arr (c.mustDeliver.map fun k => .str k.name))]

/-- The fields of the stored form. -/
def slots : List (Slot BusConfig) :=
  [.store "queue_size" .defaulted (fun _ => readSize) fun a c => { c with queueSize := a },
    .store "fallback_log_path" .defaulted (fun _ => readOption (readText "path string"))
      fun a c => { c with fallbackLog := a },
    .store "must_deliver" .defaulted (readList (readName EventKind.table))
      fun a c => { c with mustDeliver := a }]

/-- Reads the stored form. -/
def read : Nat → Json.Reader BusConfig := readRecord "struct EventBusConfig" slots standard

end BusConfig

namespace RecoveryConfig

/-- The stored form. -/
def toJson (c : RecoveryConfig) : Value := .obj [("ready_stable_secs", .nat c.readySeconds)]

/-- The fields of the stored form. -/
def slots : List (Slot RecoveryConfig) :=
  [.store "ready_stable_secs" .defaulted (fun _ => readNat64)
    fun a c => { c with readySeconds := a }]

/-- Reads the stored form. -/
def read : Nat → Json.Reader RecoveryConfig := readRecord "struct RecoveryConfig" slots standard

end RecoveryConfig

namespace BufferConfig

/-- The stored form. -/
def toJson (c : BufferConfig) : Value :=
  .obj [("max_entries", .nat c.maxEntries), ("max_bytes", .nat c.maxBytes),
    ("wal_path", .opt .str c.wal), ("fsync", .bool c.sync)]

/-- The fields of the stored form. -/
def slots : List (Slot BufferConfig) :=
  [.store "max_entries" .defaulted (fun _ => readSize) fun a c => { c with maxEntries := a },
    .store "max_bytes" .defaulted (fun _ => readSize) fun a c => { c with maxBytes := a },
    .store "wal_path" .defaulted (fun _ => readOption (readText "path string"))
      fun a c => { c with wal := a },
    .store "fsync" .defaulted (fun _ => readBool) fun a c => { c with sync := a }]

/-- Reads the stored form. -/
def read : Nat → Json.Reader BufferConfig := readRecord "struct DbBufferConfig" slots standard

end BufferConfig

namespace BreakerSettings

/-- The stored form. -/
def toJson (s : BreakerSettings) : Value :=
  .obj [("broker", s.broker.toJson), ("market_data", s.marketData.toJson),
    ("risk", s.risk.toJson), ("database", s.database.toJson)]

/-- The fields of the stored form. -/
def slots : List (Slot BreakerSettings) :=
  [.store "broker" .defaulted BreakerConfig.read fun a s => { s with broker := a },
    .store "market_data" .defaulted BreakerConfig.read fun a s => { s with marketData := a },
    .store "risk" .defaulted BreakerConfig.read fun a s => { s with risk := a },
    .store "database" .defaulted BreakerConfig.read fun a s => { s with database := a }]

/-- Reads the stored form. -/
def read : Nat → Json.Reader BreakerSettings :=
  readRecord "struct BreakersConfig" slots Settings.standardBreakers

end BreakerSettings

namespace DatabaseSettings

/-- The stored form. -/
def toJson (s : DatabaseSettings) : Value :=
  .obj [("url", .opt .str s.url), ("max_connections", .nat s.maxConnections)]

/-- The fields of the stored form. -/
def slots : List (Slot DatabaseSettings) :=
  [.store "url" .defaulted (fun _ => readOption (readText "a string"))
      fun a s => { s with url := a },
    .store "max_connections" .defaulted (fun _ => readNat32)
      fun a s => { s with maxConnections := a }]

/-- Reads the stored form. -/
def read : Nat → Json.Reader DatabaseSettings :=
  readRecord "struct DatabaseConfig" slots Settings.standardDatabase

end DatabaseSettings

namespace LoggingSettings

/-- The stored form. -/
def toJson (s : LoggingSettings) : Value :=
  .obj [("level", .str s.level), ("json", .bool s.json), ("log_dir", .opt .str s.directory)]

/-- The fields of the stored form. -/
def slots : List (Slot LoggingSettings) :=
  [.store "level" .defaulted (fun _ => readText "a string") fun a s => { s with level := a },
    .store "json" .defaulted (fun _ => readBool) fun a s => { s with json := a },
    .store "log_dir" .defaulted (fun _ => readOption (readText "path string"))
      fun a s => { s with directory := a }]

/-- Reads the stored form. -/
def read : Nat → Json.Reader LoggingSettings :=
  readRecord "struct LoggingConfig" slots Settings.standardLogging

end LoggingSettings

namespace Settings

/-- The fields of the section on the state service. -/
def stateSlots : List (Slot Mode) :=
  [.store "initial_mode" .defaulted (readName Mode.table) fun a _ => a]

/-- Reads the section on the state service. -/
def readState : Nat → Json.Reader Mode :=
  readRecord "struct StateServiceConfig" stateSlots .initial

/-- The stored form of the section on the state service. -/
def stateToJson (m : Mode) : Value := .obj [("initial_mode", .str m.name)]

/-- The stored form. -/
def toJson (s : Settings) : Value :=
  .obj [("state", stateToJson s.initialMode), ("breakers", s.breakers.toJson),
    ("event_bus", s.bus.toJson), ("recovery", s.recovery.toJson), ("db_buffer", s.buffer.toJson),
    ("database", s.database.toJson), ("logging", s.logging.toJson)]

/-- The sections of the stored form. -/
def slots : List (Slot Settings) :=
  [.store "state" .defaulted readState fun a s => { s with initialMode := a },
    .store "breakers" .defaulted BreakerSettings.read fun a s => { s with breakers := a },
    .store "event_bus" .defaulted BusConfig.read fun a s => { s with bus := a },
    .store "recovery" .defaulted RecoveryConfig.read fun a s => { s with recovery := a },
    .store "db_buffer" .defaulted BufferConfig.read fun a s => { s with buffer := a },
    .store "database" .defaulted DatabaseSettings.read fun a s => { s with database := a },
    .store "logging" .defaulted LoggingSettings.read fun a s => { s with logging := a }]

/-- Reads the stored form. -/
def read : Nat → Json.Reader Settings := readRecord "struct AppConfig" slots standard

end Settings

end Failsafe
