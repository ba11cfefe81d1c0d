import Failsafe.Clock
import Failsafe.Reason
import Failsafe.Json.Record
/-
  Health and control events.

  An event is built once, its details one by one (`Event.detail`), and then only read. Its
  stored form is a record of six fields (`Event.toJson`, `Event.read`); only the details may be
  left out when it is read.
-/

namespace Failsafe

/-- The kind of an event, used for routing. -/
inductive EventKind where
  | breakerUnstable
  | breakerTripped
  | breakerRecovered
  | modeChanged
  | manualOverride
  | recoveryStarted
  | recoveryStageAdvanced
  | recoveryCompleted
  | recoveryFailed
  | bufferOverflow
  | healthReport
deriving DecidableEq, Repr, Inhabited

namespace EventKind

/-- Every kind of event. -/
def all : List EventKind :=
  [breakerUnstable, breakerTripped, breakerRecovered, modeChanged, manualOverride,
    recoveryStarted, recoveryStageAdvanced, recoveryCompleted, recoveryFailed, bufferOverflow,
    healthReport]

/-- The written form of a kind. -/
def name : EventKind → String
  | breakerUnstable => "BREAKER_UNSTABLE"
  | breakerTripped => "BREAKER_TRIPPED"
  | breakerRecovered => "BREAKER_RECOVERED"
  | modeChanged => "MODE_CHANGED"
  | manualOverride => "MANUAL_OVERRIDE"
  | recoveryStarted => "RECOVERY_STARTED"
  | recoveryStageAdvanced => "RECOVERY_STAGE_ADVANCED"
  | recoveryCompleted => "RECOVERY_COMPLETED"
  | recoveryFailed => "RECOVERY_FAILED"
  | bufferOverflow => "DB_BUFFER_OVERFLOW"
  | healthReport => "HEALTH_REPORT"

end EventKind

/-- The component that an event or a transition comes from. -/
inductive Source where
  | broker
  | marketData
  | risk
  | database
  | alerting
  | stateService
  | recovery
  | operator
  | system
deriving DecidableEq, Repr, Inhabited

namespace Source

/-- Every source. -/
def all : List Source :=
  [broker, marketData, risk, database, alerting, stateService, recovery, operator, system]

/-- The written form of a source. -/
def name : Source → String
  | broker => "broker"
  | marketData => "market_data"
  | risk => "risk"
  | database => "database"
  | alerting => "alerting"
  | stateService => "state_service"
  | recovery => "recovery"
  | operator => "operator"
  | system => "system"

end Source

/-- How severe an event is. -/
inductive Severity where
  | info
  | warning
  | critical
deriving DecidableEq, Repr, Inhabited

namespace Severity

/-- Every severity, from least to most severe. -/
def all : List Severity := [info, warning, critical]

/-- The rank of a severity. -/
def rank : Severity → Nat
  | info => 0
  | warning => 1
  | critical => 2

/-- The written form of a severity. -/
def name : Severity → String
  | info => "info"
  | warning => "warning"
  | critical => "critical"

/-- The severity of a report whose cause asks for the given mode. -/
def ofMode (m : Mode) : Severity :=
  if m.priority = 0 then info else if m.priority ≤ 3 then warning else critical

end Severity

/-- A health or control event. -/
structure Event where
  kind : EventKind
  source : Source
  severity : Severity
  reason : Reason
  details : Json.Members
  wall : Timestamp
deriving Repr, Inhabited

namespace Event

/-- An event without details. -/
def new (now : Moment) (kind : EventKind) (source : Source) (severity : Severity)
    (reason : Reason) : Event :=
  { kind, source, severity, reason, details := [], wall := now.wall }

/-- A report from an external producer, routed by its cause alone. -/
def health (now : Moment) (source : Source) (reason : Reason) : Event :=
  new now .healthReport source (.ofMode reason.target) reason

/-- The event with one more detail; an equal key is replaced. -/
def detail (e : Event) (key : String) (value : Json.Value) : Event :=
  { e with details := e.details.insert key value }

/-- The event with one more detail that is a string. -/
def note (e : Event) (key text : String) : Event := e.detail key (.str text)

/-- The stored form. -/
def toJson (e : Event) : Json.Value :=
  .obj [("event_type", .str e.kind.name), ("source", .str e.source.name),
    ("severity", .str e.severity.name), ("reason_code", .str e.reason.name),
    ("details", .obj e.details), ("timestamp", .str e.wall.write)]

end Event

/-! ## Reading names and events -/

/-- The modes by their names. -/
def Mode.table : List (String × Mode) := Mode.all.map fun m => (m.name, m)

/-- The stages by their names. -/
def Stage.table : List (String × Stage) := Stage.all.map fun s => (s.name, s)

/-- The causes by their names. -/
def Reason.table : List (String × Reason) := Reason.all.map fun r => (r.name, r)

/-- The kinds of events by their names. -/
def EventKind.table : List (String × EventKind) := EventKind.all.map fun k => (k.name, k)

/-- The sources by their names. -/
def Source.table : List (String × Source) := Source.all.map fun s => (s.name, s)

/-- The severities by their names. -/
def Severity.table : List (String × Severity) := Severity.all.map fun s => (s.name, s)

/-- Reads a timestamp from a JSON string. -/
def Timestamp.read : Json.Reader Timestamp :=
  Json.readFormatted "an RFC 3339 formatted date and time string" fun s =>
    (Timestamp.parse s).mapError Timestamp.Error.message

namespace Event

/-- The fields of a stored event. -/
def slots : List (Json.Slot Event) :=
  [.store "event_type" .required (Json.readName EventKind.table) fun a e => { e with kind := a },
    .store "source" .required (Json.readName Source.table) fun a e => { e with source := a },
    .store "severity" .required (Json.readName Severity.table) fun a e => { e with severity := a },
    .store "reason_code" .required (Json.readName Reason.table) fun a e => { e with reason := a },
    .store "details" .defaulted Json.readObject fun a e => { e with details := a },
    .store "timestamp" .required (fun _ => Timestamp.read) fun a e => { e with wall := a }]

/-- The values of an event's fields before any is read. -/
def blank : Event := new ⟨0, .epoch⟩ .healthReport .system .info .allHealthy

/-- Reads a stored event. -/
def read : Nat → Json.Reader Event := Json.readRecord "struct SystemEvent" slots blank

end Event

end Failsafe
