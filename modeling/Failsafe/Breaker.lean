import Failsafe.Signal
/-
  Circuit breakers: one per monitored dependency.

  A breaker turns reports of failure and success into level changes. It trips after a number of
  consecutive failures, or when failures have persisted for a time, and it heals on the first
  success. An event is returned exactly when the level changes.
-/

namespace Failsafe

/-- A monitored dependency. -/
inductive Dependency where
  | broker
  | marketData
  | risk
  | database
deriving DecidableEq, Repr, Inhabited

namespace Dependency

/-- Every dependency. -/
def all : List Dependency := [broker, marketData, risk, database]

/-- The source of the dependency's events. -/
def source : Dependency → Source
  | broker => .broker
  | marketData => .marketData
  | risk => .risk
  | database => .database

/-- The written form of a dependency. -/
def name (d : Dependency) : String := d.source.name

/-- The diagnostic form of a dependency. -/
def label : Dependency → String
  | broker => "Broker"
  | marketData => "MarketData"
  | risk => "Risk"
  | database => "Database"

/-- The cause reported when the dependency begins to fail. -/
def unstableReason : Dependency → Reason
  | broker => .brokerUnstable
  | marketData => .dataDelayed
  | risk => .riskEngineSlow
  | database => .databaseSlow

/-- The cause reported when the dependency's breaker trips. -/
def trippedReason : Dependency → Reason
  | broker => .brokerDisconnect
  | marketData => .dataStale
  | risk => .riskEngineDown
  | database => .databaseWriteFail

/-- The cause reported when the dependency heals; only the broker has one of its own. -/
def recoveredReason : Dependency → Reason
  | broker => .brokerReconnected
  | _ => .allHealthy

/-- The dependencies by their names. -/
def table : List (String × Dependency) := all.map fun d => (d.name, d)

end Dependency

/-- The local health of a dependency. -/
inductive Level where
  | healthy
  | unstable
  | tripped
deriving DecidableEq, Repr, Inhabited

namespace Level

/-- Every level, from least to most severe. -/
def all : List Level := [healthy, unstable, tripped]

/-- The rank of a level. -/
def rank : Level → Nat
  | healthy => 0
  | unstable => 1
  | tripped => 2

/-- The stored form of a level. -/
def name : Level → String
  | healthy => "HEALTHY"
  | unstable => "UNSTABLE"
  | tripped => "TRIPPED"

/-- The displayed form of a level. -/
def text : Level → String
  | healthy => "healthy"
  | unstable => "unstable"
  | tripped => "tripped"

/-- The more severe of two levels. -/
def worse (a b : Level) : Level := if a.rank ≤ b.rank then b else a

/-- The global mode on the scale of levels. -/
def ofMode : Mode → Level
  | .normal => healthy
  | .degraded => unstable
  | _ => tripped

/-- The levels by their names. -/
def table : List (String × Level) := all.map fun l => (l.name, l)

end Level

/-- When a breaker trips. -/
structure BreakerConfig where
  /-- consecutive failures that trip it -/
  failures : Nat
  /-- seconds of sustained failure that trip it -/
  seconds : Nat
deriving DecidableEq, Repr, Inhabited

namespace BreakerConfig

/-- Three failures, or half a minute of them. -/
def standard : BreakerConfig := ⟨3, 30⟩

/-- What is wrong with the thresholds. -/
def problem? (c : BreakerConfig) : Option String :=
  if c.failures = 0 then some "fail_threshold_count must be greater than 0"
  else if c.seconds = 0 then some "fail_threshold_seconds must be greater than 0"
  else none

end BreakerConfig

/-- A breaker of one dependency. -/
structure Breaker where
  dependency : Dependency
  config : BreakerConfig
  level : Level
  /-- failures since the last success, not counted further once tripped -/
  failures : Nat
  /-- when the first of them was reported -/
  firstFailure : Option Nanos
deriving DecidableEq, Repr, Inhabited

namespace Breaker

/-- A healthy breaker. -/
def new (dependency : Dependency) (config : BreakerConfig) : Breaker :=
  { dependency, config, level := .healthy, failures := 0, firstFailure := none }

/-- How long the dependency has been failing. -/
def failingFor (b : Breaker) (now : Nanos) : Option Nanos := b.firstFailure.map fun t => now - t

/-- The level as seen from outside: never looser than the central one. -/
def effective (b : Breaker) (central : Level) : Level := b.level.worse central

/-- The failures so far are enough to trip. -/
def shouldTrip (b : Breaker) (now : Nanos) : Bool :=
  decide (b.config.failures ≤ b.failures) ||
    match b.firstFailure with
    | some t => decide (Nanos.ofSeconds b.config.seconds ≤ now - t)
    | none => false

/-- The event of a level change, described by the breaker after it. -/
def event (b : Breaker) (now : Moment) (kind : EventKind) (severity : Severity)
    (reason : Reason) : Event :=
  let failing := (b.failingFor now.steady).getD 0
  (((Event.new now kind b.dependency.source severity reason).note "component" b.dependency.name
    |>.note "level" b.level.text).detail "failure_count" (.nat b.failures)).detail
    "failing_for_ms" (.nat (Nanos.millis failing % Width.bound 64))

/-- Where breakers file their log records. -/
def target : String := "ploy_sentinel::coordination::circuit_breaker"

/-- The log record of a reported failure. -/
def failureRecord (b : Breaker) (level : Log.Level) (message : String) : Signal :=
  .log ⟨level, target, message,
    [("component", .word b.dependency.name), ("failures", .count b.failures)]⟩

/-- Reports a failure. A tripped breaker ignores it. -/
def recordFailure (now : Moment) (b : Breaker) : Step Breaker (Option Event) :=
  if b.level = .tripped then ⟨none, b, []⟩
  else
    let b := { b with
      failures := b.failures + 1
      firstFailure := some (b.firstFailure.getD now.steady) }
    if b.shouldTrip now.steady then
      let b := { b with level := .tripped }
      ⟨some (b.event now .breakerTripped .critical b.dependency.trippedReason), b,
        [b.failureRecord .warn "Breaker TRIPPED"]⟩
    else if b.level = .healthy then
      let b := { b with level := .unstable }
      ⟨some (b.event now .breakerUnstable .warning b.dependency.unstableReason), b,
        [b.failureRecord .warn "Breaker unstable"]⟩
    else ⟨none, b, [b.failureRecord .debug "Breaker failure recorded"]⟩

/-- Reports a success. A healthy breaker ignores it. -/
def recordSuccess (now : Moment) (b : Breaker) : Step Breaker (Option Event) :=
  if b.level = .healthy then ⟨none, b, []⟩
  else
    let previous := b.level
    let b := { b with level := .healthy, failures := 0, firstFailure := none }
    ⟨some ((b.event now .breakerRecovered .info b.dependency.recoveredReason).note
        "previous_level" previous.text), b,
      [.log ⟨.info, target, "Breaker recovered",
        [("component", .word b.dependency.name), ("from", .word previous.text)]⟩]⟩

end Breaker

end Failsafe
