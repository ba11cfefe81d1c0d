import Failsafe.Event
/-
  Mode transitions and operator overrides.

  A transition is the audit record of one change of mode. An override pins the mode for a time:
  it is still in force when exactly its whole time has passed, and expired afterwards.
-/

namespace Failsafe

/-- The audit record of one change of mode. -/
structure Transition where
  fromMode : Mode
  toMode : Mode
  reason : Reason
  source : Source
  wall : Timestamp
  /-- milliseconds since the state service was created -/
  elapsedMs : Nat
  /-- the operator, for a transition made by hand -/
  operator : Option String
  /-- the seconds for which a transition made by hand pins the mode -/
  ttlSeconds : Option Nat
deriving DecidableEq, Repr, Inhabited

namespace Transition

/-- The transition was made by an operator. -/
def isOverride (t : Transition) : Bool := t.operator.isSome

/-- The fields of the stored form; those that are absent are left out. -/
def members (t : Transition) : Json.Members :=
  [("from_mode", .str t.fromMode.name), ("to_mode", .str t.toMode.name),
    ("reason_code", .str t.reason.name), ("source", .str t.source.name),
    ("wall_timestamp", .str t.wall.write), ("monotonic_ms", .nat t.elapsedMs)]
    ++ (t.operator.toList.map fun s => ("operator_id", .str s))
    ++ (t.ttlSeconds.toList.map fun n => ("override_ttl_secs", .nat n))

/-- The stored form. -/
def toJson (t : Transition) : Json.Value := .obj t.members

/-- The fields of a stored transition. -/
def slots : List (Json.Slot Transition) :=
  [.store "from_mode" .required (Json.readName Mode.table) fun a t => { t with fromMode := a },
    .store "to_mode" .required (Json.readName Mode.table) fun a t => { t with toMode := a },
    .store "reason_code" .required (Json.readName Reason.table) fun a t => { t with reason := a },
    .store "source" .required (Json.readName Source.table) fun a t => { t with source := a },
    .store "wall_timestamp" .required (fun _ => Timestamp.read) fun a t => { t with wall := a },
    .store "monotonic_ms" .required (fun _ => Json.readNat64) fun a t => { t with elapsedMs := a },
    .store "operator_id" .optional (fun _ => Json.readOption (Json.readText "a string"))
      fun a t => { t with operator := a },
    .store "override_ttl_secs" .optional (fun _ => Json.readOption Json.readNat64)
      fun a t => { t with ttlSeconds := a }]

/-- The values of a transition's fields before any is read. -/
def blank : Transition :=
  { fromMode := .normal, toMode := .normal, reason := .allHealthy, source := .system
    wall := .epoch, elapsedMs := 0, operator := none, ttlSeconds := none }

/-- Reads a stored transition. -/
def read : Nat → Json.Reader Transition := Json.readRecord "struct ModeTransition" slots blank

end Transition

/-- An operator's override of the automatic transitions. -/
structure Override where
  mode : Mode
  ttl : Nanos
  operator : String
  reason : String
  start : Nanos
deriving DecidableEq, Repr, Inhabited

namespace Override

/-- More than the override's whole time has passed. -/
def isExpired (o : Override) (now : Nanos) : Bool := o.ttl < now - o.start

/-- The time that is left. -/
def remaining (o : Override) (now : Nanos) : Nanos := o.ttl - (now - o.start)

end Override

end Failsafe
