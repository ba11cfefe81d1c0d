import Failsafe.Bus
import Failsafe.Gate
/-
  What surrounds the control decisions: the gate, the bus, the files and the log.

  `Surroundings.absorb` carries out the signals of a decision in order. It only consumes them:
  nothing that happens here is seen by the decision.
-/

namespace Failsafe

/-- The gate, the bus, the files and the log. -/
structure Surroundings (η : Type) where
  gate : Gate
  bus? : Option (Bus η)
  files : Files
  /-- the log records so far -/
  log : List Log.Record
  /-- the pushes to the gate so far -/
  pushes : List Posture
  /-- the events given to the emergency callback so far -/
  alarms : List Event

namespace Surroundings

variable {η : Type}

/-- Logs some records. -/
def record (s : Surroundings η) (l : List Log.Record) : Surroundings η :=
  { s with log := s.log ++ l }

/-- Publishes an event, if there is a bus; the answer tells whether it was dropped. -/
def publish (now : Moment) (e : Event) (s : Surroundings η) : Surroundings η × Bool :=
  match s.bus? with
  | none => (s, false)
  | some bus =>
    let p := bus.publish now e s.files
    ({ s with
        bus? := some p.bus
        files := p.files
        log := s.log ++ p.logged
        alarms := s.alarms ++ p.alarm?.toList }, !p.accepted)

/-- Carries out one signal. -/
def absorbOne (now : Moment) (s : Surroundings η) : Signal → Surroundings η
  | .log r => s.record [r]
  | .push p =>
    let (gate, logged) := s.gate.push p
    { s with gate, pushes := s.pushes ++ [p], log := s.log ++ logged }
  | .offer e ifDropped =>
    let (s, dropped) := s.publish now e
    if dropped then s.record ifDropped else s

/-- Carries out signals in order. -/
def absorb (now : Moment) (s : Surroundings η) (l : List Signal) : Surroundings η :=
  l.foldl (absorbOne now) s

/-- Does something to the bus, if there is one. -/
def onBus (f : Bus η → Bus η × List Log.Record) (s : Surroundings η) : Surroundings η :=
  match s.bus? with
  | none => s
  | some bus =>
    let (bus, logged) := f bus
    { s with bus? := some bus, log := s.log ++ logged }

end Surroundings

end Failsafe
