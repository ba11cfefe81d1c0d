import Failsafe.Files
import Failsafe.Signal
/-
  The event bus: a bounded queue between those who publish events and those who subscribe.

  Publishing never waits. An event that finds the queue full, or the bus closed, is dropped: it
  is counted, a line about it goes to the fallback log, and for the kinds that must be delivered
  the emergency callback is called. A dispatcher takes the events in order and hands each to
  everyone who was subscribed when it was taken; its work is a sequence of small steps (`take`,
  `handled`, `delivered`), so that others may act in between.
-/

namespace Failsafe

/-- The size of the queue and what happens to dropped events. -/
structure BusConfig where
  queueSize : Nat
  /-- a text file with a line for every dropped event -/
  fallbackLog : Option String
  /-- kinds whose loss calls the emergency callback -/
  mustDeliver : List EventKind
deriving DecidableEq, Repr, Inhabited

namespace BusConfig

/-- Room for 1024 events; trips, mode changes and failed recoveries must be delivered. -/
def standard : BusConfig := ⟨1024, none, [.breakerTripped, .modeChanged, .recoveryFailed]⟩

/-- What is wrong with the configuration. -/
def problem? (c : BusConfig) : Option String :=
  if c.queueSize = 0 then some "event_bus.queue_size must be greater than 0" else none

end BusConfig

/-- Whether events are being dispatched. -/
inductive Dispatcher where
  | idle
  | running
  /-- told to stop, but still delivering an event -/
  | stopping
  /-- ended by a failure that nobody has noticed yet -/
  | crashed (reason : String)
  /-- lost for good -/
  | detached
deriving DecidableEq, Repr, Inhabited

/-- A subscriber and the name under which it is logged. -/
structure Subscriber (η : Type) where
  name : String
  handler : η

/-- An event being delivered, and the subscribers that have not had it yet. -/
structure Delivery (η : Type) where
  event : Event
  waiting : List (Subscriber η)

/-- How a subscriber took an event. -/
inductive Handling where
  | ok
  | failed (reason : String)
  | panicked
deriving DecidableEq, Repr

/-- What an emergency callback did. -/
structure Alarm where
  logged : List Log.Record
  panicked : Bool

/-- The bus's counters. -/
structure BusStats where
  published : Nat
  delivered : Nat
  dropped : Nat
  failures : Nat
deriving DecidableEq, Repr, Inhabited

/-- An event bus with subscribers of type `η`. -/
structure Bus (η : Type) where
  config : BusConfig
  /-- the callback for dropped events that must be delivered -/
  emergency : Option (Event → Alarm)
  queue : List Event
  dispatcher : Dispatcher
  delivery? : Option (Delivery η)
  subscribers : List (Subscriber η)
  stats : BusStats

/-- What came of an attempt to publish. -/
structure Publication (η : Type) where
  accepted : Bool
  bus : Bus η
  files : Files
  /-- the event given to the emergency callback -/
  alarm? : Option Event
  logged : List Log.Record

namespace Bus

variable {η : Type}

/-- Where the bus files its log records. -/
def target : String := "ploy_sentinel::services::event_bus"

/-- A bus without subscribers, not dispatching yet. -/
def new (config : BusConfig) (emergency : Option (Event → Alarm)) : Bus η :=
  { config, emergency, queue := [], dispatcher := .idle, delivery? := none, subscribers := []
    stats := ⟨0, 0, 0, 0⟩ }

/-- How many events may wait. -/
def capacity (b : Bus η) : Nat := max b.config.queueSize 1

/-- How many events wait. -/
def pending (b : Bus η) : Nat := b.queue.length

/-- The dispatcher has not been lost. -/
def isOpen (b : Bus η) : Bool :=
  match b.dispatcher with
  | .crashed _ | .detached => false
  | _ => true

/-- The bus is believed to be dispatching. -/
def isRunning (b : Bus η) : Bool :=
  match b.dispatcher with
  | .idle | .detached => false
  | _ => true

/-- The loss of events of this kind calls the emergency callback. -/
def isMustDeliver (b : Bus η) (k : EventKind) : Bool := b.config.mustDeliver.contains k

/-! ## Publishing -/

/-- The line of the fallback log about a dropped event. -/
def fallbackLine (now : Moment) (e : Event) : String :=
  now.wall.display ++ " QueueFull source=" ++ e.source.name ++ " event_type=" ++ e.kind.name
    ++ " reason_code=" ++ e.reason.name ++ " severity=" ++ e.severity.name ++ "\n"

/-- Writes the line about a dropped event, and logs a failure to do so. -/
def writeFallback (now : Moment) (e : Event) (files : Files) (b : Bus η) :
    Files × List Log.Record :=
  match b.config.fallbackLog with
  | none => (files, [])
  | some path =>
    match files.appendMaking path (Bytes.encode (fallbackLine now e).toList) with
    | .ok files => (files, [])
    | .error f files => (files, [⟨.error, target,
        "Failed to append to fallback log " ++ path ++ ": " ++ f.message, []⟩])

/-- The field that names an event's kind. -/
def kindField (e : Event) : String × Log.Field := ("event_type", .word e.kind.name)

/-- Calls the emergency callback about a dropped event, if its kind asks for it. -/
def raiseAlarm (e : Event) (b : Bus η) : Option Event × List Log.Record :=
  if !b.isMustDeliver e.kind then (none, [])
  else
    match b.emergency with
    | none => (none, [⟨.warn, target,
        "Must-deliver event dropped with no emergency callback registered", [kindField e]⟩])
    | some call =>
      let alarm := call e
      (some e, alarm.logged ++ (if alarm.panicked then
        [⟨.error, target, "Emergency callback panicked", [kindField e]⟩] else []))

/-- Publishes an event, or drops it. -/
def publish (now : Moment) (e : Event) (files : Files) (b : Bus η) : Publication η :=
  if b.isOpen && decide (b.pending < b.capacity) then
    { accepted := true
      bus := { b with
        queue := b.queue ++ [e]
        stats := { b.stats with published := b.stats.published + 1 } }
      files, alarm? := none, logged := [] }
  else
    let b := { b with stats := { b.stats with dropped := b.stats.dropped + 1 } }
    let (files, failed) := b.writeFallback now e files
    let (alarm?, alarmed) := b.raiseAlarm e
    { accepted := false, bus := b, files, alarm?
      logged := ⟨.warn, target, "Event bus queue full, event dropped",
          [("source", .word e.source.name), kindField e, ("reason_code", .word e.reason.name),
            ("dropped", .count b.stats.dropped)]⟩ :: (failed ++ alarmed) }

/-! ## Subscribing, starting and stopping -/

/-- Adds a subscriber, from the next event that is taken. -/
def subscribe (s : Subscriber η) (b : Bus η) : Bus η × List Log.Record :=
  ({ b with subscribers := b.subscribers ++ [s] },
    [⟨.debug, target, "Event bus subscriber registered: " ++ s.name, []⟩])

/-- Starts the dispatcher, unless it runs or is lost. -/
def start (b : Bus η) : Bus η × List Log.Record :=
  match b.dispatcher with
  | .idle => ({ b with dispatcher := .running },
      [⟨.info, target, "Event bus dispatch started", []⟩])
  | .detached => (b, [⟨.warn, target, "Event bus cannot start: dispatch channel was lost", []⟩])
  | _ => (b, [])

/-- What is logged when the dispatcher has stopped. -/
def stoppedRecord : Log.Record := ⟨.info, target, "Event bus dispatch stopped", []⟩

/-- Stops the dispatcher once it has delivered the event it is at. Queued events stay queued. -/
def stop (b : Bus η) : Bus η × List Log.Record :=
  match b.dispatcher with
  | .running =>
    if b.delivery?.isSome then ({ b with dispatcher := .stopping }, [])
    else ({ b with dispatcher := .idle }, [stoppedRecord])
  | .crashed reason => ({ b with dispatcher := .detached },
      [⟨.error, target, "Event bus dispatch task failed: " ++ reason, []⟩])
  | _ => (b, [])

/-! ## Dispatching -/

/-- The dispatcher takes the next event, for those subscribed at this moment. -/
def take? (b : Bus η) : Option (Bus η) :=
  match b.dispatcher, b.delivery?, b.queue with
  | .running, none, e :: rest =>
    some { b with queue := rest, delivery? := some ⟨e, b.subscribers⟩ }
  | _, _, _ => none

/-- The next subscriber to have the event that is being delivered. -/
def next? (b : Bus η) : Option (Event × Subscriber η) :=
  match b.delivery? with
  | some ⟨e, s :: _⟩ => some (e, s)
  | _ => none

/-- The next subscriber has taken the event. -/
def handled (h : Handling) (b : Bus η) : Bus η × List Log.Record :=
  match b.delivery? with
  | some ⟨e, s :: rest⟩ =>
    let b := { b with delivery? := some ⟨e, rest⟩ }
    let failing := { b with stats := { b.stats with failures := b.stats.failures + 1 } }
    let fields := [("handler", Log.Field.text s.name), kindField e]
    match h with
    | .ok => (b, [])
    | .failed reason =>
      (failing, [⟨.error, target, "Event handler failed: " ++ reason, fields⟩])
    | .panicked => (failing, [⟨.error, target, "Event handler panicked", fields⟩])
  | _ => (b, [])

/-- Every subscriber has had the event. -/
def delivered (b : Bus η) : Bus η × List Log.Record :=
  match b.delivery? with
  | some ⟨_, []⟩ =>
    let b := { b with
      delivery? := none
      stats := { b.stats with delivered := b.stats.delivered + 1 } }
    match b.dispatcher with
    | .stopping => ({ b with dispatcher := .idle }, [stoppedRecord])
    | _ => (b, [])
  | _ => (b, [])

/-- The dispatcher ends in the middle of a delivery; everything queued is lost. -/
def crash (reason : String) (b : Bus η) : Bus η :=
  { b with queue := [], delivery? := none, dispatcher := .crashed reason }

end Bus

end Failsafe
