import Failsafe.Settings.Basic
/-
  The control plane: breakers, state service, recovery and write buffer, wired together.

  Reports on a dependency go to its breaker; a change of level is offered to the bus and
  submitted to the state service. A dependency that heals asks for `normal` only when every
  breaker is healthy. A broker that reconnects also starts a recovery. A write that finds the
  buffer full is reported as an event of its own.
-/

namespace Failsafe

/-- One breaker per dependency. -/
structure Breakers where
  broker : Breaker
  marketData : Breaker
  risk : Breaker
  database : Breaker
deriving DecidableEq, Repr, Inhabited

namespace Breakers

/-- Healthy breakers with the given thresholds. -/
def new (s : BreakerSettings) : Breakers :=
  ⟨.new .broker s.broker, .new .marketData s.marketData, .new .risk s.risk,
    .new .database s.database⟩

/-- The breaker of a dependency. -/
def get (b : Breakers) : Dependency → Breaker
  | .broker => b.broker
  | .marketData => b.marketData
  | .risk => b.risk
  | .database => b.database

/-- Replaces the breaker of a dependency. -/
def set (b : Breakers) (d : Dependency) (x : Breaker) : Breakers :=
  match d with
  | .broker => { b with broker := x }
  | .marketData => { b with marketData := x }
  | .risk => { b with risk := x }
  | .database => { b with database := x }

/-- The level of a dependency's breaker. -/
def level (b : Breakers) (d : Dependency) : Level := (b.get d).level

/-- The dependencies whose breakers are not healthy. -/
def unhealthy (b : Breakers) : List Dependency :=
  Dependency.all.filter fun d => b.level d ≠ .healthy

/-- The dependencies that have to be healthy for a stage to be passed. -/
def required : Stage → List Dependency
  | .connectBroker => [.broker]
  | .catchUp => [.marketData]
  | .verifyRisk => [.risk]
  | .ready => Dependency.all

/-- The stage check that asks the breakers. -/
def check (b : Breakers) (stage : Stage) : Verdict :=
  if (required stage).all fun d => b.level d = .healthy then .passed else .failed

end Breakers

/-- The control plane. -/
structure ControlPlane where
  settings : Settings
  breakers : Breakers
  recovery : Recovery
  buffer : Buffer
deriving Inhabited

namespace ControlPlane

/-- Where the control plane files its log records. -/
def target : String := "ploy_sentinel::runtime"

/-- A log record of the control plane. -/
def record (level : Log.Level) (message : String) (fields : List (String × Log.Field)) : Signal :=
  .log ⟨level, target, message, fields⟩

/-- The callback for dropped events that must be delivered: it logs them. -/
def logAlarm (e : Event) : Alarm :=
  { logged := [⟨.error, target, "Must-deliver event dropped",
      [("event_type", .word e.kind.name), ("source", .word e.source.name),
        ("reason_code", .word e.reason.name)]⟩]
    panicked := false }

/-- The bus that goes with the control plane. -/
def newBus (s : Settings) : Bus η := .new s.bus (some logAlarm)

/-- Builds the control plane from settings; the write buffer is restored from its log. -/
def assemble (now : Moment) (ids : RunIds) (settings : Settings) (files : Files) :
    Except Error ControlPlane × List Signal :=
  match settings.check with
  | .error e => (.error e, [])
  | .ok () =>
    let service := Service.new now settings.initialMode
    match Buffer.new settings.buffer files with
    | (.error e, signals) => (.error (.io e), service.signals ++ signals)
    | (.ok buffer, signals) =>
      (.ok
        { settings, breakers := .new settings.breakers
          recovery := .new service.state settings.recovery ids, buffer },
        service.signals ++ signals ++ [record .info "Sentinel assembled"
          [("initial_mode", .word settings.initialMode.name),
            ("queue_size", .count settings.bus.queueSize),
            ("wal", .optional settings.buffer.wal)]])

/-- The state service. -/
def service (p : ControlPlane) : Service := p.recovery.service

/-- Does something to the recovery, and the state service in it. -/
def onRecovery (f : Recovery → Step Recovery α) (p : ControlPlane) : Step ControlPlane α :=
  let done := f p.recovery
  ⟨done.answer, { p with recovery := done.state }, done.signals⟩

/-- Does something to the state service. -/
def onService (f : Service → Step Service α) (p : ControlPlane) : Step ControlPlane α :=
  p.onRecovery (·.onService f)

/-- Does something to one breaker, without telling anyone about a change of level. -/
def onBreaker (d : Dependency) (f : Breaker → Step Breaker α) (p : ControlPlane) :
    Step ControlPlane α :=
  let done := f (p.breakers.get d)
  ⟨done.answer, { p with breakers := p.breakers.set d done.state }, done.signals⟩

/-- Submits an event to the state service. -/
def submit (now : Moment) (e : Event) (p : ControlPlane) : Step ControlPlane Outcome :=
  p.onService (·.handle now e)

/-! ## Reports on dependencies -/

/-- Offers a change of level to the bus. -/
def announce (e : Event) : Signal :=
  .offer e [⟨.warn, target, "Breaker event dropped by event bus",
    [("event_type", .word e.kind.name), ("source", .word e.source.name)]⟩]

/-- A list of dependencies, as log fields show it. -/
def labels (l : List Dependency) : String :=
  "[" ++ String.intercalate ", " (l.map Dependency.label) ++ "]"

/-- Submits a change of level, unless it asks for `normal` while some breaker is not healthy. -/
def settle (now : Moment) (e : Event) (p : ControlPlane) : Step ControlPlane Outcome :=
  if e.reason = .allHealthy ∧ p.breakers.unhealthy ≠ [] then
    ⟨.blocked p.service.mode .normal, p,
      [record .info "Breaker recovered, mode held until every dependency is healthy"
        [("source", .word e.source.name),
          ("still_failing", .word (labels p.breakers.unhealthy)),
          ("mode", .word p.service.mode.name)]]⟩
  else p.submit now e

/-- Reports a failed probe of a dependency; the answer is what a change of level led to. -/
def reportFailure (now : Moment) (d : Dependency) (p : ControlPlane) :
    Step ControlPlane (Option Outcome) :=
  let noted := p.onBreaker d (·.recordFailure now)
  match noted.answer with
  | none => ⟨none, noted.state, noted.signals⟩
  | some e =>
    let done := noted.state.settle now e
    ⟨some done.answer, done.state, noted.signals ++ announce e :: done.signals⟩

/-- Whether an outcome calls for a recovery to be started: the system entered `recovering` from
elsewhere, or is in it without a run. -/
def callsForRecovery (o : Outcome) (p : ControlPlane) : Bool :=
  match o.transition? with
  | some t =>
    t.toMode = .recovering && (t.fromMode ≠ .recovering || p.recovery.run?.isNone)
  | none => false

/-- Starts a recovery without an operator, if an outcome calls for it. -/
def followUp (now : Moment) (o : Outcome) (p : ControlPlane) : Step ControlPlane Unit :=
  if p.callsForRecovery o then
    let begun := p.onRecovery (·.start now .auto none)
    match begun.answer with
    | .ok _ => ⟨(), begun.state, begun.signals⟩
    | .error e => ⟨(), begun.state, begun.signals ++
        [record .warn ("Could not start automatic recovery: " ++ e.toError.message) []]⟩
  else ⟨(), p, []⟩

/-- Reports a successful probe of a dependency; the answer is what a change of level led to. -/
def reportSuccess (now : Moment) (d : Dependency) (p : ControlPlane) :
    Step ControlPlane (Option Outcome) :=
  let noted := p.onBreaker d (·.recordSuccess now)
  match noted.answer with
  | none => ⟨none, noted.state, noted.signals⟩
  | some e =>
    let done := noted.state.settle now e
    let followed := done.state.followUp now done.answer
    ⟨some done.answer, followed.state,
      noted.signals ++ announce e :: (done.signals ++ followed.signals)⟩

/-- The level of a dependency as seen from outside: never looser than the global mode. -/
def effectiveLevel (p : ControlPlane) (d : Dependency) : Level :=
  (p.breakers.get d).effective (.ofMode p.service.mode)

/-! ## Recovery -/

/-- The current run, which a drive tries to advance. -/
def driven? (p : ControlPlane) : Option RunId := p.recovery.run?.map Run.id

/-- Advances a run by one stage, the check being answered at once. -/
def advance (now : Moment) (id : RunId) (check : Stage → Verdict) (p : ControlPlane) :
    Step ControlPlane Bool :=
  let opened := p.onRecovery (·.begin now id)
  match opened.answer with
  | .refused => ⟨false, opened.state, opened.signals⟩
  | .check stage =>
    let done := opened.state.onRecovery (·.commit now id stage (check stage))
    ⟨done.answer, done.state, opened.signals ++ done.signals⟩

/-- Tries to advance the current run, its stage being checked against the breakers. -/
def drive (now : Moment) (p : ControlPlane) : Step ControlPlane (Option (RunId × Bool)) :=
  match p.driven? with
  | none => ⟨none, p, []⟩
  | some id =>
    let done := p.advance now id p.breakers.check
    ⟨some (id, done.answer), done.state, done.signals⟩

/-! ## Buffered writes -/

/-- The event of a write that found no room. -/
def overflow (now : Moment) (b : Buffer) : Event :=
  ((Event.new now .bufferOverflow .database .critical .databaseBufferFull).detail
    "entry_count" (.nat b.entries.length)).detail "byte_count" (.nat b.bytes)

/-- Buffers a write that could not reach the database. Without room for it the overflow is
offered to the bus and submitted to the state service, and the answer is `false`. -/
def write (now : Moment) (e : Entry) (files : Files) (p : ControlPlane) :
    Step (ControlPlane × Files) (Except Error Bool) :=
  let added := p.buffer.add e files
  let p := { p with buffer := added.state.1 }
  match added.answer with
  | .ok false =>
    let event := overflow now p.buffer
    let done := p.submit now event
    ⟨.ok false, (done.state, added.state.2), added.signals ++ .offer event [] :: done.signals⟩
  | answer => ⟨answer, (p, added.state.2), added.signals⟩

/-- Flushes the write buffer into a sink. -/
def flush (reply : List Entry → Except Error Unit) (files : Files) (p : ControlPlane) :
    Step (ControlPlane × Files) (Except Error Nat) :=
  let done := p.buffer.flush reply files
  ⟨done.answer, ({ p with buffer := done.state.1 }, done.state.2), done.signals⟩

/-- What is logged when the control plane has shut down. -/
def stoppedRecord (s : BusStats) : Log.Record :=
  ⟨.info, target, "Sentinel stopped",
    [("stats", .word ("BusStats \x7b published: " ++ toString s.published ++ ", delivered: "
      ++ toString s.delivered ++ ", dropped: " ++ toString s.dropped ++ ", handler_failures: "
      ++ toString s.failures ++ " \x7d"))]⟩

end ControlPlane

end Failsafe
