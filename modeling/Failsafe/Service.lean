import Failsafe.Signal
import Failsafe.Text.Blank
/-
  The state service: the single authority on mode and stage.

  Automatic transitions only escalate, except along the two recovery paths. An operator's
  override suppresses them until its time has passed; that is noticed when the override is next
  looked at (`Service.refresh`). Every applied transition is appended to the history, pushed to
  the gate and then offered to the bus. A stage is present exactly while the mode is
  `recovering`.
-/

namespace Failsafe

/-- The mode and stage of the system, how it came to them, and the override in force. -/
structure Service where
  mode : Mode
  stage : Option Stage
  /-- every transition, oldest first -/
  history : List Transition
  override? : Option Override
  /-- when the service was created -/
  created : Nanos
deriving Repr, Inhabited

/-- What became of an event submitted to the service. -/
inductive Outcome where
  | applied (t : Transition)
  /-- ignored because an override is active -/
  | suppressed
  /-- rejected because it would lower the severity -/
  | blocked (current target : Mode)
deriving DecidableEq, Repr

namespace Outcome

/-- The transition, if one was made. -/
def transition? : Outcome → Option Transition
  | applied t => some t
  | _ => none

/-- A transition was made. -/
def isApplied (o : Outcome) : Bool := o.transition?.isSome

end Outcome

/-- What operators and monitors see of an override. -/
structure OverrideView where
  mode : Mode
  operator : String
  reason : String
  remaining : Nanos
deriving DecidableEq, Repr

/-- What operators and monitors see of the service. -/
structure Snapshot where
  mode : Mode
  stage : Option Stage
  override? : Option OverrideView
  transitions : Nat
deriving DecidableEq, Repr

namespace Service

/-- Where the service files its log records. -/
def target : String := "ploy_sentinel::coordination::state_service"

/-- A log record of the service. -/
def record (level : Log.Level) (message : String) (fields : List (String × Log.Field)) : Signal :=
  .log ⟨level, target, message, fields⟩

/-- The stage of a system that enters `mode` when it stands at `stage`. -/
def stageIn (mode : Mode) (stage : Option Stage) : Option Stage :=
  if mode = .recovering then some (stage.getD .first) else none

/-- A new service; the gate learns its mode. -/
def new (now : Moment) (mode : Mode) : Step Service Unit :=
  let stage := stageIn mode none
  { answer := ()
    state := { mode, stage, history := [], override? := none, created := now.steady }
    signals := [.push (mode, stage),
      record .info "System state service initialized" [("mode", .word mode.name)]] }

/-! ## Overrides -/

/-- Forgets an override whose time has passed; the answer tells whether one is in force. -/
def refresh (now : Moment) (s : Service) : Step Service Bool :=
  match s.override? with
  | none => ⟨false, s, []⟩
  | some o =>
    if o.isExpired now.steady then
      ⟨false, { s with override? := none },
        [record .info "Force override expired"
          [("mode", .word o.mode.name), ("operator_id", .word o.operator),
            ("ttl_secs", .count (Nanos.seconds o.ttl))]]⟩
    else ⟨true, s, []⟩

/-! ## Transitions -/

/-- A requested change of mode. -/
structure Request where
  mode : Mode
  stage : Option Stage
  reason : Reason
  source : Source
  kind : EventKind := .modeChanged
  operator : Option String := none
  ttlSeconds : Option Nat := none

/-- The severity of the event that announces a transition to a mode. -/
def severityOf : Mode → Severity
  | .normal => .info
  | .halt => .critical
  | _ => .warning

/-- The event that announces a transition. -/
def announcement (now : Moment) (t : Transition) (stage : Option Stage) (kind : EventKind) :
    Event :=
  let e := ((Event.new now kind .stateService (severityOf t.toMode) t.reason).note
    "from_mode" t.fromMode.name).note "to_mode" t.toMode.name |>.note "origin" t.source.name
  let e := match stage with
    | some s => e.note "stage" s.name
    | none => e
  match t.operator with
  | some o => e.note "operator_id" o
  | none => e

/-- Makes a transition, whatever the mode and the override. -/
def apply (now : Moment) (r : Request) (s : Service) : Step Service Transition :=
  let t : Transition :=
    { fromMode := s.mode, toMode := r.mode, reason := r.reason, source := r.source
      wall := now.wall, elapsedMs := Nanos.millis (now.steady - s.created) % Width.bound 64
      operator := r.operator, ttlSeconds := r.ttlSeconds }
  { answer := t
    state := { s with mode := r.mode, stage := r.stage, history := s.history ++ [t] }
    signals :=
      [.push (r.mode, r.stage),
        record .info "Mode transition"
          [("from", .word t.fromMode.name), ("to", .word t.toMode.name),
            ("stage", .word (Stage.labelOption r.stage)), ("reason_code", .word t.reason.name),
            ("source", .word t.source.name)],
        .offer (announcement now t r.stage r.kind)
          [⟨.warn, target, "Mode change event dropped by event bus; transition stands",
            [("to", .word t.toMode.name)]⟩]] }

/-- Submits an event to the decision matrix. -/
def handle (now : Moment) (e : Event) (s : Service) : Step Service Outcome :=
  let fresh := s.refresh now
  let s := fresh.state
  let goal := e.reason.target
  if fresh.answer then
    ⟨.suppressed, s, fresh.signals ++ [record .info "Force override active, event ignored"
      [("reason_code", .word e.reason.name), ("source", .word e.source.name)]]⟩
  else if !s.mode.permits goal && !e.reason.isRecoveryPath then
    ⟨.blocked s.mode goal, s,
      fresh.signals ++ [record .debug "Transition blocked by escalate-only policy"
        [("current", .word s.mode.name), ("target", .word goal.name),
          ("reason_code", .word e.reason.name), ("source", .word e.source.name)]]⟩
  else
    let made := s.apply now
      { mode := goal, stage := stageIn goal s.stage, reason := e.reason, source := e.source }
    ⟨.applied made.answer, made.state, fresh.signals ++ made.signals⟩

/-- An operator pins the mode for a number of seconds, replacing any override. -/
def force (now : Moment) (mode : Mode) (ttlSeconds : Nat) (operator reason : String)
    (s : Service) : Step Service (Except Refusal Transition) :=
  if Text.isBlank operator then ⟨.error .emptyOperator, s, []⟩
  else if Text.isBlank reason then ⟨.error .emptyReason, s, []⟩
  else if ttlSeconds = 0 then ⟨.error .zeroTtl, s, []⟩
  else
    let replaced := match s.override? with
      | some o => [record .info "Replacing existing force override"
          [("previous_mode", .word o.mode.name), ("previous_operator", .word o.operator)]]
      | none => []
    let made := s.apply now
      { mode, stage := stageIn mode s.stage, reason := .manualOverride, source := .operator
        kind := .manualOverride, operator := some operator, ttlSeconds := some ttlSeconds }
    let pinned : Override :=
      { mode, ttl := Nanos.ofSeconds ttlSeconds, operator, reason, start := now.steady }
    { answer := .ok made.answer
      state := { made.state with override? := some pinned }
      signals := replaced ++ made.signals ++ [record .warn "Force override engaged"
        [("mode", .word mode.name), ("ttl_seconds", .count ttlSeconds),
          ("operator_id", .text operator), ("reason", .text reason)]] }

/-- An operator ends the override in force; the answer tells whether there was one. -/
def clear (now : Moment) (operator : String) (s : Service) :
    Step Service (Except Refusal Bool) :=
  if Text.isBlank operator then ⟨.error .emptyOperator, s, []⟩
  else
    let fresh := s.refresh now
    match fresh.answer, fresh.state.override? with
    | true, some o =>
      { answer := .ok true
        state := { fresh.state with override? := none }
        signals := fresh.signals ++ [record .info "Force override cleared"
          [("mode", .word o.mode.name), ("set_by", .word o.operator),
            ("cleared_by", .text operator)]] }
    | active, _ => ⟨.ok active, fresh.state, fresh.signals⟩

/-! ## Recovery -/

/-- Sets the stage of an ongoing recovery. -/
def setStage (stage : Stage) (s : Service) : Step Service (Except Refusal Unit) :=
  if s.mode ≠ .recovering then ⟨.error (.stageOutside stage s.mode), s, []⟩
  else
    { answer := .ok ()
      state := { s with stage := some stage }
      signals := [.push (s.mode, some stage), record .info "Recovery stage updated"
        [("previous", .word (Stage.labelOption s.stage)), ("stage", .word stage.name)]] }

/-- Moves an ongoing recovery from one stage to another, if it stands at the first. -/
def moveStage (source target : Stage) (s : Service) : Step Service (Except Refusal Unit) :=
  if s.mode ≠ .recovering ∨ s.stage ≠ some source then
    ⟨.error (.stageMoved source target s.mode s.stage), s, []⟩
  else
    { answer := .ok ()
      state := { s with stage := some target }
      signals := [.push (s.mode, some target), record .info "Recovery stage advanced"
        [("from", .word source.name), ("to", .word target.name)]] }

/-- Leaves a recovery that stands at `ready` for `normal`; the answer tells whether it did. -/
def complete (now : Moment) (s : Service) : Step Service Bool :=
  let fresh := s.refresh now
  let s := fresh.state
  if fresh.answer then
    ⟨false, s,
      fresh.signals ++ [record .warn "Force override active, recovery completion suppressed" []]⟩
  else if s.mode ≠ .recovering ∨ s.stage ≠ some .ready then
    ⟨false, s, fresh.signals ++
      [record .warn "Recovery completion rejected, system is not RECOVERING at READY"
        [("mode", .word s.mode.name), ("stage", .word (Stage.labelOption s.stage))]]⟩
  else
    let made := s.apply now
      { mode := .normal, stage := none, reason := .allHealthy, source := .recovery }
    ⟨true, made.state, fresh.signals ++ made.signals⟩

/-- A transition requested by the recovery protocol; only an override stands in its way. -/
def transition (now : Moment) (mode : Mode) (stage : Option Stage) (reason : Reason)
    (source : Source) (s : Service) : Step Service Bool :=
  let fresh := s.refresh now
  let s := fresh.state
  if fresh.answer then
    ⟨false, s, fresh.signals ++
      [record .warn "Force override active, recovery transition suppressed"
        [("mode", .word mode.name), ("reason_code", .word reason.name)]]⟩
  else
    let made := s.apply now
      { mode, stage := stageIn mode (stage.or s.stage), reason, source }
    ⟨true, made.state, fresh.signals ++ made.signals⟩

/-! ## Views -/

/-- What operators and monitors see; an expired override is forgotten first. -/
def snapshot (now : Moment) (s : Service) : Step Service Snapshot :=
  let fresh := s.refresh now
  let s := fresh.state
  { answer :=
      { mode := s.mode, stage := s.stage, transitions := s.history.length
        override? := s.override?.map fun o =>
          { mode := o.mode, operator := o.operator, reason := o.reason
            remaining := o.remaining now.steady } }
    state := s
    signals := fresh.signals }

end Service

end Failsafe
