import Failsafe.Service
/-
  The recovery protocol.

  A run leads the system through the stages, each verified by a check, and completes from `ready`
  once it has stayed there long enough. Every run has a number of its own; a command that carries
  another number is refused. A check takes time and is made between two steps: `begin` names the
  stage to be checked, `commit` moves on if the run still stands there. Whatever happens in
  between, the service only takes a stage from the run that agrees with it.
-/

namespace Failsafe

/-- Who asked for a recovery. -/
inductive Trigger where
  | manual
  | auto
deriving DecidableEq, Repr, Inhabited

namespace Trigger

/-- Every trigger. -/
def all : List Trigger := [manual, auto]

/-- The written form of a trigger. -/
def name : Trigger → String
  | manual => "MANUAL"
  | auto => "AUTO"

/-- The triggers by their names. -/
def table : List (String × Trigger) := all.map fun t => (t.name, t)

end Trigger

/-- The number of a recovery run; no run has the number 0. -/
structure RunId where
  number : Nat
deriving DecidableEq, Repr, Inhabited

namespace RunId

/-- The number that no run has. -/
def nil : RunId := ⟨0⟩

/-- The written form of a run's number. -/
def name (id : RunId) : String :=
  if id.number = 0 then "00000000-0000-0000-0000-000000000000" else "run" ++ toString id.number

end RunId

/-- The numbers that runs are given, one after the other; none is given twice. -/
structure RunIds where
  draw : Nat → RunId
  distinct : ∀ m n, draw m = draw n → m = n
  proper : ∀ n, draw n ≠ .nil

namespace RunIds

/-- One, two, three and so on. -/
def counting : RunIds where
  draw n := ⟨n + 1⟩
  distinct _ _ h := Nat.succ.inj (RunId.mk.inj h)
  proper _ := nofun

instance : Inhabited RunIds := ⟨counting⟩

end RunIds

/-- How long a run has to stay at `ready`. -/
structure RecoveryConfig where
  readySeconds : Nat
deriving DecidableEq, Repr, Inhabited

/-- Half a minute. -/
def RecoveryConfig.standard : RecoveryConfig := ⟨30⟩

/-- A recovery attempt. -/
structure Run where
  id : RunId
  trigger : Trigger
  operator : Option String
  stage : Stage
  stageEntered : Nanos
  readySince : Option Nanos
deriving DecidableEq, Repr, Inhabited

/-- The state service together with the current run. -/
structure Recovery where
  service : Service
  config : RecoveryConfig
  /-- the numbers of the runs -/
  ids : RunIds
  run? : Option Run
  /-- how many runs have been started -/
  started : Nat
deriving Inhabited

/-- What the first half of an advance decides. -/
inductive Opening where
  | refused
  /-- the run stands at this stage, which is to be checked -/
  | check (stage : Stage)
deriving DecidableEq, Repr

/-- What a stage check found; one that fails to answer counts as not passed. -/
inductive Verdict where
  | passed
  | failed
  | broken (reason : String)
deriving DecidableEq, Repr

namespace Recovery

/-- Where the protocol files its log records. -/
def target : String := "ploy_sentinel::supervisor::recovery"

/-- A log record of the protocol. -/
def record (level : Log.Level) (message : String) (fields : List (String × Log.Field)) : Signal :=
  .log ⟨level, target, message, fields⟩

/-- An event of the protocol, offered to the bus. -/
def announce (e : Event) : Signal :=
  .offer e [⟨.debug, target, "Recovery event dropped by event bus", []⟩]

/-- The field that names a run. -/
def runField (id : RunId) : String × Log.Field := ("run_id", .word id.name)

/-- No run, and nothing started yet. -/
def new (service : Service) (config : RecoveryConfig) (ids : RunIds) : Recovery :=
  { service, config, ids, run? := none, started := 0 }

/-- Does something to the service alone. -/
def onService (f : Service → Step Service α) (r : Recovery) : Step Recovery α :=
  let done := f r.service
  ⟨done.answer, { r with service := done.state }, done.signals⟩

/-- Starts a run, which supersedes the current one; by hand only with an operator's name. -/
def start (now : Moment) (trigger : Trigger) (operator : Option String) (r : Recovery) :
    Step Recovery (Except Refusal RunId) :=
  if trigger = .manual ∧ operator = none then ⟨.error .operatorRequired, r, []⟩
  else
    let entered :=
      r.service.transition now .recovering (some .first) .recoveryStarted .recovery
    let r := { r with service := entered.state }
    if !entered.answer then ⟨.error .overrideActive, r, entered.signals⟩
    else
      let superseded := match r.run? with
        | some previous => [record .info "Superseding active recovery run"
            [("previous_run", .word previous.id.name),
              ("previous_stage", .word previous.stage.name)]]
        | none => []
      let run : Run :=
        { id := r.ids.draw r.started, trigger, operator, stage := .first
          stageEntered := now.steady, readySince := none }
      { answer := .ok run.id
        state := { r with run? := some run, started := r.started + 1 }
        signals := entered.signals ++ superseded ++
          [record .info "Recovery started"
            [runField run.id, ("trigger", .word trigger.name), ("operator_id", .optional operator)],
          announce (((Event.new now .recoveryStarted .recovery .warning .recoveryStarted).note
            "run_id" run.id.name |>.note "trigger" trigger.name).note
            "operator_id" (operator.getD ""))] }

/-- The run has been at `ready` for as long as it has to. -/
def isStable (r : Recovery) (run : Run) (now : Nanos) : Bool :=
  match run.readySince with
  | some t => decide (Nanos.ofSeconds r.config.readySeconds ≤ now - t)
  | none => false

/-- The first half of an advance: whether the run may move, and from which stage. -/
def begin (now : Moment) (id : RunId) (r : Recovery) : Step Recovery Opening :=
  match r.run? with
  | none => ⟨.refused, r, [record .debug "advance_stage with no active recovery" [runField id]]⟩
  | some run =>
    if run.id ≠ id then
      ⟨.refused, r, [record .debug "advance_stage with stale run id"
        [runField id, ("active", .word run.id.name)]]⟩
    else if run.stage = .ready ∧ !r.isStable run now.steady then
      ⟨.refused, r, [record .debug "READY not yet stable" [runField id]]⟩
    else ⟨.check run.stage, r, []⟩

/-- What is logged about a check that was not passed. -/
def failureSignals (id : RunId) (stage : Stage) : Verdict → List Signal
  | .passed => []
  | .failed => [record .info "Stage check failed, stage unchanged"
      [runField id, ("stage", .word stage.name)]]
  | .broken reason => [record .warn ("Stage check errored: " ++ reason)
      [runField id, ("stage", .word stage.name)],
    record .info "Stage check failed, stage unchanged" [runField id, ("stage", .word stage.name)]]

/-- The run moves on to the next stage, if the service does. -/
def moveOn (now : Moment) (run : Run) (next : Stage) (r : Recovery) : Step Recovery Bool :=
  let moved := r.service.moveStage run.stage next
  let r := { r with service := moved.state }
  match moved.answer with
  | .error e =>
    ⟨false, r, moved.signals ++
      [record .warn ("Cannot advance recovery stage: Invalid state: " ++ e.detail)
        [runField run.id, ("next", .word next.name)]]⟩
  | .ok () =>
    { answer := true
      state := { r with run? := some { run with
        stage := next
        stageEntered := now.steady
        readySince := if next = .ready then some now.steady else run.readySince } }
      signals := moved.signals ++
        [record .info "Recovery stage advanced"
          [runField run.id, ("from", .word run.stage.name), ("to", .word next.name)],
        announce (((Event.new now .recoveryStageAdvanced .recovery .info .recoveryStarted).note
          "run_id" run.id.name |>.note "from_stage" run.stage.name).note "to_stage" next.name)] }

/-- The run ends and the system is `normal`, if the service agrees. -/
def finish (now : Moment) (run : Run) (r : Recovery) : Step Recovery Bool :=
  let completed := r.service.complete now
  let r := { r with service := completed.state }
  if !completed.answer then ⟨false, r, completed.signals⟩
  else
    { answer := true
      state := { r with run? := none }
      signals := completed.signals ++
        [record .info "Recovery completed, system NORMAL" [runField run.id],
        announce ((Event.new now .recoveryCompleted .recovery .info .allHealthy).note
          "run_id" run.id.name)] }

/-- The second half of an advance: moves on if the check was passed and the run still stands
where it was checked. -/
def commit (now : Moment) (id : RunId) (stage : Stage) (verdict : Verdict) (r : Recovery) :
    Step Recovery Bool :=
  if verdict ≠ .passed then ⟨false, r, failureSignals id stage verdict⟩
  else
    let superseded : Step Recovery Bool :=
      ⟨false, r, [record .info "Run superseded while stage check was running"
        [runField id, ("stage", .word stage.name)]]⟩
    match r.run? with
    | none => superseded
    | some run =>
      if run.id ≠ id ∨ run.stage ≠ stage then superseded
      else
        match stage.next with
        | some next => r.moveOn now run next
        | none => r.finish now run

/-- Gives a run up and drops the system to `safe`, if no override stands in the way. -/
def abort (now : Moment) (id : RunId) (reason : String) (r : Recovery) : Step Recovery Bool :=
  let stale : Step Recovery Bool :=
    ⟨false, r, [record .debug "abort_recovery with stale or missing run id" [runField id]]⟩
  match r.run? with
  | none => stale
  | some run =>
    if run.id ≠ id then stale
    else
      let left := r.service.transition now .safe none .recoveryFailed .recovery
      let blocked := if left.answer then [] else
        [record .warn "Abort could not change mode (force override active)" [runField id]]
      { answer := true
        state := { r with service := left.state, run? := none }
        signals := left.signals ++ blocked ++
          [record .warn "Recovery aborted"
            [runField id, ("stage", .word (Stage.labelOption (some run.stage))),
              ("reason", .text reason)],
          announce (((Event.new now .recoveryFailed .recovery .critical .recoveryFailed).note
            "run_id" id.name).note "reason" reason)] }

end Recovery

end Failsafe
