import Failsafe.Mode
/-
  The causes of events and transitions, and the decision matrix that maps each cause to the
  mode it asks for.

  `Reason.isRecoveryPath` names the two causes that may lower the severity: everything healthy
  leads back to `normal`, a reconnected broker leads into `recovering`.
-/

namespace Failsafe

/-- The cause attached to every event and every transition. -/
inductive Reason where
  | coldStart
  | allHealthy
  | brokerUnstable
  | brokerDisconnect
  | brokerReconnected
  | dataDelayed
  | dataStale
  | riskEngineSlow
  | riskEngineDown
  | riskBreachSoft
  | riskBreachHard
  | databaseSlow
  | databaseWriteFail
  | databaseBufferFull
  | alertChannelDown
  | reconcileMismatch
  | recoveryStarted
  | recoveryFailed
  | manualHalt
  | manualOverride
deriving DecidableEq, Repr, Inhabited

namespace Reason

/-- Every cause, in the order in which they are listed to operators. -/
def all : List Reason :=
  [coldStart, allHealthy, brokerUnstable, brokerDisconnect, brokerReconnected, dataDelayed,
    dataStale, riskEngineSlow, riskEngineDown, riskBreachSoft, riskBreachHard, databaseSlow,
    databaseWriteFail, databaseBufferFull, alertChannelDown, reconcileMismatch, recoveryStarted,
    recoveryFailed, manualHalt, manualOverride]

/-- The decision matrix: the mode that a cause asks the system to enter. -/
def target : Reason → Mode
  | coldStart => .disconnected
  | allHealthy => .normal
  | brokerUnstable => .degraded
  | brokerDisconnect => .disconnected
  | brokerReconnected => .recovering
  | dataDelayed => .degraded
  | dataStale => .safe
  | riskEngineSlow => .degraded
  | riskEngineDown => .safe
  | riskBreachSoft => .degraded
  | riskBreachHard => .halt
  | databaseSlow => .degraded
  | databaseWriteFail => .degraded
  | databaseBufferFull => .safe
  | alertChannelDown => .degraded
  | reconcileMismatch => .safe
  | recoveryStarted => .recovering
  | recoveryFailed => .safe
  | manualHalt => .halt
  | manualOverride => .halt

/-- The causes that may lower the severity of the system. -/
def isRecoveryPath : Reason → Bool
  | allHealthy => true
  | brokerReconnected => true
  | _ => false

/-- The written form of a cause. -/
def name : Reason → String
  | coldStart => "COLD_START"
  | allHealthy => "ALL_HEALTHY"
  | brokerUnstable => "BROKER_UNSTABLE"
  | brokerDisconnect => "BROKER_DISCONNECT"
  | brokerReconnected => "BROKER_RECONNECTED"
  | dataDelayed => "MD_DELAYED"
  | dataStale => "MD_STALE"
  | riskEngineSlow => "RISK_ENGINE_SLOW"
  | riskEngineDown => "RISK_ENGINE_DOWN"
  | riskBreachSoft => "RISK_BREACH_SOFT"
  | riskBreachHard => "RISK_BREACH_HARD"
  | databaseSlow => "DB_SLOW"
  | databaseWriteFail => "DB_WRITE_FAIL"
  | databaseBufferFull => "DB_BUFFER_FULL"
  | alertChannelDown => "ALERT_CHANNEL_DOWN"
  | reconcileMismatch => "RECONCILE_MISMATCH"
  | recoveryStarted => "RECOVERY_STARTED"
  | recoveryFailed => "RECOVERY_FAILED"
  | manualHalt => "MANUAL_HALT"
  | manualOverride => "MANUAL_OVERRIDE"

end Reason

end Failsafe
