/-
  Operating modes and recovery stages.

  A mode is one of six, from `normal` to `halt`; `Mode.priority` is their severity, and
  conflicts between modes are settled by it (`Mode.mostSevere`, `Mode.permits`). A stage is
  one of the four verification steps of a recovery, in the order in which they are passed.
-/

namespace Failsafe

/-- The system-wide operating mode, from least to most severe. -/
inductive Mode where
  /-- every dependency is healthy -/
  | normal
  /-- a non-critical dependency is impaired -/
  | degraded
  /-- new risk is blocked, existing orders may be managed -/
  | safe
  /-- the broker cannot be reached, only local bookkeeping is possible -/
  | disconnected
  /-- a staged recovery is in progress -/
  | recovering
  /-- nothing is allowed -/
  | halt
deriving DecidableEq, Repr, Inhabited

namespace Mode

/-- Every mode, from least to most severe. -/
def all : List Mode := [normal, degraded, safe, disconnected, recovering, halt]

/-- The severity of a mode; conflicts are settled in favour of the larger one. -/
def priority : Mode → Nat
  | normal => 0
  | degraded => 1
  | safe => 2
  | disconnected => 3
  | recovering => 4
  | halt => 5

/-- The written form of a mode. -/
def name : Mode → String
  | normal => "NORMAL"
  | degraded => "DEGRADED"
  | safe => "SAFE_MODE"
  | disconnected => "SAFE_MODE_DISCONNECTED"
  | recovering => "RECOVERING"
  | halt => "HALT"

/-- The mode of a system that has been told nothing yet. -/
def initial : Mode := disconnected

/-- A move from `m` to `target` is an escalation or a lateral move. -/
def permits (m target : Mode) : Bool := m.priority ≤ target.priority

/-- The more severe of two modes. -/
def mostSevere (a b : Mode) : Mode := if a.priority < b.priority then b else a

end Mode

/-- A verification step of a recovery. -/
inductive Stage where
  | connectBroker
  | catchUp
  | verifyRisk
  | ready
deriving DecidableEq, Repr, Inhabited

namespace Stage

/-- Every stage, in the order in which a recovery passes them. -/
def all : List Stage := [connectBroker, catchUp, verifyRisk, ready]

/-- The stage at which every recovery begins. -/
def first : Stage := connectBroker

/-- The position of a stage in the recovery. -/
def index : Stage → Nat
  | connectBroker => 0
  | catchUp => 1
  | verifyRisk => 2
  | ready => 3

/-- The stage that follows, none after `ready`. -/
def next : Stage → Option Stage
  | connectBroker => some catchUp
  | catchUp => some verifyRisk
  | verifyRisk => some ready
  | ready => none

/-- The written form of a stage. -/
def name : Stage → String
  | connectBroker => "CONNECT_BROKER"
  | catchUp => "CATCHUP_MARKETDATA"
  | verifyRisk => "VERIFY_RISK"
  | ready => "READY"

/-- The diagnostic form of a stage, used in error texts and log fields. -/
def label : Stage → String
  | connectBroker => "ConnectBroker"
  | catchUp => "CatchupMarketdata"
  | verifyRisk => "VerifyRisk"
  | ready => "Ready"

/-- The diagnostic form of a stage that may be absent. -/
def labelOption : Option Stage → String
  | none => "None"
  | some s => "Some(" ++ s.label ++ ")"

end Stage

end Failsafe
