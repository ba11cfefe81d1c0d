import Failsafe.Signal
/-
  The permission gate: where the mode and stage are pushed for those who grant permissions.

  A gate either ignores what it is told or keeps the latest posture for observers to watch. An
  observer learns whether anything was pushed since it last looked, even an equal posture.
-/

namespace Failsafe

/-- A permission gate. -/
inductive Gate where
  /-- ignores what it is told -/
  | idle
  /-- keeps the latest posture and counts the pushes -/
  | watched (current : Posture) (version : Nat)
deriving DecidableEq, Repr, Inhabited

namespace Gate

/-- A gate to be watched, before anything is pushed to it. -/
def watch (mode : Mode) : Gate := .watched (mode, none) 0

/-- What an idle gate logs. -/
def ignored (p : Posture) : Log.Record :=
  ⟨.debug, "ploy_sentinel::coordination::gate", "NoopGate update ignored",
    [("mode", .word p.1.name), ("stage", .word (Stage.labelOption p.2))]⟩

/-- The gate after a push, and what it logs. -/
def push (p : Posture) : Gate → Gate × List Log.Record
  | idle => (idle, [ignored p])
  | watched _ version => (watched p (version + 1), [])

/-- The number of pushes so far. -/
def version : Gate → Nat
  | idle => 0
  | watched _ v => v

/-- The latest posture. -/
def current? : Gate → Option Posture
  | idle => none
  | watched p _ => some p

end Gate

end Failsafe
