import Failsafe.Log
import Failsafe.Transition
/-
  What a control decision tells the outside world.

  Decisions are functions of the state and the time. Each returns its answer, the state after it
  and its signals in order: log records, pushes to the permission gate and events offered to the
  event bus. Nothing comes back from a signal, so no decision can depend on what became of it.
-/

namespace Failsafe

/-- The mode and stage as pushed to the permission gate. -/
abbrev Posture := Mode × Option Stage

/-- One thing that a control decision tells the outside world. -/
inductive Signal where
  | log (r : Log.Record)
  /-- the permission gate learns the mode and stage -/
  | push (p : Posture)
  /-- the event is offered to the bus; if the bus drops it, the records are logged -/
  | offer (e : Event) (ifDropped : List Log.Record)

/-- An answer, the state after it and the signals sent on the way. -/
structure Step (σ α : Type) where
  answer : α
  state : σ
  signals : List Signal

namespace Signal

/-- The pushes among the signals. -/
def pushes (l : List Signal) : List Posture :=
  l.filterMap fun | push p => some p | _ => none

/-- The events offered to the bus among the signals. -/
def offers (l : List Signal) : List Event :=
  l.filterMap fun | offer e _ => some e | _ => none

end Signal

/-- Why a command of an operator or of a caller is refused. -/
inductive Refusal where
  | emptyOperator
  | emptyReason
  | zeroTtl
  | operatorRequired
  | overrideActive
  | stageOutside (stage : Stage) (mode : Mode)
  | stageMoved (source target : Stage) (mode : Mode) (stage : Option Stage)
deriving DecidableEq, Repr

namespace Refusal

/-- The command itself was malformed, rather than sent at the wrong time. -/
def isValidation : Refusal → Bool
  | emptyOperator | emptyReason | zeroTtl | operatorRequired => true
  | overrideActive | stageOutside .. | stageMoved .. => false

/-- The text of a refusal. -/
def detail : Refusal → String
  | emptyOperator => "operator_id must not be empty"
  | emptyReason => "reason must not be empty"
  | zeroTtl => "ttl_seconds must be greater than 0"
  | operatorRequired => "manual recovery requires an operator_id"
  | overrideActive => "force override active, cannot enter RECOVERING"
  | stageOutside stage mode =>
    "cannot set recovery stage " ++ stage.name ++ " while mode is " ++ mode.name
  | stageMoved source target mode stage =>
    "cannot move recovery stage " ++ source.name ++ " -> " ++ target.name ++ " while mode is "
      ++ mode.name ++ " at stage " ++ Stage.labelOption stage

end Refusal

end Failsafe
