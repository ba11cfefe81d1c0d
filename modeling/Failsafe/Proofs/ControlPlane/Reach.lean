import Failsafe.Proofs.ControlPlane.Calls
import Failsafe.Proofs.Recovery.Races
import Failsafe.Proofs.Service.Overrides
/-
  Whatever is done to the state service, it is done by its own calls.

  A move is a call of the control plane or an action on its recovery or its state service alone.
  A move that is no operator's command on an override changes the service by calls none of which
  is one either (`reaches_perform`), so that what these preserve, every such move preserves.
-/

namespace Failsafe

namespace Service

theorem reaches_refl (now : Moment) (s : Service) : Reaches now s s := .refl

theorem reaches_call (now : Moment) (s : Service) {c : Call} (h : c.isOverriding = false) :
    Reaches now s (c.perform now s) := .single ⟨c, h, rfl⟩

end Service

namespace Recovery

open Service (Reaches reaches_refl reaches_call)

section
variable (now : Moment) (r : Recovery)

theorem reaches_start (trigger : Trigger) (operator : Option String) :
    Reaches now r.service (r.start now trigger operator).state.service := by
  have ht := reaches_call now r.service (c := .transition .recovering (some .first)
    .recoveryStarted .recovery) rfl
  unfold start
  split
  · exact reaches_refl now _
  · dsimp only
    split <;> exact ht

theorem reaches_moveOn (run : Run) (next : Stage) :
    Reaches now r.service (r.moveOn now run next).state.service := by
  have hm := reaches_call now r.service (c := .moveStage run.stage next) rfl
  unfold moveOn
  dsimp only
  split <;> exact hm

theorem reaches_finish (run : Run) :
    Reaches now r.service (r.finish now run).state.service := by
  have hc := reaches_call now r.service (c := .complete) rfl
  unfold finish
  dsimp only
  split <;> exact hc

theorem reaches_commit (id : RunId) (stage : Stage) (verdict : Verdict) :
    Reaches now r.service (r.commit now id stage verdict).state.service := by
  unfold commit
  split
  · exact reaches_refl now _
  dsimp only
  split
  · exact reaches_refl now _
  split
  · exact reaches_refl now _
  split
  · exact reaches_moveOn now r _ _
  · exact reaches_finish now r _

theorem reaches_abort (id : RunId) (reason : String) :
    Reaches now r.service (r.abort now id reason).state.service := by
  have ht := reaches_call now r.service (c := .transition .safe none .recoveryFailed .recovery) rfl
  unfold abort
  dsimp only
  split
  · exact reaches_refl now _
  split
  · exact reaches_refl now _
  · exact ht

end

end Recovery

namespace ControlPlane

open Service (Reaches reaches_refl reaches_call)

/-- A call of the control plane, or an action on its recovery or its state service alone. -/
inductive Move where
  | call (c : Call)
  | action (a : Recovery.Action)

namespace Move

/-- The control plane and the files after a move. -/
def perform (now : Moment) (s : ControlPlane × Files) : Move → ControlPlane × Files
  | call c => c.perform now s
  | action a => ({ s.1 with recovery := a.perform now s.1.recovery }, s.2)

/-- An operator sets an override by such a move. -/
def isForce : Move → Bool
  | call (.force ..) => true
  | action (.call c) => c.isForce
  | _ => false

/-- An operator sets or ends an override by such a move. -/
def isOverriding : Move → Bool
  | call (.force ..) | call (.clear _) => true
  | action (.call c) => c.isOverriding
  | _ => false

end Move

/-- The control plane and the files after some moves, each made at its own moment. -/
def play (s : ControlPlane × Files) (moves : List (Moment × Move)) : ControlPlane × Files :=
  moves.foldl (fun s m => m.2.perform m.1 s) s

theorem play_cons (s : ControlPlane × Files) (m : Moment × Move) (moves : List (Moment × Move)) :
    play s (m :: moves) = play (m.2.perform m.1 s) moves := List.foldl_cons ..

section
variable (now : Moment) (p : ControlPlane)

theorem reaches_submit (e : Event) : Reaches now p.service (p.submit now e).state.service :=
  reaches_call now p.service (c := .handle e) rfl

theorem reaches_settle (e : Event) : Reaches now p.service (p.settle now e).state.service := by
  rcases p.settle_cases now e with ⟨h, -⟩ | h <;> rw [h]
  · exact reaches_refl now _
  · exact reaches_submit now p e

theorem reaches_followUp (o : Outcome) :
    Reaches now p.service (p.followUp now o).state.service := by
  rcases p.followUp_cases now o with ⟨-, h⟩ | ⟨-, h⟩ <;> rw [h]
  · exact p.recovery.reaches_start now .auto none
  · exact reaches_refl now _

theorem reaches_reportFailure (d : Dependency) :
    Reaches now p.service (p.reportFailure now d).state.service := by
  rcases p.reportFailure_cases now d with ⟨-, h⟩ | ⟨e, -, h⟩ <;> rw [h]
  · exact reaches_refl now _
  · exact reaches_settle now (p.onBreaker d (·.recordFailure now)).state e

theorem reaches_reportSuccess (d : Dependency) :
    Reaches now p.service (p.reportSuccess now d).state.service := by
  rcases p.reportSuccess_cases now d with ⟨-, h⟩ | ⟨e, -, h⟩ <;> rw [h]
  · exact reaches_refl now _
  · exact (reaches_settle now (p.onBreaker d (·.recordSuccess now)).state e).trans
      (reaches_followUp now _ _)

theorem reaches_advance (id : RunId) (check : Stage → Verdict) :
    Reaches now p.service (p.advance now id check).state.service := by
  rcases p.advance_cases now id check with h | ⟨stage, h⟩ <;> rw [h]
  · exact reaches_refl now _
  · exact p.recovery.reaches_commit now id stage _

theorem reaches_drive : Reaches now p.service (p.drive now).state.service := by
  rcases p.drive_cases now with h | ⟨id, stage, h⟩ <;> rw [h]
  · exact reaches_refl now _
  · exact p.recovery.reaches_commit now id stage _

theorem reaches_write (e : Entry) (files : Files) :
    Reaches now p.service (p.write now e files).state.1.service := by
  obtain ⟨b, h | h⟩ := p.write_cases now e files <;> rw [h]
  · exact reaches_refl now _
  · exact reaches_submit now { p with buffer := b } _

end

/-- Without a command on an override, a move changes the service by its calls alone. -/
theorem reaches_perform (now : Moment) (s : ControlPlane × Files) {m : Move}
    (h : m.isOverriding = false) : Reaches now s.1.service (m.perform now s).1.service := by
  cases m with
  | call c =>
    cases c with
    | submit e => exact reaches_submit now s.1 e
    | reportFailure d => exact reaches_reportFailure now s.1 d
    | reportSuccess d => exact reaches_reportSuccess now s.1 d
    | drive => exact reaches_drive now s.1
    | start trigger operator => exact s.1.recovery.reaches_start now trigger operator
    | advance id check => exact reaches_advance now s.1 id check
    | abort id reason => exact s.1.recovery.reaches_abort now id reason
    | write e => exact reaches_write now s.1 e s.2
    | flush reply => exact reaches_refl now _
    | force mode ttlSeconds operator reason => cases h
    | clear operator => cases h
  | action a =>
    cases a with
    | start trigger operator => exact s.1.recovery.reaches_start now trigger operator
    | begin id =>
      show Reaches now s.1.service (s.1.recovery.begin now id).state.service
      rw [(s.1.recovery.begin_cases now id).1]
      exact reaches_refl now _
    | commit t verdict => exact s.1.recovery.reaches_commit now t.id t.stage verdict
    | abort id reason => exact s.1.recovery.reaches_abort now id reason
    | call c => exact reaches_call now s.1.service h

end ControlPlane

end Failsafe
