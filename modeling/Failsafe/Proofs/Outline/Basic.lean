import Mathlib.Logic.Function.Basic
import Failsafe.ControlPlane
import Failsafe.Proofs.Event
/-
  What events tell of the control plane.

  An outline is the mode and stage, the levels of the breakers and the current run. `Outline.note`
  takes it from one event to the next, with nothing but what is written in the event;
  `Outline.follow` does so with all the events among some signals. The lemmas here say what each
  kind of event tells, as the components write it.
-/

namespace Failsafe

theorem Signal.offers_append (a b : List Signal) :
    Signal.offers (a ++ b) = Signal.offers a ++ Signal.offers b := List.filterMap_append

theorem Service.kind_announcement (now : Moment) (t : Transition) (stage : Option Stage)
    (kind : EventKind) : (announcement now t stage kind).kind = kind := by
  unfold announcement
  cases stage <;> cases t.operator <;> rfl

/-- What is told of the control plane by its events. -/
structure Outline where
  mode : Mode
  stage : Option Stage
  /-- the level of each dependency's breaker -/
  level : Dependency → Level
  /-- the current run and its stage -/
  run? : Option (RunId × Stage)

namespace Outline

/-- A system that starts in a mode, with healthy dependencies and no run. -/
def initial (mode : Mode) : Outline where
  mode
  stage := if mode = .recovering then some .first else none
  level _ := .healthy
  run? := none

/-- The outline once an event has been read. -/
def note (o : Outline) (e : Event) : Outline :=
  match e.kind with
  | .modeChanged | .manualOverride =>
    match e.named? "to_mode" Mode.table with
    | some mode => { o with mode, stage := e.named? "stage" Stage.table }
    | none => o
  | .recoveryStarted => { o with run? := e.run?.map fun id => (id, .first) }
  | .recoveryStageAdvanced =>
    match e.run?, e.named? "to_stage" Stage.table with
    | some id, some stage => { o with stage := some stage, run? := some (id, stage) }
    | _, _ => o
  | .recoveryCompleted | .recoveryFailed => { o with run? := none }
  | .breakerUnstable | .breakerTripped | .breakerRecovered =>
    match Dependency.ofSource? e.source, e.named? "level" Level.texts with
    | some d, some level => { o with level := Function.update o.level d level }
    | _, _ => o
  | .bufferOverflow | .healthReport => o

/-- The outline once the events among some signals have been read. -/
def follow (o : Outline) (l : List Signal) : Outline := (Signal.offers l).foldl note o

section
variable (o : Outline)

theorem follow_append (a b : List Signal) :
    o.follow (a ++ b) = (o.follow a).follow b := by
  unfold follow
  rw [Signal.offers_append, List.foldl_append]

theorem follow_of_quiet {l : List Signal} (h : Signal.offers l = []) : o.follow l = o := by
  rw [follow, h]
  rfl

/-! ## What single events tell -/

/-- The announcement of a transition tells mode and stage. -/
theorem note_announcement (now : Moment) (t : Transition) (stage : Option Stage)
    {kind : EventKind} (hk : kind = .modeChanged ∨ kind = .manualOverride) :
    o.note (Service.announcement now t stage kind) = { o with mode := t.toMode, stage } := by
  have hkind := Service.kind_announcement now t stage kind
  have hmode : (Service.announcement now t stage kind).named? "to_mode" Mode.table
      = some t.toMode := by
    refine Event.named?_eq_some _ ?_ t.toMode.lookup_name
    unfold Service.announcement
    cases stage <;> cases t.operator <;> simp [Event.text?_note_of_ne]
  have hstage : (Service.announcement now t stage kind).named? "stage" Stage.table = stage := by
    cases stage with
    | some s =>
      refine Event.named?_eq_some _ ?_ s.lookup_name
      unfold Service.announcement
      cases t.operator <;> simp [Event.text?_note_of_ne]
    | none =>
      have hnone : (Service.announcement now t none kind).text? "stage" = none := by
        unfold Service.announcement
        cases t.operator <;> simp [Event.text?_note_of_ne] <;> rfl
      rw [Event.named?, hnone]
      rfl
  unfold note
  rw [hkind, hmode, hstage]
  rcases hk with rfl | rfl <;> rfl

/-- An event of a breaker tells the level of its dependency. -/
theorem note_of_level {e : Event} {d : Dependency} {level : Level}
    (hk : e.kind = .breakerUnstable ∨ e.kind = .breakerTripped ∨ e.kind = .breakerRecovered)
    (hs : e.source = d.source) (hl : e.text? "level" = some level.text) :
    o.note e = { o with level := Function.update o.level d level } := by
  have hd : Dependency.ofSource? e.source = some d := by
    rw [hs, d.ofSource?_source]
  have hn : e.named? "level" Level.texts = some level := e.named?_eq_some hl level.lookup_text
  unfold note
  rw [hd, hn]
  rcases hk with hk | hk | hk <;> rw [hk]

theorem note_started {e : Event} {id : RunId} (hk : e.kind = .recoveryStarted)
    (hr : e.text? "run_id" = some id.name) :
    o.note e = { o with run? := some (id, .first) } := by
  unfold note
  rw [hk, Event.run?_eq_some hr]
  rfl

theorem note_advanced {e : Event} {id : RunId} {stage : Stage}
    (hk : e.kind = .recoveryStageAdvanced) (hr : e.text? "run_id" = some id.name)
    (hs : e.text? "to_stage" = some stage.name) :
    o.note e = { o with stage := some stage, run? := some (id, stage) } := by
  unfold note
  rw [hk, Event.run?_eq_some hr, e.named?_eq_some hs stage.lookup_name]

theorem note_ended {e : Event} (hk : e.kind = .recoveryCompleted ∨ e.kind = .recoveryFailed) :
    o.note e = { o with run? := none } := by
  unfold note
  rcases hk with hk | hk <;> rw [hk]

end

end Outline

end Failsafe
