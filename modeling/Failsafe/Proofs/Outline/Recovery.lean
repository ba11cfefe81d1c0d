import Failsafe.Proofs.Outline.Basic
import Failsafe.Proofs.Recovery.Races
import Failsafe.Proofs.Service.Postures
/-
  What the state service and the recovery do is told by the events that they offer to the bus.

  The signals of every step take the outline before to the outline after (`Service.tracks_step`,
  `Recovery.tracks_perform`). What moves the stage of the service alone is announced by the
  recovery that moves with it, and by nobody else: such calls are set apart (`isStaging`).
-/

namespace Failsafe

/-! ## The state service -/

namespace Service

/-- The outline with the mode and stage of the service. -/
def seen (s : Service) (o : Outline) : Outline := { o with mode := s.mode, stage := s.stage }

/-- The signals tell how one service became another. -/
def Tracks (s : Service) (l : List Signal) (s' : Service) : Prop :=
  ∀ o, (s.seen o).follow l = s'.seen o

/-- The call sets the stage of the service and leaves it to the caller to announce that. -/
def Call.isStaging : Call → Bool
  | setStage _ | moveStage _ _ => true
  | _ => false

section
variable {now : Moment} {s : Service}

/-- Signals that offer nothing to the bus go with steps that change neither mode nor stage. -/
theorem tracks_quiet {l : List Signal} (hl : Signal.offers l = []) {s' : Service}
    (hs : s'.posture = s.posture) : Tracks s l s' := by
  intro o
  obtain ⟨hm, hst⟩ := Prod.mk.inj hs
  rw [Outline.follow_of_quiet _ hl, seen, seen, hm, hst]

theorem offers_refresh (now : Moment) (s : Service) :
    Signal.offers (s.refresh now).signals = [] := by
  unfold refresh
  split
  · rfl
  · split <;> rfl

theorem tracks_refresh : Tracks s (s.refresh now).signals (s.refresh now).state :=
  tracks_quiet (offers_refresh now s) (posture_refresh now s)

/-- A call that is turned down announces nothing. -/
theorem tracks_refused {l : List Signal} (hl : Signal.offers l = []) :
    Tracks s ((s.refresh now).signals ++ l) (s.refresh now).state := by
  refine tracks_quiet ?_ (posture_refresh now s)
  rw [Signal.offers_append, offers_refresh, hl]
  rfl

/-- A transition is announced, whatever the service was. -/
theorem seen_apply (r : Request) (hk : r.kind = .modeChanged ∨ r.kind = .manualOverride)
    (o : Outline) : o.follow (s.apply now r).signals = (s.apply now r).state.seen o :=
  o.note_announcement now _ _ hk

theorem tracks_apply (r : Request) (hk : r.kind = .modeChanged ∨ r.kind = .manualOverride) :
    Tracks s ((s.refresh now).signals ++ ((s.refresh now).state.apply now r).signals)
      ((s.refresh now).state.apply now r).state := by
  intro o
  rw [Outline.follow_append, seen_apply r hk, Outline.follow_of_quiet _ (offers_refresh now s)]
  rfl

theorem tracks_handle (e : Event) :
    Tracks s (s.handle now e).signals (s.handle now e).state := by
  unfold handle
  dsimp only
  split
  · exact tracks_refused rfl
  split
  · exact tracks_refused rfl
  · exact tracks_apply _ (Or.inl rfl)

theorem tracks_force (mode : Mode) (ttlSeconds : Nat) (operator reason : String) :
    Tracks s (s.force now mode ttlSeconds operator reason).signals
      (s.force now mode ttlSeconds operator reason).state := by
  unfold force
  split
  · exact tracks_quiet rfl rfl
  split
  · exact tracks_quiet rfl rfl
  split
  · exact tracks_quiet rfl rfl
  · intro o
    dsimp only
    rw [Outline.follow_append, Outline.follow_append, seen_apply _ (Or.inr rfl)]
    -- the override that is replaced is only logged
    cases s.override? <;> rfl

theorem tracks_clear (operator : String) :
    Tracks s (s.clear now operator).signals (s.clear now operator).state := by
  unfold clear
  split
  · exact tracks_quiet rfl rfl
  · dsimp only
    split
    · exact tracks_refused rfl
    · exact tracks_refresh

theorem tracks_complete : Tracks s (s.complete now).signals (s.complete now).state := by
  unfold complete
  dsimp only
  split
  · exact tracks_refused rfl
  split
  · exact tracks_refused rfl
  · exact tracks_apply _ (Or.inl rfl)

theorem tracks_transition (mode : Mode) (stage : Option Stage) (reason : Reason)
    (source : Source) :
    Tracks s (s.transition now mode stage reason source).signals
      (s.transition now mode stage reason source).state := by
  unfold transition
  dsimp only
  split
  · exact tracks_refused rfl
  · exact tracks_apply _ (Or.inl rfl)

/-- Every call announces what it does to mode and stage, unless it is only for the stage. -/
theorem tracks_step {c : Call} (h : c.isStaging = false) :
    Tracks s (c.step now s).signals (c.perform now s) := by
  cases c with
  | handle e => exact tracks_handle e
  | force mode ttlSeconds operator reason => exact tracks_force mode ttlSeconds operator reason
  | clear operator => exact tracks_clear operator
  | complete => exact tracks_complete
  | transition mode stage reason source => exact tracks_transition mode stage reason source
  | refresh => exact tracks_refresh
  | snapshot => exact tracks_refresh
  | setStage stage => cases h
  | moveStage source target => cases h

theorem offers_moveStage (s : Service) (source target : Stage) :
    Signal.offers (s.moveStage source target).signals = [] := by
  unfold moveStage
  split <;> rfl

end

end Service

/-! ## The recovery -/

namespace Recovery

/-- The outline with the mode and stage of the service, and the run. -/
def seen (r : Recovery) (o : Outline) : Outline :=
  { r.service.seen o with run? := r.run?.map fun run => (run.id, run.stage) }

/-- The signals tell how one recovery became another. -/
def Tracks (r : Recovery) (l : List Signal) (r' : Recovery) : Prop :=
  ∀ o, (r.seen o).follow l = r'.seen o

section
variable {now : Moment} {r : Recovery}

theorem tracks_quiet {l : List Signal} (hl : Signal.offers l = []) : Tracks r l r :=
  fun _ => Outline.follow_of_quiet _ hl

/-- What the service does, the recovery tells with it. -/
theorem tracks_service {l : List Signal} {s' : Service} (h : Service.Tracks r.service l s') :
    Tracks r l { r with service := s' } :=
  fun o => h { o with run? := r.run?.map fun run => (run.id, run.stage) }

theorem tracks_append {a b : List Signal} {r' r'' : Recovery} (ha : Tracks r a r')
    (hb : Tracks r' b r'') : Tracks r (a ++ b) r'' := by
  intro o
  rw [Outline.follow_append, ha, hb]

theorem follow_announced (o : Outline) (level : Log.Level) (message : String)
    (fields : List (String × Log.Field)) (e : Event) :
    o.follow [record level message fields, announce e] = o.note e := rfl

theorem tracks_start (trigger : Trigger) (operator : Option String) :
    Tracks r (r.start now trigger operator).signals (r.start now trigger operator).state := by
  unfold start
  split
  · exact tracks_quiet rfl
  · let enter := Service.transition now .recovering (some .first) .recoveryStarted .recovery
    have ht : Tracks r (r.onService enter).signals (r.onService enter).state :=
      tracks_service (Service.tracks_transition _ _ _ _)
    dsimp only
    split
    · exact ht
    · rw [List.append_assoc]
      refine tracks_append ht ?_
      intro o
      rw [Outline.follow_append, follow_announced, Outline.follow_of_quiet]
      · exact Outline.note_started _ rfl (by simp [Event.text?_note_of_ne])
      -- the run that is superseded is only logged
      · split <;> rfl

theorem tracks_begin (id : RunId) :
    Tracks r (r.begin now id).signals (r.begin now id).state := by
  rw [(r.begin_cases now id).1]
  refine tracks_quiet ?_
  unfold begin
  split
  · rfl
  split
  · rfl
  split <;> rfl

theorem tracks_moveOn (run : Run) (next : Stage) :
    Tracks r (r.moveOn now run next).signals (r.moveOn now run next).state := by
  have hq := r.service.offers_moveStage run.stage next
  unfold moveOn
  rcases r.service.moveStage_cases run.stage next with ⟨-, ha, hs⟩ | ⟨-, -, ha, hs⟩
  · simp only [ha, hs]
    refine tracks_quiet ?_
    rw [Signal.offers_append, hq]
    rfl
  · simp only [ha, hs]
    intro o
    rw [Outline.follow_append, follow_announced, Outline.follow_of_quiet _ hq]
    exact Outline.note_advanced _ rfl (by simp [Event.text?_note_of_ne]) (by simp)

theorem tracks_finish (run : Run) :
    Tracks r (r.finish now run).signals (r.finish now run).state := by
  have hc : Tracks r (r.onService (·.complete now)).signals
      (r.onService (·.complete now)).state := tracks_service Service.tracks_complete
  unfold finish
  dsimp only
  split
  · exact hc
  · refine tracks_append hc ?_
    intro o
    rw [follow_announced]
    exact Outline.note_ended _ (Or.inl rfl)

theorem offers_failureSignals (id : RunId) (stage : Stage) (verdict : Verdict) :
    Signal.offers (failureSignals id stage verdict) = [] := by
  cases verdict <;> rfl

theorem tracks_commit (id : RunId) (stage : Stage) (verdict : Verdict) :
    Tracks r (r.commit now id stage verdict).signals (r.commit now id stage verdict).state := by
  unfold commit
  split
  · exact tracks_quiet (offers_failureSignals id stage verdict)
  dsimp only
  split
  · exact tracks_quiet rfl
  split
  · exact tracks_quiet rfl
  split
  · exact tracks_moveOn _ _
  · exact tracks_finish _

theorem tracks_abort (id : RunId) (reason : String) :
    Tracks r (r.abort now id reason).signals (r.abort now id reason).state := by
  unfold abort
  dsimp only
  split
  · exact tracks_quiet rfl
  split
  · exact tracks_quiet rfl
  · rw [List.append_assoc]
    refine tracks_append (tracks_service (Service.tracks_transition .safe none .recoveryFailed
      .recovery)) ?_
    intro o
    rw [Outline.follow_append, follow_announced, Outline.follow_of_quiet]
    · exact Outline.note_ended _ (Or.inr rfl)
    · split <;> rfl

namespace Action

/-- The signals of an action. -/
def signals (now : Moment) (r : Recovery) : Action → List Signal
  | start trigger operator => (r.start now trigger operator).signals
  | begin id => (r.begin now id).signals
  | commit t verdict => (r.commit now t.id t.stage verdict).signals
  | abort id reason => (r.abort now id reason).signals
  | call c => (c.step now r.service).signals

/-- The action sets the stage of the service alone. -/
def isStaging : Action → Bool
  | call c => c.isStaging
  | _ => false

end Action

theorem tracks_perform {a : Action} (h : a.isStaging = false) :
    Tracks r (a.signals now r) (a.perform now r) := by
  cases a with
  | start trigger operator => exact tracks_start trigger operator
  | begin id => exact tracks_begin id
  | commit t verdict => exact tracks_commit t.id t.stage verdict
  | abort id reason => exact tracks_abort id reason
  | call c => exact tracks_service (Service.tracks_step h)

end

end Recovery

end Failsafe
