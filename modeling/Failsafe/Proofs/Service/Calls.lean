import Failsafe.Service
/-
  Calls of the state service, one lemma on each that says all that it can do.

  Every call first forgets an override whose time has passed, or does not look at it; what follows
  depends on the mode, the stage and whether an override is in force.
-/

namespace Failsafe.Service

/-- A call of the state service. -/
inductive Call where
  | handle (e : Event)
  | force (mode : Mode) (ttlSeconds : Nat) (operator reason : String)
  | clear (operator : String)
  | setStage (stage : Stage)
  | moveStage (source target : Stage)
  | complete
  | transition (mode : Mode) (stage : Option Stage) (reason : Reason) (source : Source)
  | refresh
  | snapshot

/-- The service after a call. -/
def Call.perform (now : Moment) (s : Service) : Call → Service
  | .handle e => (s.handle now e).state
  | .force mode ttlSeconds operator reason => (s.force now mode ttlSeconds operator reason).state
  | .clear operator => (s.clear now operator).state
  | .setStage stage => (s.setStage stage).state
  | .moveStage source target => (s.moveStage source target).state
  | .complete => (s.complete now).state
  | .transition mode stage reason source => (s.transition now mode stage reason source).state
  | .refresh => (s.refresh now).state
  | .snapshot => (s.snapshot now).state

/-- Only the recovery protocol makes such a call. -/
def Call.isReserved : Call → Bool
  | .setStage _ | .moveStage .. | .complete | .transition .. => true
  | _ => false

variable (now : Moment) (s : Service)

/-! ## Overrides -/

theorem refresh_of_none {s : Service} (h : s.override? = none) :
    s.refresh now = ⟨false, s, []⟩ := by
  unfold refresh
  rw [h]

theorem refresh_cases :
    ((s.refresh now).answer = true ∧ (s.refresh now).state = s) ∨
    ((s.refresh now).answer = false ∧
      (s.refresh now).state = { s with override? := none }) := by
  unfold refresh
  cases h : s.override? with
  | none =>
    right
    refine ⟨rfl, ?_⟩
    cases s
    cases h
    rfl
  | some o =>
    dsimp only
    split
    · exact Or.inr ⟨rfl, rfl⟩
    · exact Or.inl ⟨rfl, rfl⟩

@[simp] theorem refresh_mode : (s.refresh now).state.mode = s.mode := by
  rcases refresh_cases now s with ⟨-, h⟩ | ⟨-, h⟩ <;> rw [h]

@[simp] theorem refresh_stage : (s.refresh now).state.stage = s.stage := by
  rcases refresh_cases now s with ⟨-, h⟩ | ⟨-, h⟩ <;> rw [h]

/-! ## Automatic transitions -/

/-- The transition that an event asks for. -/
def requested (e : Event) : Request :=
  { mode := e.reason.target, stage := stageIn e.reason.target s.stage, reason := e.reason
    source := e.source }

/-- An event is ignored under an override, rejected if it would lower the severity along no
recovery path, or obeyed. -/
theorem handle_cases (e : Event) :
    ((s.refresh now).answer = true ∧ (s.handle now e).answer = .suppressed ∧
      (s.handle now e).state = (s.refresh now).state) ∨
    ((s.refresh now).answer = false ∧ s.mode.permits e.reason.target = false ∧
      e.reason.isRecoveryPath = false ∧
      (s.handle now e).answer = .blocked s.mode e.reason.target ∧
      (s.handle now e).state = (s.refresh now).state) ∨
    ((s.refresh now).answer = false ∧
      (s.mode.permits e.reason.target = true ∨ e.reason.isRecoveryPath = true) ∧
      (s.handle now e).answer
        = .applied ((s.refresh now).state.apply now (s.requested e)).answer ∧
      (s.handle now e).state = ((s.refresh now).state.apply now (s.requested e)).state) := by
  unfold handle
  dsimp only
  split
  · next h => exact Or.inl ⟨h, rfl, rfl⟩
  · next h =>
    rw [Bool.not_eq_true] at h
    right
    rw [refresh_mode]
    split
    · next hb =>
      rw [Bool.and_eq_true, Bool.not_eq_true', Bool.not_eq_true'] at hb
      exact Or.inl ⟨h, hb.1, hb.2, rfl, rfl⟩
    · next hb =>
      have ha : s.mode.permits e.reason.target = true ∨ e.reason.isRecoveryPath = true := by
        rw [Bool.and_eq_true, Bool.not_eq_true', Bool.not_eq_true'] at hb
        cases hp : s.mode.permits e.reason.target with
        | true => exact Or.inl rfl
        | false => exact Or.inr (by simpa [hp] using hb)
      refine Or.inr ⟨h, ha, ?_, ?_⟩ <;> rw [requested, refresh_stage]

/-- Without an override an event is rejected if it would lower the severity along no recovery
path; otherwise the system is in the mode it asks for. -/
theorem handle_of_none {s : Service} (h : s.override? = none) (e : Event) :
    (s.handle now e).state.override? = none ∧
    ((s.mode.permits e.reason.target = false ∧ e.reason.isRecoveryPath = false ∧
        (s.handle now e).state = s) ∨
      ((s.mode.permits e.reason.target = true ∨ e.reason.isRecoveryPath = true) ∧
        (s.handle now e).state.mode = e.reason.target)) := by
  have hr := refresh_of_none now h
  rcases handle_cases now s e with ⟨ha, -, -⟩ | ⟨-, hp, hb, -, hs⟩ | ⟨-, hp, -, hs⟩
  · simp [hr] at ha
  · rw [hs, hr]
    exact ⟨h, Or.inl ⟨hp, hb, rfl⟩⟩
  · rw [hs, hr]
    exact ⟨h, Or.inr ⟨hp, rfl⟩⟩

/-! ## Recovery -/

theorem moveStage_cases (source target : Stage) :
    ((s.mode ≠ .recovering ∨ s.stage ≠ some source) ∧
      (s.moveStage source target).answer
        = .error (.stageMoved source target s.mode s.stage) ∧
      (s.moveStage source target).state = s) ∨
    (s.mode = .recovering ∧ s.stage = some source ∧
      (s.moveStage source target).answer = .ok () ∧
      (s.moveStage source target).state = { s with stage := some target }) := by
  unfold moveStage
  split
  · next h => exact Or.inl ⟨h, rfl, rfl⟩
  · next h =>
    rw [not_or, Decidable.not_not, Decidable.not_not] at h
    exact Or.inr ⟨h.1, h.2, rfl, rfl⟩

/-- A recovery is completed only from `ready`, and under no override. -/
theorem complete_cases :
    ((s.complete now).answer = false ∧ (s.complete now).state = (s.refresh now).state) ∨
    ((s.refresh now).answer = false ∧ s.mode = .recovering ∧ s.stage = some .ready ∧
      (s.complete now).answer = true ∧
      (s.complete now).state = ((s.refresh now).state.apply now
        { mode := .normal, stage := none, reason := .allHealthy, source := .recovery }).state) := by
  unfold complete
  dsimp only
  split
  · exact Or.inl ⟨rfl, rfl⟩
  · next h =>
    rw [Bool.not_eq_true] at h
    rw [refresh_mode, refresh_stage]
    split
    · exact Or.inl ⟨rfl, rfl⟩
    · next hb =>
      rw [not_or, Decidable.not_not, Decidable.not_not] at hb
      exact Or.inr ⟨h, hb.1, hb.2, rfl, rfl⟩

theorem transition_cases (mode : Mode) (stage : Option Stage) (reason : Reason)
    (source : Source) :
    ((s.refresh now).answer = true ∧
      (s.transition now mode stage reason source).answer = false ∧
      (s.transition now mode stage reason source).state = (s.refresh now).state) ∨
    ((s.refresh now).answer = false ∧
      (s.transition now mode stage reason source).answer = true ∧
      (s.transition now mode stage reason source).state = ((s.refresh now).state.apply now
        { mode, stage := stageIn mode (stage.or s.stage), reason, source }).state) := by
  unfold transition
  dsimp only
  split
  · next h => exact Or.inl ⟨h, rfl, rfl⟩
  · next h =>
    rw [Bool.not_eq_true] at h
    rw [refresh_stage]
    exact Or.inr ⟨h, rfl, rfl⟩

/-! ## Operators -/

/-- A command to force a mode is refused, or the mode is pinned. -/
theorem force_cases (mode : Mode) (ttlSeconds : Nat) (operator reason : String) :
    ((∃ r, (s.force now mode ttlSeconds operator reason).answer = .error r) ∧
      (s.force now mode ttlSeconds operator reason).state = s) ∨
    ((∃ t, (s.force now mode ttlSeconds operator reason).answer = .ok t) ∧
      (s.force now mode ttlSeconds operator reason).state.mode = mode ∧
      (s.force now mode ttlSeconds operator reason).state.stage = stageIn mode s.stage ∧
      (s.force now mode ttlSeconds operator reason).state.override?
        = some ⟨mode, Nanos.ofSeconds ttlSeconds, operator, reason, now.steady⟩) := by
  unfold force
  split
  · exact Or.inl ⟨⟨_, rfl⟩, rfl⟩
  split
  · exact Or.inl ⟨⟨_, rfl⟩, rfl⟩
  split
  · exact Or.inl ⟨⟨_, rfl⟩, rfl⟩
  · exact Or.inr ⟨⟨_, rfl⟩, rfl, rfl, rfl⟩

/-- A command to end the override touches nothing else. -/
theorem clear_cases (operator : String) :
    (s.clear now operator).state = s ∨
    (s.clear now operator).state = { s with override? := none } := by
  unfold clear
  split
  · exact Or.inl rfl
  · dsimp only
    split
    · right
      rcases refresh_cases now s with ⟨-, h⟩ | ⟨-, h⟩ <;> rw [h]
    · rcases refresh_cases now s with ⟨-, h⟩ | ⟨-, h⟩
      · exact Or.inl h
      · exact Or.inr h

/-! ## Modes and stages -/

theorem stageIn_eq_some {mode : Mode} {stage : Option Stage} {st : Stage}
    (h : stageIn mode stage = some st) :
    mode = .recovering ∧ (stage = some st ∨ st = .connectBroker) := by
  unfold stageIn at h
  split at h
  · next hm =>
    refine ⟨hm, ?_⟩
    cases stage with
    | none =>
      cases h
      exact Or.inr rfl
    | some old =>
      cases h
      exact Or.inl rfl
  · simp at h

/-- What is not reserved to the recovery protocol never sets a stage of its own: it leaves mode
and stage alone, or the stage is the old one as far as the mode allows. -/
theorem stage_of_not_isReserved {c : Call} (h : c.isReserved = false) :
    ((c.perform now s).mode = s.mode ∧ (c.perform now s).stage = s.stage) ∨
    (c.perform now s).stage = stageIn (c.perform now s).mode s.stage := by
  cases c with
  | handle e =>
    rw [Call.perform]
    rcases handle_cases now s e with ⟨-, -, hs⟩ | ⟨-, -, -, -, hs⟩ | ⟨-, -, -, hs⟩
    · rw [hs]
      exact Or.inl ⟨refresh_mode now s, refresh_stage now s⟩
    · rw [hs]
      exact Or.inl ⟨refresh_mode now s, refresh_stage now s⟩
    · rw [hs]
      exact Or.inr rfl
  | force mode ttlSeconds operator reason =>
    rw [Call.perform]
    rcases force_cases now s mode ttlSeconds operator reason with ⟨-, hs⟩ | ⟨-, hm, hst, -⟩
    · rw [hs]
      exact Or.inl ⟨rfl, rfl⟩
    · rw [hm]
      exact Or.inr hst
  | clear operator =>
    rw [Call.perform]
    rcases clear_cases now s operator with hs | hs <;> rw [hs] <;> exact Or.inl ⟨rfl, rfl⟩
  | refresh => exact Or.inl ⟨refresh_mode now s, refresh_stage now s⟩
  | snapshot => exact Or.inl ⟨refresh_mode now s, refresh_stage now s⟩
  | setStage stage => cases h
  | moveStage source target => cases h
  | complete => cases h
  | transition mode stage reason source => cases h

end Failsafe.Service
