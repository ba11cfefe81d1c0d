import Failsafe.Proofs.Recovery.Steps
import Failsafe.Proofs.Service.Postures
/-
  The run and the service agree on the stage of a recovery.

  Without an override a run is never refused, so that a recovery that begins anew always gets a new
  run and both start from the first stage. From then on the protocol moves them together, and an
  event either leaves the service where it is or leads out of the recovery (`isAgreed_handle`).
-/

namespace Failsafe

/-- Without an override a recovery that stands at the last stage is completed. -/
theorem Service.complete_of_ready (now : Moment) {s : Service} (hf : s.override? = none)
    (hm : s.mode = .recovering) (hst : s.stage = some .ready) :
    (s.complete now).answer = true ∧ (s.complete now).state.posture = (.normal, none) := by
  unfold complete
  rw [refresh_of_none now hf]
  dsimp only
  rw [if_neg Bool.false_ne_true, if_neg]
  · exact ⟨rfl, rfl⟩
  · rintro (h | h)
    · exact h hm
    · exact h hst

namespace Recovery

/-- Nothing pins the mode; during a recovery the service stands where the run stands; and a run at
the last stage came there no later than at the time `clock`. -/
structure IsAgreed (config : RecoveryConfig) (clock : Nanos) (r : Recovery) : Prop where
  free : r.service.override? = none
  agreed : r.service.mode = .recovering → ∀ run, r.run? = some run →
    r.service.stage = some run.stage
  timed : ∀ run, r.run? = some run → run.stage = .ready →
    ∃ t, run.readySince = some t ∧ t ≤ clock
  configured : r.config = config

section
variable {config : RecoveryConfig} {clock : Nanos} {now : Moment} {r : Recovery}

theorem isAgreed_mono {clock' : Nanos} (h : r.IsAgreed config clock) (hc : clock ≤ clock') :
    r.IsAgreed config clock' := by
  refine ⟨h.free, h.agreed, ?_, h.configured⟩
  intro run hr hready
  obtain ⟨t, ht, hle⟩ := h.timed run hr hready
  exact ⟨t, ht, Nat.le_trans hle hc⟩

theorem isAgreed_of_none (hf : r.service.override? = none) (hc : r.config = config)
    (hr : r.run? = none) : r.IsAgreed config clock := by
  refine ⟨hf, ?_, ?_, hc⟩
  · intro _ run h
    cases hr.symm.trans h
  · intro run h
    cases hr.symm.trans h

/-- A transition that leads into a recovery only from a recovery keeps the stage. -/
theorem isAgreed_apply (h : r.IsAgreed config clock) {e : Event}
    (he : e.reason.target = .recovering → r.service.mode = .recovering) :
    { r with service := (r.service.apply now (r.service.requested e)).state }.IsAgreed
      config clock := by
  refine ⟨h.free, ?_, h.timed, h.configured⟩
  intro hrec run hr
  have ht : e.reason.target = .recovering := hrec
  show Service.stageIn e.reason.target r.service.stage = some run.stage
  rw [ht, h.agreed (he ht) run hr]
  rfl

/-- An event keeps the agreement unless it leads into a recovery from elsewhere. -/
theorem isAgreed_handle (h : r.IsAgreed config clock) {e : Event}
    (he : ∀ t, (r.service.handle now e).answer = .applied t → t.toMode = .recovering →
      t.fromMode = .recovering) :
    { r with service := (r.service.handle now e).state }.IsAgreed config clock := by
  have hf := Service.refresh_of_none now h.free
  rcases r.service.handle_cases now e with ⟨-, -, hs⟩ | ⟨-, -, -, -, hs⟩ | ⟨-, -, ha, hs⟩
  · rw [hs, hf]
    exact h
  · rw [hs, hf]
    exact h
  · rw [hf] at ha hs
    rw [hs]
    exact isAgreed_apply h (he _ ha)

/-- A run that has just been started stands at the first stage, like the service. -/
theorem isAgreed_started (hf : r.service.override? = none) (hc : r.config = config)
    (trigger : Trigger) (operator : Option String) :
    { r with
      service := ((r.service.refresh now).state.apply now entry).state
      run? := some (fresh now trigger operator r.nextId)
      started := r.started + 1 }.IsAgreed config clock := by
  rw [Service.refresh_of_none now hf]
  refine ⟨hf, ?_, ?_, hc⟩
  · rintro _ run ⟨⟩
    rfl
  · rintro run ⟨⟩ hready
    cases hready

theorem isAgreed_start (h : r.IsAgreed config clock) (trigger : Trigger)
    (operator : Option String) :
    (r.start now trigger operator).state.IsAgreed config clock := by
  rcases r.start_cases now trigger operator with ⟨-, hs⟩ | ⟨-, -, hs⟩
  · rw [eq_of_isRefreshed now h.free hs]
    exact h
  · rw [hs]
    exact isAgreed_started h.free h.configured trigger operator

/-- A recovery that is begun without an operator and without an override gets a run. -/
theorem start_auto_ok (now : Moment) (hf : r.service.override? = none) :
    ∃ id, (r.start now .auto none).answer = .ok id := by
  unfold start
  dsimp only
  rw [if_neg (fun h => nomatch h.1)]
  rcases r.service.transition_cases now .recovering (some .first) .recoveryStarted .recovery with
    ⟨ha, -, -⟩ | ⟨-, ha, -⟩
  · rw [Service.refresh_of_none now hf] at ha
    cases ha
  · rw [ha]
    exact ⟨_, rfl⟩

/-- Wherever the service stands, a run that is started without an operator agrees with it. -/
theorem isAgreed_start_auto (hf : r.service.override? = none) (hc : r.config = config) :
    (r.start now .auto none).state.IsAgreed config clock := by
  rcases r.start_cases now .auto none with ⟨⟨e, he⟩, -⟩ | ⟨-, -, hs⟩
  · obtain ⟨id, hid⟩ := start_auto_ok now hf
    cases he.symm.trans hid
  · rw [hs]
    exact isAgreed_started hf hc .auto none

/-- The run at its next stage and the service at it agree. -/
theorem isAgreed_moved (h : r.IsAgreed config clock) (ht : now.steady ≤ clock) (run : Run)
    (next : Stage) :
    { r with
      service := { r.service with stage := some next }
      run? := some (moved now run next) }.IsAgreed config clock := by
  refine ⟨h.free, ?_, ?_, h.configured⟩
  · rintro _ run' ⟨⟩
    rfl
  · rintro run' ⟨⟩ hready
    have hready' : next = .ready := hready
    refine ⟨now.steady, ?_, ht⟩
    show (if next = .ready then some now.steady else run.readySince) = _
    rw [if_pos hready']

theorem isAgreed_commit (h : r.IsAgreed config clock) (ht : now.steady ≤ clock) (id : RunId)
    (stage : Stage) (verdict : Verdict) :
    (r.commit now id stage verdict).state.IsAgreed config clock := by
  rcases r.commit_cases now id stage verdict with
    ⟨-, hs⟩ | ⟨-, -, -, -, run, -, -, -, ⟨next, -, hs⟩ | ⟨-, -, hs⟩⟩
  · rw [eq_of_isRefreshed now h.free hs]
    exact h
  · rw [hs]
    exact isAgreed_moved h ht run next
  · rw [hs, Service.refresh_of_none now h.free]
    exact isAgreed_of_none h.free h.configured rfl

theorem isAgreed_abort (h : r.IsAgreed config clock) (id : RunId) (reason : String) :
    (r.abort now id reason).state.IsAgreed config clock := by
  rcases r.abort_cases now id reason with ⟨-, -, hs⟩ | ⟨run, -, -, -, hs⟩
  · rw [hs]
    exact h
  · rw [hs]
    refine isAgreed_of_none ?_ h.configured rfl
    have hf := Service.refresh_of_none now h.free
    rcases r.service.transition_cases now .safe none .recoveryFailed .recovery with
      ⟨-, -, hs⟩ | ⟨-, -, hs⟩
    · rw [hs, hf]
      exact h.free
    · rw [hs, hf]
      exact h.free

/-! ## The steps of a recovery that is not disturbed -/

/-- Where the service agrees, the run moves on. -/
theorem moveOn_of_agreed (now : Moment) {run : Run} (hm : r.service.mode = .recovering)
    (hst : r.service.stage = some run.stage) (next : Stage) :
    (r.moveOn now run next).answer = true ∧ (r.moveOn now run next).state
      = { r with
          service := { r.service with stage := some next }
          run? := some (moved now run next) } := by
  unfold moveOn
  rcases r.service.moveStage_cases run.stage next with ⟨hn | hn, -, -⟩ | ⟨-, -, ha, hs⟩
  · exact absurd hm hn
  · exact absurd hst hn
  · simp only [ha, hs]
    exact ⟨trivial, rfl⟩

/-- Where the service stands at the last stage, the run ends; the gate is told so once. -/
theorem finish_of_agreed (now : Moment) (hf : r.service.override? = none)
    (hm : r.service.mode = .recovering) (hst : r.service.stage = some .ready) (run : Run) :
    (r.finish now run).answer = true ∧
      (r.finish now run).state.service.posture = (.normal, none) ∧
      (r.finish now run).state.run? = none ∧
      Signal.pushes (r.finish now run).signals = [(.normal, none)] := by
  obtain ⟨ha, hs⟩ := Service.complete_of_ready now hf hm hst
  have hp : Signal.pushes (r.service.complete now).signals = [(.normal, none)] := by
    rw [Service.tells_complete.pushed, ha, if_pos rfl, hs]
  unfold finish
  dsimp only
  rw [ha]
  refine ⟨rfl, hs, rfl, ?_⟩
  show Signal.pushes ((r.service.complete now).signals ++ _) = _
  rw [Signal.pushes_append, hp]
  rfl

/-- Just a run at the last stage has to be stable before its stage is checked. -/
theorem begin_of_current {run : Run} (hr : r.run? = some run)
    (hs : run.stage = .ready → r.isStable run now.steady = true) :
    r.begin now run.id = ⟨.check run.stage, r, []⟩ := by
  have hstable : ¬ (run.stage = .ready ∧ (!r.isStable run now.steady) = true) := by
    rintro ⟨hready, hn⟩
    rw [hs hready] at hn
    cases hn
  unfold begin
  rw [hr]
  dsimp only
  rw [if_neg (not_not_intro rfl)]
  exact if_neg hstable

theorem commit_of_current {run : Run} (hr : r.run? = some run) :
    r.commit now run.id run.stage .passed
      = match run.stage.next with
        | some next => r.moveOn now run next
        | none => r.finish now run := by
  have hcurrent : ¬ (run.id ≠ run.id ∨ run.stage ≠ run.stage) := by
    rintro (h | h) <;> exact h rfl
  unfold commit
  rw [if_neg (not_not_intro rfl), hr]
  exact if_neg hcurrent

/-- A run that has been at the last stage since `clock` at the latest becomes stable. -/
theorem isStable_of_isAgreed {run : Run} (h : r.IsAgreed config clock) (hr : r.run? = some run)
    (hready : run.stage = .ready)
    (ht : clock + Nanos.ofSeconds config.readySeconds ≤ now.steady) :
    r.isStable run now.steady = true := by
  obtain ⟨t, hs, hle⟩ := h.timed run hr hready
  unfold isStable
  rw [hs, h.configured]
  exact decide_eq_true (Nat.le_sub_of_add_le' (Nat.le_trans (Nat.add_le_add_right hle _) ht))

end

end Recovery

end Failsafe
