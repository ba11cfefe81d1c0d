import Failsafe.Proofs.ControlPlane.Coverage
import Failsafe.Proofs.ControlPlane.Overrides
/-
  What a recovery that is given up leaves behind.

  As long as nobody forces a mode there is no override (`free_run`), and nothing stands in the way
  of a run that is given up: it ends in `safe`, whatever the mode was before (`abort_of_free`). So
  a `halt` is not kept, and of what the breakers ask for only one cause is left without cover, the
  loss of the broker (`covered_after_abort`).
-/

namespace Failsafe

/-- The breakers ask for no more than `safe`, but for the broker's that has tripped. -/
theorem Dependency.priority_le_safe_iff {d : Dependency} {l : Level} {r : Reason}
    (h : d.cause? l = some r) :
    r.target.priority ≤ Mode.safe.priority ↔ ¬ (d = .broker ∧ l = .tripped) := by
  cases l with
  | healthy => cases h
  | unstable =>
    cases h
    cases d <;> decide
  | tripped =>
    cases h
    cases d <;> decide

/-- Without an override nothing keeps a transition from being made. -/
theorem Service.transition_of_none (now : Moment) {s : Service} (h : s.override? = none)
    (mode : Mode) (stage : Option Stage) (reason : Reason) (source : Source) :
    (s.transition now mode stage reason source).answer = true ∧
      (s.transition now mode stage reason source).state.mode = mode := by
  rcases s.transition_cases now mode stage reason source with ⟨ha, -⟩ | ⟨-, ha, hs⟩
  · rw [refresh_of_none now h] at ha
    cases ha
  · rw [hs]
    exact ⟨ha, rfl⟩

namespace ControlPlane

/-- Calls are moves of the control plane. -/
theorem run_eq_play (s : ControlPlane × Files) (calls : List (Moment × Call)) :
    run s calls = play s (calls.map fun c => (c.1, .call c.2)) := by
  unfold run play
  rw [List.foldl_map]
  rfl

/-- Where nobody forces a mode there is no override. -/
theorem free_run {s : ControlPlane × Files} (hs : s.1.service.override? = none)
    {calls : List (Moment × Call)} (hc : ∀ c ∈ calls, (Move.call c.2).isForce = false) :
    (run s calls).1.service.override? = none := by
  have hm : ∀ m ∈ calls.map fun c => (c.1, Move.call c.2), m.2.isForce = false := by
    intro m hm
    obtain ⟨c, hmem, rfl⟩ := List.mem_map.mp hm
    exact hc c hmem
  rw [run_eq_play]
  rcases fades_play s hm with h | h
  · rw [h, hs]
  · exact h

/-- The run is over and the system in `safe`; nothing is done to the breakers. -/
theorem abort_of_free (now : Moment) {p : ControlPlane} (hf : p.service.override? = none)
    {run : Run} (hr : p.recovery.run? = some run) (reason : String) :
    let done := p.onRecovery (·.abort now run.id reason)
    done.answer = true ∧ done.state.service.mode = .safe ∧ done.state.recovery.run? = none ∧
      done.state.breakers = p.breakers := by
  intro done
  rcases p.recovery.abort_cases now run.id reason with ⟨hn, -, -⟩ | ⟨run', -, -, ha, hs⟩
  · exact absurd rfl (hn run hr)
  · have hstate : done.state.recovery = _ := hs
    rw [service, hstate]
    exact ⟨ha, (Service.transition_of_none now hf _ _ _ _).2, rfl, rfl⟩

/-- After calls none of which forces a mode, whoever gives up the current run leaves the system in
`safe` and without a run, whatever the mode was before. This is at least as severe as what the
cause behind a breaker's level asks for, just unless the breaker is the broker's and has
tripped. -/
theorem covered_after_abort {now : Moment} {ids : RunIds} {settings : Settings} {files : Files}
    {p : ControlPlane} (h : (assemble now ids settings files).1 = .ok p)
    {calls : List (Moment × Call)}
    (hc : ∀ c ∈ calls, (Move.call c.2).isForce = false) (files' : Files) {current : Run}
    (hr : (run (p, files') calls).1.recovery.run? = some current) (now' : Moment)
    (reason : String) :
    let done := (run (p, files') calls).1.onRecovery (·.abort now' current.id reason)
    done.answer = true ∧ done.state.service.mode = .safe ∧ done.state.recovery.run? = none ∧
    ∀ (d : Dependency) (r : Reason), d.cause? (done.state.breakers.level d) = some r →
      (r.target.priority ≤ done.state.service.mode.priority ↔
        ¬ (d = .broker ∧ done.state.breakers.level d = .tripped)) := by
  have hfree : (run (p, files') calls).1.service.override? = none :=
    free_run (s := (p, files')) (isSound_assemble h).free hc
  obtain ⟨ha, hm, hnone, -⟩ := abort_of_free now' hfree hr reason
  refine ⟨ha, hm, hnone, fun d r hcause => ?_⟩
  rw [hm]
  exact Dependency.priority_le_safe_iff hcause

/-- The broker is lost, an operator starts a recovery, and a hard breach of the risk limits halts
the system. -/
def breachInRecovery : List (Moment × Call) :=
  outage ++ [(⟨3, .epoch⟩, .start .manual (some "ops")),
    (⟨4, .epoch⟩, .submit (Event.new ⟨4, .epoch⟩ .healthReport .risk .critical .riskBreachHard))]

/-- When the run is given up then, the system leaves `halt` for `safe`, and the lost broker asks
for more than that. -/
theorem not_covered_breachInRecovery :
    ∃ p, (assemble ⟨0, .epoch⟩ .counting sampleSettings .empty).1 = .ok p ∧
      (∀ c ∈ breachInRecovery, c.2.isOrdinary = true) ∧
      let before := (run (p, .empty) breachInRecovery).1
      ∃ current, before.recovery.run? = some current ∧ before.service.mode = .halt ∧
      let after := (before.onRecovery (·.abort ⟨5, .epoch⟩ current.id "risk")).state
      after.service.mode ≠ .halt ∧ after.breakers.level .broker = .tripped ∧
        ¬ Dependency.broker.trippedReason.target.priority ≤ after.service.mode.priority := by
  refine ⟨_, rfl, by decide, _, rfl, ?_⟩
  decide

/-- The broker fails once, and a recovery is started. -/
def failureThenStart : List (Moment × Call) :=
  [(⟨0, .epoch⟩, .reportFailure .broker), (⟨1, .epoch⟩, .start .auto none)]

/-- A broker that is only unstable is covered when the run is given up. -/
theorem covered_failureThenStart :
    ∃ p, (assemble ⟨0, .epoch⟩ .counting sampleSettings .empty).1 = .ok p ∧
      (∀ c ∈ failureThenStart, (Move.call c.2).isForce = false) ∧
      ∃ current, (run (p, .empty) failureThenStart).1.recovery.run? = some current ∧
      let after := ((run (p, .empty) failureThenStart).1.onRecovery
        (·.abort ⟨2, .epoch⟩ current.id "risk")).state
      after.service.mode = .safe ∧
        Dependency.broker.unstableReason.target.priority ≤ after.service.mode.priority := by
  obtain ⟨p, hp⟩ : ∃ p, (assemble ⟨0, .epoch⟩ .counting sampleSettings .empty).1 = .ok p := ⟨_, rfl⟩
  have hc : ∀ c ∈ failureThenStart, (Move.call c.2).isForce = false := by decide
  obtain ⟨current, hr⟩ :
      ∃ current, (run (p, .empty) failureThenStart).1.recovery.run? = some current := by
    cases hp
    exact ⟨_, rfl⟩
  obtain ⟨-, hm, -, hcovers⟩ := covered_after_abort hp hc .empty hr ⟨2, .epoch⟩ "risk"
  have hlevel : (run (p, .empty) failureThenStart).1.breakers.level .broker = .unstable := by
    cases hp
    decide
  refine ⟨p, hp, hc, current, hr, hm, (hcovers .broker .brokerUnstable ?_).mpr ?_⟩
  · exact congrArg (Dependency.cause? .broker) hlevel
  · rintro ⟨-, ht⟩
    exact absurd (hlevel.symm.trans ht) (by decide)

end ControlPlane

end Failsafe
