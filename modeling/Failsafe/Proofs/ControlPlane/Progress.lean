import Failsafe.Proofs.ControlPlane.Coverage
import Failsafe.Proofs.Recovery.Agreement
import Failsafe.Proofs.Surroundings
/-
  A recovery can always be finished.

  As long as events come from the breakers and the buffer only, and nobody forces a mode, the run
  and the service agree whenever both are there (`isAgreed_perform`): an event that leads into a
  recovery from elsewhere is followed by a new run, and one that finds the system recovering keeps
  the stage. So with healthy breakers a run that is driven passes one stage after the other
  (`isUnderway_drive`) and, once it has been at the last one for long enough, completes
  (`completes_drive`).
-/

namespace Failsafe

namespace ControlPlane

open Recovery (moved isAgreed_of_none isAgreed_handle isAgreed_start isAgreed_start_auto
  isAgreed_commit isAgreed_abort)

/-- Events come from the breakers and the buffer, and nobody forces a mode. -/
def Call.isRoutine : Call → Bool
  | .submit _ | .force .. | .clear _ => false
  | _ => true

/-- Drives one after the other, each at its own moment: the answers, and the control plane after
them. -/
def drives (p : ControlPlane) : List Moment → List (Option (RunId × Bool)) × ControlPlane
  | [] => ([], p)
  | now :: moments =>
    let first := p.drive now
    let rest := first.state.drives moments
    (first.answer :: rest.1, rest.2)

/-! ## Run and service agree -/

section
variable {config : RecoveryConfig} {clock : Nanos} {now : Moment} {p : ControlPlane}

/-- An event that calls for no run does not lead into a recovery from elsewhere. -/
theorem recovering_of_not_callsForRecovery {t : Transition}
    (hc : p.callsForRecovery (.applied t) = false) (ht : t.toMode = .recovering) :
    t.fromMode = .recovering := by
  unfold callsForRecovery at hc
  simp only [Outcome.transition?, ht, decide_true, Bool.true_and, Bool.or_eq_false_iff,
    decide_eq_false_iff_not, Decidable.not_not] at hc
  exact hc.1

theorem isAgreed_submit (h : p.recovery.IsAgreed config clock) {e : Event}
    (hc : (p.submit now e).state.callsForRecovery (p.submit now e).answer = false) :
    (p.submit now e).state.recovery.IsAgreed config clock := by
  refine isAgreed_handle h ?_
  intro t ha
  have hanswer : (p.submit now e).answer = .applied t := ha
  rw [hanswer] at hc
  exact recovering_of_not_callsForRecovery hc

/-- No run is called for by an event that asks for another mode. -/
theorem isAgreed_submit_of_ne (h : p.recovery.IsAgreed config clock) {e : Event}
    (he : e.reason.target ≠ .recovering) :
    (p.submit now e).state.recovery.IsAgreed config clock := by
  refine isAgreed_handle h ?_
  intro t ha ht
  rcases p.service.handle_cases now e with ⟨-, hn, -⟩ | ⟨-, -, -, hn, -⟩ | ⟨-, -, hn, -⟩
  · cases ha.symm.trans hn
  · cases ha.symm.trans hn
  · obtain rfl := Outcome.applied.inj (ha.symm.trans hn)
    exact absurd ht he

/-! ## Reports -/

/-- An event that leads into a recovery from elsewhere is followed by a run. -/
theorem isAgreed_followUp_submit (h : p.recovery.IsAgreed config clock) (e : Event) :
    ((p.submit now e).state.followUp now (p.submit now e).answer).state.recovery.IsAgreed
      config clock := by
  rcases (p.submit now e).state.followUp_cases now (p.submit now e).answer with
    ⟨-, hs⟩ | ⟨hc, hs⟩ <;> rw [hs]
  · exact isAgreed_start_auto (Service.handle_of_none now h.free e).1 h.configured
  · exact isAgreed_submit h hc

theorem isAgreed_followUp_settle (h : p.recovery.IsAgreed config clock) (e : Event) :
    ((p.settle now e).state.followUp now (p.settle now e).answer).state.recovery.IsAgreed
      config clock := by
  rcases p.settle_cases now e with ⟨hs, ha⟩ | hs
  · rw [hs, ha]
    exact h
  · rw [hs]
    exact isAgreed_followUp_submit h e

theorem isAgreed_reportSuccess (h : p.recovery.IsAgreed config clock) (d : Dependency) :
    (p.reportSuccess now d).state.recovery.IsAgreed config clock := by
  rcases p.reportSuccess_cases now d with ⟨-, hs⟩ | ⟨e, -, hs⟩ <;> rw [hs]
  · exact h
  · exact isAgreed_followUp_settle (p := (p.onBreaker d (·.recordSuccess now)).state) h e

theorem isAgreed_settle (h : p.recovery.IsAgreed config clock) {e : Event}
    (he : e.reason.target ≠ .recovering) :
    (p.settle now e).state.recovery.IsAgreed config clock := by
  rcases p.settle_cases now e with ⟨hs, -⟩ | hs <;> rw [hs]
  · exact h
  · exact isAgreed_submit_of_ne h he

/-- A dependency that fails does not ask for a recovery. -/
theorem target_of_recordFailure {b : Breaker} {e : Event}
    (h : (b.recordFailure now).answer = some e) : e.reason.target ≠ .recovering := by
  have hall : ∀ d : Dependency,
      d.trippedReason.target ≠ .recovering ∧ d.unstableReason.target ≠ .recovering := by
    intro d
    cases d <;> decide
  rcases b.recordFailure_cases now with
    ⟨-, ha, -⟩ | ⟨-, -, ⟨e', ha, he⟩, -⟩ | ⟨-, -, ⟨e', ha, he⟩, -⟩ | ⟨-, -, ha, -⟩
  · cases h.symm.trans ha
  · obtain rfl := Option.some.inj (h.symm.trans ha)
    rw [he]
    exact (hall _).1
  · obtain rfl := Option.some.inj (h.symm.trans ha)
    rw [he]
    exact (hall _).2
  · cases h.symm.trans ha

theorem isAgreed_reportFailure (h : p.recovery.IsAgreed config clock) (d : Dependency) :
    (p.reportFailure now d).state.recovery.IsAgreed config clock := by
  rcases p.reportFailure_cases now d with ⟨-, hs⟩ | ⟨e, he, hs⟩ <;> rw [hs]
  · exact h
  · exact isAgreed_settle (p := (p.onBreaker d (·.recordFailure now)).state) h
      (target_of_recordFailure he)

/-! ## Other calls -/

theorem isAgreed_advance (h : p.recovery.IsAgreed config clock) (ht : now.steady ≤ clock)
    (id : RunId) (check : Stage → Verdict) :
    (p.advance now id check).state.recovery.IsAgreed config clock := by
  rcases p.advance_cases now id check with hs | ⟨stage, hs⟩ <;> rw [hs]
  · exact h
  · exact isAgreed_commit h ht id stage _

theorem isAgreed_drive (h : p.recovery.IsAgreed config clock) (ht : now.steady ≤ clock) :
    (p.drive now).state.recovery.IsAgreed config clock := by
  rcases p.drive_cases now with hs | ⟨id, stage, hs⟩ <;> rw [hs]
  · exact h
  · exact isAgreed_commit h ht id stage _

theorem isAgreed_write (h : p.recovery.IsAgreed config clock) (e : Entry) (files : Files) :
    (p.write now e files).state.1.recovery.IsAgreed config clock := by
  obtain ⟨b, hs | hs⟩ := p.write_cases now e files <;> rw [hs]
  · exact h
  · refine isAgreed_submit_of_ne (p := { p with buffer := b }) h ?_
    show Reason.databaseBufferFull.target ≠ .recovering
    decide

end

theorem isAgreed_perform {config : RecoveryConfig} {clock : Nanos} {now : Moment}
    {s : ControlPlane × Files} (h : s.1.recovery.IsAgreed config clock) {c : Call}
    (hc : c.isRoutine = true) (ht : now.steady ≤ clock) :
    (c.perform now s).1.recovery.IsAgreed config clock := by
  cases c with
  | reportFailure d => exact isAgreed_reportFailure h d
  | reportSuccess d => exact isAgreed_reportSuccess h d
  | drive => exact isAgreed_drive h ht
  | start trigger operator => exact isAgreed_start h trigger operator
  | advance id check => exact isAgreed_advance h ht id check
  | abort id reason => exact isAgreed_abort h id reason
  | write e => exact isAgreed_write h e s.2
  | flush reply => exact h
  | submit e => cases hc
  | force mode ttlSeconds operator reason => cases hc
  | clear operator => cases hc

theorem isAgreed_run {config : RecoveryConfig} {clock : Nanos} {s : ControlPlane × Files}
    (h : s.1.recovery.IsAgreed config clock) {calls : List (Moment × Call)}
    (hc : ∀ c ∈ calls, c.2.isRoutine = true ∧ c.1.steady ≤ clock) :
    (run s calls).1.recovery.IsAgreed config clock := by
  induction calls generalizing s with
  | nil => exact h
  | cons c calls ih =>
    rw [run_cons]
    obtain ⟨hr, ht⟩ := hc c List.mem_cons_self
    exact ih (isAgreed_perform h hr ht) fun c' hc' => hc c' (List.mem_cons_of_mem _ hc')

theorem isAgreed_assemble {now : Moment} {ids : RunIds} {settings : Settings} {files : Files}
    {p : ControlPlane} (h : (assemble now ids settings files).1 = .ok p) (clock : Nanos) :
    p.recovery.IsAgreed settings.recovery clock := by
  rw [(assemble_cases h).2]
  exact isAgreed_of_none rfl rfl rfl

/-! ## A run that is driven -/

/-- With healthy breakers, this run is the current one in a recovery that agrees with it. -/
structure IsUnderway (config : RecoveryConfig) (clock : Nanos) (run : Run) (p : ControlPlane) :
    Prop where
  recovering : p.service.mode = .recovering
  current : p.recovery.run? = some run
  healthy : ∀ d, p.breakers.level d = .healthy
  agreed : p.recovery.IsAgreed config clock

theorem check_of_healthy {b : Breakers} (h : ∀ d, b.level d = .healthy) (stage : Stage) :
    b.check stage = .passed := by
  unfold Breakers.check
  rw [if_pos]
  exact List.all_eq_true.mpr fun d _ => decide_eq_true (h d)

section
variable {config : RecoveryConfig} {clock : Nanos} {now : Moment} {p : ControlPlane} {run : Run}

/-- An advance of the current run is its second half, if the run has been stable at the last
stage. -/
theorem advance_of_current (hr : p.recovery.run? = some run)
    (hs : run.stage = .ready → p.recovery.isStable run now.steady = true)
    (check : Stage → Verdict) :
    p.advance now run.id check
      = p.onRecovery (·.commit now run.id run.stage (check run.stage)) := by
  have ho : p.onRecovery (·.begin now run.id) = ⟨.check run.stage, p, []⟩ := by
    rw [onRecovery, Recovery.begin_of_current hr hs]
  unfold advance
  rw [ho]
  rfl

/-- With healthy breakers every check is passed. -/
theorem drive_of_isUnderway (h : p.IsUnderway config clock run)
    (hs : run.stage = .ready → p.recovery.isStable run now.steady = true) :
    p.drive now
      = (p.onRecovery (·.commit now run.id run.stage .passed)).map fun b => some (run.id, b) := by
  have hd : p.driven? = some run.id := by
    rw [driven?, h.current]
    rfl
  unfold drive
  rw [hd]
  dsimp only
  rw [advance_of_current h.current hs, check_of_healthy h.healthy]
  rfl

/-- Before the last stage, a drive leads the run to the next one. -/
theorem isUnderway_drive (h : p.IsUnderway config clock run) (ht : now.steady ≤ clock)
    {next : Stage} (hn : run.stage.next = some next) :
    (p.drive now).answer = some (run.id, true) ∧
      (p.drive now).state.IsUnderway config clock (moved now run next) := by
  have hready : run.stage ≠ .ready := by
    intro hr
    rw [hr] at hn
    cases hn
  have hst := h.agreed.agreed h.recovering run h.current
  obtain ⟨ha, hs⟩ := Recovery.moveOn_of_agreed now h.recovering hst next
  rw [drive_of_isUnderway h (absurd · hready)]
  have hc : p.recovery.commit now run.id run.stage .passed = p.recovery.moveOn now run next := by
    rw [Recovery.commit_of_current h.current, hn]
  unfold onRecovery Step.map
  dsimp only
  rw [hc, ha, hs]
  exact ⟨rfl, h.recovering, rfl, h.healthy, Recovery.isAgreed_moved h.agreed ht run next⟩

/-- A run that has been at the last stage for long enough is completed by a drive. -/
theorem completes_drive (h : p.IsUnderway config clock run) (hready : run.stage = .ready)
    (ht : clock + Nanos.ofSeconds config.readySeconds ≤ now.steady) :
    (p.drive now).answer = some (run.id, true) ∧
      (p.drive now).state.service.posture = (.normal, none) ∧
      (p.drive now).state.recovery.run? = none ∧
      Signal.pushes (p.drive now).signals = [(.normal, none)] := by
  have hst := h.agreed.agreed h.recovering run h.current
  rw [hready] at hst
  obtain ⟨ha, hs, hr, hp⟩ :=
    Recovery.finish_of_agreed now h.agreed.free h.recovering hst run
  have hc : p.recovery.commit now run.id run.stage .passed = p.recovery.finish now run := by
    rw [Recovery.commit_of_current h.current, hready]
    rfl
  rw [drive_of_isUnderway h fun _ => Recovery.isStable_of_isAgreed h.agreed h.current hready ht]
  unfold onRecovery Step.map
  dsimp only
  rw [hc, ha]
  exact ⟨rfl, hs, hr, hp⟩

theorem eq_ready_of_index {stage : Stage} (h : stage.index = Stage.ready.index) :
    stage = .ready := by
  cases stage <;> first | rfl | cases h

theorem index_of_next {stage next : Stage} (h : stage.next = some next) :
    next.index = stage.index + 1 := by
  cases stage <;> cases h <;> rfl

/-- Each drive takes the run one stage further, as far as there are stages. -/
theorem isUnderway_drives {moments : List Moment} (h : p.IsUnderway config clock run)
    (ht : ∀ m ∈ moments, m.steady ≤ clock)
    (hl : run.stage.index + moments.length ≤ Stage.ready.index) :
    (p.drives moments).1 = List.replicate moments.length (some (run.id, true)) ∧
      ∃ run', run'.id = run.id ∧ run'.stage.index = run.stage.index + moments.length ∧
        (p.drives moments).2.IsUnderway config clock run' := by
  induction moments generalizing p run with
  | nil => exact ⟨rfl, run, rfl, rfl, h⟩
  | cons now moments ih =>
    rw [List.length_cons] at hl
    obtain ⟨next, hn⟩ : ∃ next, run.stage.next = some next := by
      cases hs : run.stage with
      | ready =>
        rw [hs] at hl
        omega
      | _ => exact ⟨_, rfl⟩
    obtain ⟨ha, hu⟩ := isUnderway_drive h (ht now List.mem_cons_self) hn
    have hindex : (moved now run next).stage.index = run.stage.index + 1 := index_of_next hn
    obtain ⟨hrest, run', hid, hstage, hu'⟩ := ih hu (fun m hm => ht m (List.mem_cons_of_mem _ hm))
      (by rw [hindex]; omega)
    refine ⟨?_, run', hid, ?_, hu'⟩
    · show (p.drive now).answer :: ((p.drive now).state.drives moments).1 = _
      rw [ha, hrest]
      rfl
    · rw [hstage, hindex, List.length_cons]
      omega

end

/-- After routine calls until the time `clock`, let the system be recovering with a current run.
Then the run stands at the stage of the service. If all breakers are healthy, each drive takes the
run one stage further, as long as stages remain, and answers so; and once it is at the last stage, a
drive after the time for which it has to stay there completes it, answers so and leaves `normal`
without a stage and without a run, which any gate is told. -/
theorem finishes_run {now : Moment} {ids : RunIds} {settings : Settings} {files : Files}
    {p : ControlPlane} (h : (assemble now ids settings files).1 = .ok p)
    {calls : List (Moment × Call)} {clock : Nanos}
    (hc : ∀ c ∈ calls, c.2.isRoutine = true ∧ c.1.steady ≤ clock) (files' : Files) {r : Run}
    (hm : (run (p, files') calls).1.service.mode = .recovering)
    (hr : (run (p, files') calls).1.recovery.run? = some r) :
    let s := (run (p, files') calls).1
    s.service.stage = some r.stage ∧
    ((∀ d, s.breakers.level d = .healthy) →
      ∀ (moments : List Moment) (clock' : Nanos), clock ≤ clock' →
        (∀ m ∈ moments, m.steady ≤ clock') →
        r.stage.index + moments.length ≤ Stage.ready.index →
        let driven := s.drives moments
        driven.1 = List.replicate moments.length (some (r.id, true)) ∧
        (∃ r', driven.2.recovery.run? = some r' ∧ r'.id = r.id ∧
          r'.stage.index = r.stage.index + moments.length) ∧
        (r.stage.index + moments.length = Stage.ready.index → ∀ now' : Moment,
          clock' + Nanos.ofSeconds settings.recovery.readySeconds ≤ now'.steady →
          let last := driven.2.drive now'
          last.answer = some (r.id, true) ∧ last.state.service.mode = .normal ∧
          last.state.service.stage = none ∧ last.state.recovery.run? = none ∧
          ∀ (η : Type) (w : Surroundings η),
            (w.absorb now' last.signals).pushes = w.pushes ++ [(.normal, none)] ∧
            (w.absorb now' last.signals).gate.current?
              = w.gate.current?.map fun _ => (.normal, none))) := by
  intro s
  have ha : s.recovery.IsAgreed settings.recovery clock :=
    isAgreed_run (isAgreed_assemble h clock) hc
  refine ⟨ha.agreed hm r hr, ?_⟩
  intro hb moments clock' hle ht hl driven
  have hu : s.IsUnderway settings.recovery clock' r :=
    ⟨hm, hr, hb, Recovery.isAgreed_mono ha hle⟩
  obtain ⟨hanswers, r', hid, hstage, hu'⟩ := isUnderway_drives hu ht hl
  refine ⟨hanswers, ⟨r', hu'.current, hid, hstage⟩, ?_⟩
  intro hlast now' hnow last
  have hready : r'.stage = .ready := eq_ready_of_index (hstage.trans hlast)
  obtain ⟨hanswer, hposture, hrun, hpushes⟩ := completes_drive hu' hready hnow
  rw [hid] at hanswer
  refine ⟨hanswer, congrArg Prod.fst hposture, congrArg Prod.snd hposture, hrun, ?_⟩
  intro η w
  obtain ⟨hg, hp⟩ := w.absorb_gate now' last.signals
  rw [hpushes] at hg hp
  refine ⟨hp, ?_⟩
  rw [hg, Gate.current?_pushAll]
  rfl

/-- An outage of the broker, which ends a second later. -/
def reconnection : List (Moment × Call) :=
  outage ++ [(⟨1000000000, .epoch⟩, .reportSuccess .broker)]

/-- After the reconnection three drives lead the first run to the last stage, and another one half a
minute later leads the system back to `normal`. -/
theorem finishes_reconnection :
    ∃ p, (assemble ⟨0, .epoch⟩ .counting sampleSettings .empty).1 = .ok p ∧
      let s := (run (p, .empty) reconnection).1
      let driven := s.drives [⟨2000000000, .epoch⟩, ⟨3000000000, .epoch⟩, ⟨4000000000, .epoch⟩]
      let last := driven.2.drive ⟨34000000000, .epoch⟩
      s.service.stage = some .connectBroker ∧
      driven.1 = [some (⟨1⟩, true), some (⟨1⟩, true), some (⟨1⟩, true)] ∧
      last.answer = some (⟨1⟩, true) ∧ last.state.service.mode = .normal := by
  obtain ⟨p, hp⟩ : ∃ p, (assemble ⟨0, .epoch⟩ .counting sampleSettings .empty).1 = .ok p := ⟨_, rfl⟩
  refine ⟨p, hp, ?_⟩
  have hc : ∀ c ∈ reconnection, c.2.isRoutine = true ∧ c.1.steady ≤ 1000000000 := by decide
  obtain ⟨r, hr, hid, hst, hm, hb⟩ : ∃ r, (run (p, .empty) reconnection).1.recovery.run? = some r ∧
      r.id = ⟨1⟩ ∧ r.stage = .connectBroker ∧
      (run (p, .empty) reconnection).1.service.mode = .recovering ∧
      ∀ d, (run (p, .empty) reconnection).1.breakers.level d = .healthy := by
    cases hp
    refine ⟨_, rfl, rfl, rfl, rfl, ?_⟩
    intro d
    cases d <;> rfl
  obtain ⟨hstage, hdriven⟩ := finishes_run hp hc .empty hm hr
  obtain ⟨hanswers, -, hlast⟩ := hdriven hb
    [⟨2000000000, .epoch⟩, ⟨3000000000, .epoch⟩, ⟨4000000000, .epoch⟩] 4000000000 (by decide)
    (by decide) (by rw [hst]; decide)
  obtain ⟨hanswer, hmode, -⟩ := hlast (by rw [hst]; rfl) ⟨34000000000, .epoch⟩ (by decide)
  rw [hid] at hanswers hanswer
  exact ⟨by rw [hstage, hst], hanswers, hanswer, hmode⟩

end ControlPlane

end Failsafe
