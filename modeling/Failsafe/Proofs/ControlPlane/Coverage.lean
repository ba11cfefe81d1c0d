import Failsafe.Proofs.Breaker
import Failsafe.Proofs.ControlPlane.Calls
import Failsafe.Proofs.Recovery.Steps
/-
  The mode is never milder than a failing dependency asks for.

  As long as nobody forces a mode, gives up a run or reports all dependencies healthy by hand, the
  mode is at least as severe as what the cause behind every breaker's level asks for
  (`isCovered_run`); in particular it is `normal` only with all breakers healthy. Three facts carry
  the invariant: an event that does not report everything healthy never makes the mode milder
  than before and than its own target, except into `recovering`, which is more severe than any
  breaker asks for (`handle_raises`); a breaker that heals lets the mode fall to `normal` only when
  the others are healthy; and a run ends only when the check of the last stage finds them so.
-/

namespace Failsafe

theorem Reason.eq_brokerReconnected {r : Reason} (h : r.isRecoveryPath = true)
    (hr : r ≠ .allHealthy) : r = .brokerReconnected := by
  cases r <;> first | rfl | exact absurd rfl hr | cases h

namespace Service

/-- An event that does not report everything healthy lifts the mode to its target at least, or
leads into a recovery. -/
theorem handle_raises (now : Moment) {s : Service} (h : s.override? = none) {e : Event}
    (he : e.reason ≠ .allHealthy) :
    (s.mode.priority ≤ (s.handle now e).state.mode.priority ∧
      e.reason.target.priority ≤ (s.handle now e).state.mode.priority) ∨
    (s.handle now e).state.mode = .recovering := by
  rcases (handle_of_none now h e).2 with ⟨hp, -, hs⟩ | ⟨hp, hm⟩
  · left
    unfold Mode.permits at hp
    rw [decide_eq_false_iff_not] at hp
    rw [hs]
    omega
  · rw [hm]
    rcases hp with hp | hp
    · left
      exact ⟨of_decide_eq_true hp, Nat.le_refl _⟩
    · right
      rw [Reason.eq_brokerReconnected hp he]
      rfl

end Service

namespace ControlPlane

/-- The mode is at least as severe as what the breakers ask for. -/
def IsCovered (mode : Mode) (b : Breakers) : Prop :=
  ∀ (d : Dependency) (r : Reason), d.cause? (b.level d) = some r →
    r.target.priority ≤ mode.priority

/-- Nothing pins the mode, every breaker knows its dependency, and the mode covers them all. -/
structure IsSound (p : ControlPlane) : Prop where
  free : p.service.override? = none
  named : ∀ d, (p.breakers.get d).dependency = d
  covered : IsCovered p.service.mode p.breakers

/-- The call leaves the mode to the decision matrix, and does not claim that everything is
healthy. -/
def Call.isOrdinary : Call → Bool
  | .submit e => e.reason ≠ .allHealthy
  | .advance .. | .abort .. | .force .. | .clear .. => false
  | _ => true

/-! ## Modes and breakers -/

theorem isCovered_of_le {m m' : Mode} {b : Breakers} (h : IsCovered m b)
    (hm : m.priority ≤ m'.priority) : IsCovered m' b :=
  fun d r hr => Nat.le_trans (h d r hr) hm

theorem isCovered_recovering (b : Breakers) : IsCovered .recovering b := by
  intro d r hr
  exact Nat.le_trans (Dependency.priority_of_cause? hr).2 (by decide)

theorem isCovered_of_healthy {m : Mode} {b : Breakers} (h : ∀ d, b.level d = .healthy) :
    IsCovered m b := by
  intro d r hr
  rw [h d] at hr
  simp [Dependency.cause?] at hr

/-- One breaker is replaced by one that asks for no more. -/
theorem isCovered_set {m : Mode} {b : Breakers} (h : IsCovered m b) {d : Dependency}
    {x : Breaker} (hx : ∀ r, d.cause? x.level = some r → r.target.priority ≤ m.priority) :
    IsCovered m (b.set d x) := by
  intro d' r hr
  unfold Breakers.level at hr
  by_cases hd : d' = d
  · subst hd
    rw [Breakers.get_set_self] at hr
    exact hx r hr
  · rw [Breakers.get_set_of_ne b hd] at hr
    exact h d' r hr

/-- Nothing is milder than `normal`, so it covers healthy breakers only. -/
theorem healthy_of_isCovered_normal {b : Breakers} (h : IsCovered .normal b) (d : Dependency) :
    b.level d = .healthy := by
  rw [← d.cause?_eq_none_iff]
  cases hc : d.cause? (b.level d) with
  | none => rfl
  | some r =>
    have hp := (Dependency.priority_of_cause? hc).1
    have hn : r.target.priority ≤ 0 := h d r hc
    omega

theorem named_set {b : Breakers} (h : ∀ d, (b.get d).dependency = d) {d : Dependency}
    {x : Breaker} (hx : x.dependency = d) (d' : Dependency) :
    ((b.set d x).get d').dependency = d' := by
  by_cases hd : d' = d
  · subst hd
    rw [Breakers.get_set_self, hx]
  · rw [Breakers.get_set_of_ne b hd, h d']

/-! ## Events -/

section
variable (now : Moment) {p : ControlPlane}

/-- An event leaves the mode covering what it covered, and what the event itself asks for. -/
theorem isCovered_submit (hf : p.service.override? = none) {e : Event}
    (he : e.reason ≠ .allHealthy) {b : Breakers}
    (h : ∀ m : Mode, p.service.mode.priority ≤ m.priority →
      e.reason.target.priority ≤ m.priority → IsCovered m b) :
    IsCovered (p.submit now e).state.service.mode b := by
  rcases Service.handle_raises now hf he with ⟨hm, ht⟩ | hm
  · exact h _ hm ht
  · show IsCovered (Service.handle now e p.service).state.mode b
    rw [hm]
    exact isCovered_recovering b

theorem free_submit (hf : p.service.override? = none) (e : Event) :
    (p.submit now e).state.service.override? = none :=
  (Service.handle_of_none now hf e).1

theorem isSound_submit (h : p.IsSound) {e : Event} (he : e.reason ≠ .allHealthy) :
    (p.submit now e).state.IsSound where
  free := free_submit now h.free e
  named := h.named
  covered := isCovered_submit now h.free he fun _ hm _ => isCovered_of_le h.covered hm

/-! ## Reports -/

/-- A change of level is settled: the mode covers it from then on. -/
theorem isSound_settle {d : Dependency} {x : Breaker} {e : Event} (h : p.IsSound)
    (hx : x.dependency = d)
    (hc : ∀ r, d.cause? x.level = some r →
      e.reason ≠ .allHealthy ∧ r.target.priority ≤ e.reason.target.priority) :
    ({ p with breakers := p.breakers.set d x }.settle now e).state.IsSound := by
  have hnamed : ∀ d', ((p.breakers.set d x).get d').dependency = d' := named_set h.named hx
  unfold settle
  split
  · next ha =>
    -- the mode stays, and the dependency that has healed asks for nothing
    refine ⟨h.free, hnamed, isCovered_set h.covered ?_⟩
    intro r hr
    exact absurd ha.1 (hc r hr).1
  · next ha =>
    refine ⟨free_submit now h.free e, hnamed, ?_⟩
    by_cases he : e.reason = .allHealthy
    · have hu : (p.breakers.set d x).unhealthy = [] := by
        rw [not_and, Decidable.not_not] at ha
        exact ha he
      exact isCovered_of_healthy ((Breakers.unhealthy_eq_nil_iff _).mp hu)
    · refine isCovered_submit now h.free he fun m hm ht => ?_
      refine isCovered_set (isCovered_of_le h.covered hm) ?_
      intro r hr
      exact Nat.le_trans (hc r hr).2 ht

/-- A dependency that fails is settled with the cause it reports. -/
theorem isSound_settle_of_cause {d : Dependency} {x : Breaker} {e : Event} (h : p.IsSound)
    (hx : x.dependency = d) (hr : d.cause? x.level = some e.reason) :
    ({ p with breakers := p.breakers.set d x }.settle now e).state.IsSound := by
  refine isSound_settle now h hx ?_
  intro r hr'
  obtain rfl := Option.some.inj (hr.symm.trans hr')
  exact ⟨Dependency.ne_allHealthy_of_cause? hr, Nat.le_refl _⟩

/-- A breaker whose level stays is replaced by one that knows its dependency too. -/
theorem isSound_set {d : Dependency} {x : Breaker} (h : p.IsSound) (hx : x.dependency = d)
    (hl : x.level = p.breakers.level d) : { p with breakers := p.breakers.set d x }.IsSound := by
  refine ⟨h.free, named_set h.named hx, isCovered_set h.covered ?_⟩
  intro r hr
  rw [hl] at hr
  exact h.covered d r hr

theorem isSound_reportFailure (h : p.IsSound) (d : Dependency) :
    (p.reportFailure now d).state.IsSound := by
  have hd := h.named d
  unfold reportFailure onBreaker
  rcases (p.breakers.get d).recordFailure_cases now with
    ⟨-, ha, hs⟩ | ⟨-, -, ⟨e, ha, he⟩, hs⟩ | ⟨-, -, ⟨e, ha, he⟩, hs⟩ | ⟨hl, -, ha, hs⟩
  · simp only [ha, hs]
    exact isSound_set h hd rfl
  · simp only [ha, hs]
    refine isSound_settle_of_cause now h hd ?_
    rw [he, hd]
    rfl
  · simp only [ha, hs]
    refine isSound_settle_of_cause now h hd ?_
    rw [he, hd]
    rfl
  · simp only [ha, hs]
    exact isSound_set h hd rfl

/-! ## Recoveries -/

theorem isSound_start (h : p.IsSound) (trigger : Trigger) (operator : Option String) :
    (p.onRecovery (·.start now trigger operator)).state.IsSound := by
  obtain ⟨hf, hm⟩ := p.recovery.start_of_free now h.free trigger operator
  refine ⟨hf, h.named, ?_⟩
  show IsCovered (p.recovery.start now trigger operator).state.service.mode p.breakers
  rcases hm with hm | hm
  · rw [hm]
    exact h.covered
  · rw [hm]
    exact isCovered_recovering _

theorem isSound_followUp (h : p.IsSound) (o : Outcome) : (p.followUp now o).state.IsSound := by
  rcases p.followUp_cases now o with ⟨-, hs⟩ | ⟨-, hs⟩ <;> rw [hs]
  · exact isSound_start now h .auto none
  · exact h

theorem isSound_reportSuccess (h : p.IsSound) (d : Dependency) :
    (p.reportSuccess now d).state.IsSound := by
  have hd := h.named d
  unfold reportSuccess onBreaker
  rcases (p.breakers.get d).recordSuccess_cases now with ⟨-, ha, hs⟩ | ⟨-, ⟨e, ha, -⟩, hs⟩
  · simp only [ha, hs]
    exact isSound_set h hd rfl
  · simp only [ha, hs]
    refine isSound_followUp now ?_ _
    refine isSound_settle now h hd fun r hr => ?_
    cases hr

/-- The second half of an advance is sound if the last stage was passed with healthy breakers
only. -/
theorem isSound_commit (h : p.IsSound) (id : RunId) (stage : Stage) (verdict : Verdict)
    (hv : stage = .ready → verdict = .passed → ∀ d, p.breakers.level d = .healthy) :
    (p.onRecovery (·.commit now id stage verdict)).state.IsSound := by
  obtain ⟨hf, hm⟩ := p.recovery.commit_of_free now h.free id stage verdict
  refine ⟨hf, h.named, ?_⟩
  show IsCovered (p.recovery.commit now id stage verdict).state.service.mode p.breakers
  rcases hm with hm | ⟨hready, hp⟩
  · rw [hm]
    exact h.covered
  · exact isCovered_of_healthy (hv hready hp)

theorem isSound_drive (h : p.IsSound) : (p.drive now).state.IsSound := by
  rcases p.drive_cases now with hs | ⟨id, stage, hs⟩ <;> rw [hs]
  · exact h
  · refine isSound_commit now h id stage _ ?_
    rintro rfl hp
    exact Breakers.healthy_of_check_ready hp

/-! ## Writes -/

theorem isSound_write (h : p.IsSound) (e : Entry) (files : Files) :
    (p.write now e files).state.1.IsSound := by
  obtain ⟨b, hs⟩ := p.write_cases now e files
  have hb : { p with buffer := b }.IsSound := ⟨h.free, h.named, h.covered⟩
  rcases hs with hs | hs <;> rw [hs]
  · exact hb
  · refine isSound_submit now hb ?_
    show Reason.databaseBufferFull ≠ .allHealthy
    decide

end

/-! ## Runs -/

/-- An ordinary call keeps the mode covering the breakers. -/
theorem isSound_perform (now : Moment) {s : ControlPlane × Files} (h : s.1.IsSound) {c : Call}
    (hc : c.isOrdinary = true) : (c.perform now s).1.IsSound := by
  cases c with
  | submit e => exact isSound_submit now h (of_decide_eq_true hc)
  | reportFailure d => exact isSound_reportFailure now h d
  | reportSuccess d => exact isSound_reportSuccess now h d
  | drive => exact isSound_drive now h
  | start trigger operator => exact isSound_start now h trigger operator
  | write e => exact isSound_write now h e s.2
  | flush reply => exact ⟨h.free, h.named, h.covered⟩
  | advance id check => cases hc
  | abort id reason => cases hc
  | force mode ttlSeconds operator reason => cases hc
  | clear operator => cases hc

theorem isSound_run {s : ControlPlane × Files} (h : s.1.IsSound) {calls : List (Moment × Call)}
    (hc : ∀ c ∈ calls, c.2.isOrdinary = true) : (run s calls).1.IsSound := by
  induction calls generalizing s with
  | nil => exact h
  | cons c calls ih =>
    rw [run_cons]
    exact ih (isSound_perform c.1 h (hc c List.mem_cons_self))
      fun c' hc' => hc c' (List.mem_cons_of_mem _ hc')

theorem isSound_assemble {now : Moment} {ids : RunIds} {settings : Settings} {files : Files}
    {p : ControlPlane} (h : (assemble now ids settings files).1 = .ok p) : p.IsSound := by
  obtain ⟨hb, hr⟩ := assemble_cases h
  refine ⟨?_, ?_, ?_⟩
  · rw [service, hr]
    rfl
  · intro d
    rw [hb]
    cases d <;> rfl
  · refine isCovered_of_healthy fun d => ?_
    rw [hb]
    cases d <;> rfl

/-- After ordinary calls the mode is at least as severe as every breaker asks for, and it is
`normal` only if all breakers are healthy. -/
theorem isCovered_run {now : Moment} {ids : RunIds} {settings : Settings} {files : Files}
    {p : ControlPlane} (h : (assemble now ids settings files).1 = .ok p)
    {calls : List (Moment × Call)} (hc : ∀ c ∈ calls, c.2.isOrdinary = true) (files' : Files) :
    (∀ (d : Dependency) (r : Reason),
      d.cause? ((run (p, files') calls).1.breakers.level d) = some r →
        r.target.priority ≤ (run (p, files') calls).1.service.mode.priority) ∧
    ((run (p, files') calls).1.service.mode = .normal →
      ∀ d, (run (p, files') calls).1.breakers.level d = .healthy) := by
  have hs : (run (p, files') calls).1.IsSound := isSound_run (isSound_assemble h) hc
  refine ⟨hs.covered, fun hn d => ?_⟩
  have hcov := hs.covered
  rw [hn] at hcov
  exact healthy_of_isCovered_normal hcov d

/-- Three failed probes of the broker within a second. -/
def outage : List (Moment × Call) :=
  [(⟨0, .epoch⟩, .reportFailure .broker), (⟨1, .epoch⟩, .reportFailure .broker),
    (⟨2, .epoch⟩, .reportFailure .broker)]

/-- The standard settings, except that the system starts in `normal`. -/
def sampleSettings : Settings := { Settings.standard with initialMode := .normal }

/-- From `normal` on, an outage of the broker leads at least to `disconnected`. -/
theorem isCovered_outage :
    ∃ p, (assemble ⟨0, .epoch⟩ .counting sampleSettings .empty).1 = .ok p ∧
      Mode.disconnected.priority ≤ (run (p, .empty) outage).1.service.mode.priority := by
  obtain ⟨p, hp⟩ : ∃ p, (assemble ⟨0, .epoch⟩ .counting sampleSettings .empty).1 = .ok p := ⟨_, rfl⟩
  have hrun := (isCovered_run hp (by decide : ∀ c ∈ outage, c.2.isOrdinary = true) .empty).1
  refine ⟨p, hp, hrun .broker .brokerDisconnect ?_⟩
  cases hp
  rfl

end ControlPlane

end Failsafe
