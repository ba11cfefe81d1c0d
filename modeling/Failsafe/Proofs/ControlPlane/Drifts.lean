import Failsafe.Proofs.ControlPlane.Masking
import Failsafe.Proofs.ControlPlane.Progress
import Failsafe.Proofs.ControlPlane.Reach
/-
  When a broker that reconnects finds a recovery that cannot move.

  The service and the current run go through the stages together. Only an event from outside or an
  operator's command leads the service into a recovery from elsewhere without a new run
  (`settled_or_enters`); the service then stands at the first stage, and a run that stands further
  on has drifted. It stays so until one of the two moves (`agrees_or_drifted`). A reconnect of the
  broker leads into a recovery with a run, and the two agree just unless that run had drifted
  before (`reconnect_agrees_iff`).
-/

namespace Failsafe

namespace Service

theorem isStaged_perform (now : Moment) {s : Service} (h : s.posture.IsStaged) (c : Call) :
    (c.perform now s).posture.IsStaged := by
  have ht : (c.step now s).state.posture.IsStaged := (tells_step c).staged h
  cases c <;> exact ht

theorem isStaged_of_reaches {now : Moment} {s s' : Service} (h : s.posture.IsStaged)
    (hr : Reaches now s s') : s'.posture.IsStaged := by
  induction hr with
  | refl => exact h
  | tail _ hstep ih =>
    obtain ⟨c, -, rfl⟩ := hstep
    exact isStaged_perform now ih c

/-- A recovery that is entered from a recovery keeps its stage. -/
theorem stageIn_of_recovering {s : Service} (h : s.posture.IsStaged) (hm : s.mode = .recovering) :
    stageIn .recovering s.stage = s.stage := by
  obtain ⟨stage, hstage⟩ : ∃ stage, s.stage = some stage :=
    Option.isSome_iff_exists.mp (h.mpr hm)
  rw [hstage]
  rfl

end Service

namespace Recovery

/-- Mode, stage and run are as they were. -/
structure Rests (r r' : Recovery) : Prop where
  posture : r'.service.posture = r.service.posture
  run : r'.run? = r.run?

/-- During a recovery the service stands where the run stands. -/
def Agrees (r : Recovery) : Prop :=
  r.service.mode = .recovering → ∀ run, r.run? = some run → r.service.stage = some run.stage

/-- Nothing has changed, or the run and the service agree. -/
def Settled (r r' : Recovery) : Prop := Rests r r' ∨ Agrees r'

/-- The service has been led into a recovery from elsewhere, and the run is as it was. -/
structure Enters (r r' : Recovery) : Prop where
  outside : r.service.mode ≠ .recovering
  posture : r'.service.posture = (.recovering, some .first)
  run : r'.run? = r.run?

section
variable {now : Moment} {r r' r'' : Recovery}

theorem Rests.mode (h : Rests r r') : r'.service.mode = r.service.mode :=
  congrArg Prod.fst h.posture

theorem Rests.stage (h : Rests r r') : r'.service.stage = r.service.stage :=
  congrArg Prod.snd h.posture

theorem rests_refl (r : Recovery) : Rests r r := ⟨rfl, rfl⟩

theorem rests_trans (h : Rests r r') (h' : Rests r' r'') : Rests r r'' :=
  ⟨h'.posture.trans h.posture, h'.run.trans h.run⟩

theorem rests_of_isRefreshed (h : r.IsRefreshed now r') : Rests r r' := by
  rcases h with rfl | rfl
  · exact rests_refl _
  · exact ⟨Service.posture_refresh now _, rfl⟩

theorem agrees_of_rests (h : Rests r r') (ha : Agrees r) : Agrees r' := by
  intro hm run hr
  rw [h.stage]
  exact ha (h.mode.symm.trans hm) run (h.run.symm.trans hr)

theorem settled_trans (h : Settled r r') (h' : Settled r' r'') : Settled r r'' := by
  rcases h' with h' | h'
  · rcases h with h | h
    · exact Or.inl (rests_trans h h')
    · exact Or.inr (agrees_of_rests h' h)
  · exact Or.inr h'

theorem agrees_of_none (h : r.run? = none) : Agrees r :=
  fun _ _ hr => nomatch h.symm.trans hr

theorem agrees_of_outside (h : r.service.mode ≠ .recovering) : Agrees r :=
  fun hm => absurd hm h

/-! ## What is done to the service alone -/

/-- A mode that is set along with the stage it allows. -/
theorem settled_or_enters_of_posture (h : r.service.posture.IsStaged) {s : Service} {mode : Mode}
    (hs : s.posture = (mode, Service.stageIn mode r.service.stage)) :
    Settled r { r with service := s } ∨
      (mode = .recovering ∧ Enters r { r with service := s }) := by
  have hmode : s.mode = mode := congrArg Prod.fst hs
  by_cases ht : mode = .recovering
  · subst ht
    by_cases hm : r.service.mode = .recovering
    · refine Or.inl (Or.inl ⟨?_, rfl⟩)
      rw [hs, Service.stageIn_of_recovering h hm, Service.posture, hm]
    · have hnone : r.service.stage = none :=
        Option.not_isSome_iff_eq_none.mp fun hsome => hm (h.mp hsome)
      refine Or.inr ⟨rfl, hm, ?_, rfl⟩
      rw [hs, hnone]
      rfl
  · exact Or.inl (Or.inr (agrees_of_outside (hmode.trans_ne ht)))

/-- An event that leads into a recovery from elsewhere is applied. -/
theorem handle_settled_or_enters (now : Moment) (h : r.service.posture.IsStaged) (e : Event) :
    let done := r.service.handle now e
    Settled r { r with service := done.state } ∨
    (Enters r { r with service := done.state } ∧ done.state.override? = none ∧
      e.reason.target = .recovering ∧
      ∃ t, done.answer = .applied t ∧ t.fromMode = r.service.mode ∧ t.toMode = .recovering) := by
  intro done
  have hkept : done.state = (r.service.refresh now).state →
      Settled r { r with service := done.state } := by
    intro hs
    rw [hs]
    exact Or.inl ⟨Service.posture_refresh now _, rfl⟩
  rcases r.service.handle_cases now e with ⟨-, -, hs⟩ | ⟨-, -, -, -, hs⟩ | ⟨hf, -, ha, hs⟩
  · exact Or.inl (hkept hs)
  · exact Or.inl (hkept hs)
  · have hp : done.state.posture
        = (e.reason.target, Service.stageIn e.reason.target r.service.stage) := by
      rw [show done.state = _ from hs]
      rfl
    rcases settled_or_enters_of_posture h hp with hk | ⟨ht, he⟩
    · exact Or.inl hk
    · refine Or.inr ⟨he, ?_, ht, _, ha, Service.refresh_mode now _, ht⟩
      rw [show done.state = _ from hs]
      show (r.service.refresh now).state.override? = none
      rw [Service.state_refresh_of_expired hf]
      rfl

theorem force_settled_or_enters (h : r.service.posture.IsStaged) (mode : Mode) (ttlSeconds : Nat)
    (operator reason : String) :
    let s := (r.service.force now mode ttlSeconds operator reason).state
    Settled r { r with service := s } ∨ Enters r { r with service := s } := by
  intro s
  rcases r.service.force_cases now mode ttlSeconds operator reason with ⟨-, hs⟩ | ⟨-, hm, hst, -⟩
  · rw [show s = r.service from hs]
    exact Or.inl (Or.inl (rests_refl r))
  · exact (settled_or_enters_of_posture h (Prod.ext hm hst)).imp_right And.right

theorem settled_clear (operator : String) :
    Settled r { r with service := (r.service.clear now operator).state } := by
  rcases r.service.clear_cases now operator with hs | hs <;> rw [hs] <;>
    exact Or.inl ⟨rfl, rfl⟩

/-! ## What the protocol does -/

theorem settled_start (trigger : Trigger) (operator : Option String) :
    Settled r (r.start now trigger operator).state := by
  rcases r.start_cases now trigger operator with ⟨-, hs⟩ | ⟨-, -, hs⟩
  · exact Or.inl (rests_of_isRefreshed hs)
  · rw [hs]
    right
    rintro - run ⟨⟩
    rfl

theorem settled_commit (id : RunId) (stage : Stage) (verdict : Verdict) :
    Settled r (r.commit now id stage verdict).state := by
  rcases r.commit_cases now id stage verdict with
    ⟨-, hs⟩ | ⟨-, -, -, -, run, -, -, -, ⟨next, -, hs⟩ | ⟨-, -, hs⟩⟩
  · exact Or.inl (rests_of_isRefreshed hs)
  · rw [hs]
    right
    rintro - run' ⟨⟩
    rfl
  · rw [hs]
    exact Or.inr (agrees_of_none rfl)

theorem settled_abort (id : RunId) (reason : String) :
    Settled r (r.abort now id reason).state := by
  rcases r.abort_cases now id reason with ⟨-, -, hs⟩ | ⟨run, -, -, -, hs⟩ <;> rw [hs]
  · exact Or.inl (rests_refl r)
  · exact Or.inr (agrees_of_none rfl)

/-- Without an override a run is started, and the service stands with it at the first stage. -/
theorem start_auto_of_free (now : Moment) (hf : r.service.override? = none) :
    (r.start now .auto none).state.service.posture = (.recovering, some .first) ∧
      ∃ run, (r.start now .auto none).state.run? = some run ∧ run.stage = .first := by
  rcases r.start_cases now .auto none with ⟨⟨e, he⟩, -⟩ | ⟨-, -, hs⟩
  · obtain ⟨id, hid⟩ := start_auto_ok now hf
    cases he.symm.trans hid
  · rw [hs]
    exact ⟨rfl, _, rfl, rfl⟩

end

end Recovery

namespace ControlPlane

open Recovery (Settled Enters Agrees rests_refl)

/-- The call sets the mode past the recovery protocol and the reports. -/
def Call.isDirect : Call → Bool
  | .submit _ | .force .. => true
  | _ => false

/-- The run stood past the first stage while the mode was another than `recovering`, when one of
the calls led the service into a recovery again; since then the service has stood at the first
stage, and the run is the same. -/
def IsDrifted (s : ControlPlane × Files) (calls : List (Moment × Call)) (current : Run) : Prop :=
  current.stage ≠ .first ∧
  ∃ pre c post, calls = pre ++ c :: post ∧ c.2.isDirect = true ∧
    (run s pre).1.service.mode ≠ .recovering ∧ (run s pre).1.recovery.run? = some current ∧
    ∀ mid, mid <+: post →
      (run s (pre ++ c :: mid)).1.service.posture = (.recovering, some .first) ∧
        (run s (pre ++ c :: mid)).1.recovery.run? = some current

/-! ## One call -/

section
variable {now : Moment} {p : ControlPlane}

theorem settled_submit (h : p.service.posture.IsStaged) {e : Event}
    (he : e.reason.target ≠ .recovering) :
    Settled p.recovery (p.submit now e).state.recovery := by
  rcases Recovery.handle_settled_or_enters now h e with hs | ⟨-, -, ht, -⟩
  · exact hs
  · exact absurd ht he

theorem settled_reportFailure (h : p.service.posture.IsStaged) (d : Dependency) :
    Settled p.recovery (p.reportFailure now d).state.recovery := by
  rcases p.reportFailure_cases now d with ⟨-, hs⟩ | ⟨e, he, hs⟩ <;> rw [hs]
  · exact Or.inl (rests_refl _)
  · rcases (p.onBreaker d (·.recordFailure now)).state.settle_cases now e with ⟨hs, -⟩ | hs <;>
      rw [hs]
    · exact Or.inl (rests_refl _)
    · exact settled_submit (p := (p.onBreaker d (·.recordFailure now)).state) h
        (target_of_recordFailure he)

theorem settled_followUp (o : Outcome) :
    Settled p.recovery (p.followUp now o).state.recovery := by
  rcases p.followUp_cases now o with ⟨-, hs⟩ | ⟨-, hs⟩ <;> rw [hs]
  · exact Recovery.settled_start .auto none
  · exact Or.inl (rests_refl _)

/-- An event that leads into a recovery from elsewhere is followed by a run that agrees. -/
theorem settled_followUp_submit (h : p.service.posture.IsStaged) (e : Event) :
    Settled p.recovery
      ((p.submit now e).state.followUp now (p.submit now e).answer).state.recovery := by
  rcases Recovery.handle_settled_or_enters now h e with
    hs | ⟨hen, hf, -, t, ha, hfrom, hto⟩
  · exact Recovery.settled_trans hs (settled_followUp (p := (p.submit now e).state) _)
  · have hanswer : (p.submit now e).answer = .applied t := ha
    rcases (p.submit now e).state.followUp_cases now (p.submit now e).answer with
      ⟨-, hs⟩ | ⟨hc, -⟩
    · rw [hs]
      obtain ⟨hp, run, hr, hfirst⟩ := Recovery.start_auto_of_free now
        (r := (p.submit now e).state.recovery) hf
      right
      intro _ run' hr'
      obtain rfl := Option.some.inj (hr.symm.trans hr')
      rw [hfirst]
      exact congrArg Prod.snd hp
    · rw [hanswer] at hc
      have hmode := recovering_of_not_callsForRecovery hc hto
      exact absurd (hfrom.symm.trans hmode) hen.outside

theorem settled_reportSuccess (h : p.service.posture.IsStaged) (d : Dependency) :
    Settled p.recovery (p.reportSuccess now d).state.recovery := by
  rcases p.reportSuccess_cases now d with ⟨-, hs⟩ | ⟨e, -, hs⟩ <;> rw [hs]
  · exact Or.inl (rests_refl _)
  · rcases (p.onBreaker d (·.recordSuccess now)).state.settle_cases now e with ⟨hs, ha⟩ | hs
    · rw [hs, ha]
      exact settled_followUp (p := (p.onBreaker d (·.recordSuccess now)).state) _
    · rw [hs]
      exact settled_followUp_submit (p := (p.onBreaker d (·.recordSuccess now)).state) h e

theorem settled_advance (id : RunId) (check : Stage → Verdict) :
    Settled p.recovery (p.advance now id check).state.recovery := by
  rcases p.advance_cases now id check with hs | ⟨stage, hs⟩ <;> rw [hs]
  · exact Or.inl (rests_refl _)
  · exact Recovery.settled_commit id stage _

theorem settled_drive : Settled p.recovery (p.drive now).state.recovery := by
  rcases p.drive_cases now with hs | ⟨id, stage, hs⟩ <;> rw [hs]
  · exact Or.inl (rests_refl _)
  · exact Recovery.settled_commit id stage _

theorem settled_write (h : p.service.posture.IsStaged) (e : Entry) (files : Files) :
    Settled p.recovery (p.write now e files).state.1.recovery := by
  obtain ⟨b, hs | hs⟩ := p.write_cases now e files <;> rw [hs]
  · exact Or.inl (rests_refl _)
  · refine settled_submit (p := { p with buffer := b }) h ?_
    show Reason.databaseBufferFull.target ≠ .recovering
    decide

end

/-- Only an event from outside or an operator leads into a recovery without a new run. -/
theorem settled_or_enters (now : Moment) {s : ControlPlane × Files}
    (h : s.1.service.posture.IsStaged) (c : Call) :
    Settled s.1.recovery (c.perform now s).1.recovery ∨
      (c.isDirect = true ∧ Enters s.1.recovery (c.perform now s).1.recovery) := by
  cases c with
  | submit e =>
    exact (Recovery.handle_settled_or_enters now h e).imp_right fun he => ⟨rfl, he.1⟩
  | force mode ttlSeconds operator reason =>
    exact (Recovery.force_settled_or_enters h mode ttlSeconds operator reason).imp_right
      fun he => ⟨rfl, he⟩
  | reportFailure d => exact Or.inl (settled_reportFailure h d)
  | reportSuccess d => exact Or.inl (settled_reportSuccess h d)
  | drive => exact Or.inl settled_drive
  | start trigger operator => exact Or.inl (Recovery.settled_start trigger operator)
  | advance id check => exact Or.inl (settled_advance id check)
  | abort id reason => exact Or.inl (Recovery.settled_abort id reason)
  | clear operator => exact Or.inl (Recovery.settled_clear operator)
  | write e => exact Or.inl (settled_write h e s.2)
  | flush reply => exact Or.inl (Or.inl (rests_refl _))

theorem isStaged_call (now : Moment) {s : ControlPlane × Files}
    (h : s.1.service.posture.IsStaged) (c : Call) :
    (c.perform now s).1.service.posture.IsStaged := by
  cases hc : (Move.call c).isOverriding with
  | false => exact Service.isStaged_of_reaches h (reaches_perform now s hc)
  | true =>
    cases c with
    | force mode ttlSeconds operator reason =>
      exact Service.isStaged_perform now h (.force mode ttlSeconds operator reason)
    | clear operator => exact Service.isStaged_perform now h (.clear operator)
    | _ => cases hc

/-! ## Many calls -/

theorem isStaged_assemble {now : Moment} {ids : RunIds} {settings : Settings} {files : Files}
    {p : ControlPlane} (h : (assemble now ids settings files).1 = .ok p) :
    p.service.posture.IsStaged := by
  rw [service, (assemble_cases h).2]
  exact Service.isStaged_stageIn _ none

theorem agrees_assemble {now : Moment} {ids : RunIds} {settings : Settings} {files : Files}
    {p : ControlPlane} (h : (assemble now ids settings files).1 = .ok p) : Agrees p.recovery := by
  rw [(assemble_cases h).2]
  exact Recovery.agrees_of_none rfl

theorem isStaged_run {s : ControlPlane × Files} (h : s.1.service.posture.IsStaged)
    (calls : List (Moment × Call)) : (run s calls).1.service.posture.IsStaged := by
  induction calls generalizing s with
  | nil => exact h
  | cons c calls ih =>
    rw [run_cons]
    exact ih (isStaged_call c.1 h c.2)

/-- A run that has drifted goes on doing so as long as nothing moves. -/
theorem isDrifted_concat {s : ControlPlane × Files} {calls : List (Moment × Call)}
    {c : Moment × Call} {current : Run} (h : IsDrifted s calls current)
    (hk : Recovery.Rests (run s calls).1.recovery (c.2.perform c.1 (run s calls)).1.recovery) :
    IsDrifted s (calls ++ [c]) current := by
  obtain ⟨hstage, pre, c', post, rfl, hdirect, hm, hr, hpost⟩ := h
  refine ⟨hstage, pre, c', post ++ [c], by simp, hdirect, hm, hr, fun mid hmid => ?_⟩
  rcases List.prefix_concat_iff.mp hmid with rfl | hmid
  · obtain ⟨hp, hr'⟩ := hpost post (List.prefix_refl _)
    rw [← List.cons_append, ← List.append_assoc, run_concat]
    exact ⟨hk.posture.trans hp, hk.run.trans hr'⟩
  · exact hpost mid hmid

/-- During a recovery the service stands where the run stands, unless the run has drifted. -/
theorem agrees_or_drifted {s : ControlPlane × Files} (hs : s.1.service.posture.IsStaged)
    (ha : Agrees s.1.recovery) {calls : List (Moment × Call)} {current : Run}
    (hm : (run s calls).1.service.mode = .recovering)
    (hr : (run s calls).1.recovery.run? = some current) :
    (run s calls).1.service.stage = some current.stage ∨ IsDrifted s calls current := by
  induction calls using List.reverseRecOn with
  | nil => exact Or.inl (ha hm current hr)
  | append_singleton calls c ih =>
    rw [run_concat] at hm hr ⊢
    rcases settled_or_enters c.1 (isStaged_run hs calls) c.2 with (hk | ha') | ⟨hdirect, he⟩
    · have hstage : (c.2.perform c.1 (run s calls)).1.service.stage
          = (run s calls).1.service.stage := hk.stage
      rw [hstage]
      exact (ih (hk.mode.symm.trans hm) (hk.run.symm.trans hr)).imp_right
        fun hd => isDrifted_concat hd hk
    · exact Or.inl (ha' hm current hr)
    · by_cases hfirst : current.stage = .first
      · left
        rw [hfirst]
        exact congrArg Prod.snd he.posture
      · refine Or.inr ⟨hfirst, calls, c, [], rfl, hdirect, he.outside, he.run.symm.trans hr, ?_⟩
        intro mid hmid
        rw [List.prefix_nil.mp hmid, run_concat]
        exact ⟨he.posture, hr⟩

/-- A recovery without a run calls for one. -/
theorem run?_of_not_callsForRecovery {p : ControlPlane} {t : Transition}
    (hc : p.callsForRecovery (.applied t) = false) (ht : t.toMode = .recovering) :
    ∃ current, p.recovery.run? = some current := by
  unfold callsForRecovery at hc
  simp only [Outcome.transition?, ht, decide_true, Bool.true_and, Bool.or_eq_false_iff] at hc
  exact Option.isSome_iff_exists.mp (Option.isNone_eq_false_iff.mp hc.2)

/-- A success whose outcome is known was settled so and then followed up. -/
theorem reportSuccess_of_answer {now : Moment} {p : ControlPlane} {d : Dependency} {o : Outcome}
    (h : (p.reportSuccess now d).answer = some o) :
    ∃ e, let noted := (p.onBreaker d (·.recordSuccess now)).state
      (noted.settle now e).answer = o ∧
      (p.reportSuccess now d).state = ((noted.settle now e).state.followUp now o).state := by
  unfold reportSuccess at h ⊢
  dsimp only at h ⊢
  split at h
  · cases h
  · next e _ =>
    exact ⟨e, Option.some.inj h, by rw [← Option.some.inj h]⟩

/-- A success that leads into a recovery leaves it with a new run, both at the first stage, or
finds the system in a recovery with a run and changes neither. -/
theorem reconnect_cases {now : Moment} {p : ControlPlane} (h : p.service.posture.IsStaged)
    {d : Dependency} {t : Transition} (ha : (p.reportSuccess now d).answer = some (.applied t))
    (ht : t.toMode = .recovering) :
    let after := (p.reportSuccess now d).state
    (after.service.posture = (.recovering, some .first) ∧
      ∃ current, after.recovery.run? = some current ∧ current.stage = .first) ∨
    (p.service.mode = .recovering ∧ (∃ current, p.recovery.run? = some current) ∧
      Recovery.Rests p.recovery after.recovery) := by
  intro after
  obtain ⟨e, hanswer, hafter⟩ := reportSuccess_of_answer ha
  rcases (p.onBreaker d (·.recordSuccess now)).state.settle_cases now e with ⟨-, hb⟩ | hs
  · cases hanswer.symm.trans hb
  · rw [hs] at hanswer hafter
    rcases p.service.handle_cases now e with ⟨-, hn, -⟩ | ⟨-, -, -, hn, -⟩ | ⟨hf, -, hn, hstate⟩
    · cases hanswer.symm.trans hn
    · cases hanswer.symm.trans hn
    · obtain rfl := Outcome.applied.inj (hanswer.symm.trans hn)
      have htarget : e.reason.target = .recovering := ht
      let submitted := ((p.onBreaker d (·.recordSuccess now)).state.submit now e).state
      have hservice : submitted.service = _ := hstate
      rcases submitted.followUp_cases now (.applied _) with ⟨-, hs'⟩ | ⟨hc, hs'⟩
      · left
        have hfree : submitted.service.override? = none := by
          rw [hservice]
          show (p.service.refresh now).state.override? = none
          rw [Service.state_refresh_of_expired hf]
          rfl
        rw [show after = _ from hafter.trans hs']
        exact Recovery.start_auto_of_free now hfree
      · right
        have hfrom := recovering_of_not_callsForRecovery hc ht
        have hm : p.service.mode = .recovering := (Service.refresh_mode now _).symm.trans hfrom
        refine ⟨hm, run?_of_not_callsForRecovery hc ht, ?_⟩
        rw [show after = _ from hafter.trans hs']
        refine ⟨?_, rfl⟩
        show submitted.service.posture = p.service.posture
        rw [hservice]
        show (e.reason.target, Service.stageIn e.reason.target p.service.stage) = _
        rw [htarget, Service.stageIn_of_recovering h hm, Service.posture, hm]

/-- A reconnect of the broker that leads into a recovery leaves it with a run. The run and the
service stand at the same stage just unless the run had drifted before. -/
theorem reconnect_agrees_iff {now : Moment} {ids : RunIds} {settings : Settings} {files : Files}
    {p : ControlPlane} (h : (assemble now ids settings files).1 = .ok p)
    (calls : List (Moment × Call)) (files' : Files) {now' : Moment} {t : Transition}
    (ha : ((run (p, files') calls).1.reportSuccess now' .broker).answer = some (.applied t))
    (ht : t.toMode = .recovering) :
    let after := ((run (p, files') calls).1.reportSuccess now' .broker).state
    after.service.mode = .recovering ∧ ∃ current, after.recovery.run? = some current ∧
      (after.service.stage = some current.stage ↔ ¬ IsDrifted (p, files') calls current) := by
  intro after
  have hstaged : (run (p, files') calls).1.service.posture.IsStaged :=
    isStaged_run (s := (p, files')) (isStaged_assemble h) calls
  rcases reconnect_cases hstaged ha ht with ⟨hp, current, hr, hfirst⟩ | ⟨hm, ⟨current, hr⟩, hk⟩
  · have hstage : after.service.stage = some .first := congrArg Prod.snd hp
    refine ⟨congrArg Prod.fst hp, current, hr, fun _ hd => hd.1 hfirst, fun _ => ?_⟩
    rw [hstage, hfirst]
  · have hstage : after.service.stage = (run (p, files') calls).1.service.stage := hk.stage
    refine ⟨hk.mode.trans hm, current, hk.run.trans hr, ?_⟩
    rw [hstage]
    constructor
    · rintro hs ⟨hne, pre, c, post, rfl, -, -, -, hpost⟩
      -- a run that has drifted stands past the first stage, and the service at it
      have hfirst := congrArg Prod.snd (hpost post (List.prefix_refl _)).1
      exact hne (Option.some.inj (hs.symm.trans hfirst))
    · exact (agrees_or_drifted (s := (p, files')) (isStaged_assemble h)
        (agrees_assemble h) hm hr).resolve_right

/-- A recovery passes its first stage, a hard breach of the risk limits halts the system, and an
event from outside leads back into a recovery. Then the broker fails. -/
def breachThenReturn : List (Moment × Call) :=
  [(⟨0, .epoch⟩, .reportFailure .broker), (⟨1, .epoch⟩, .reportSuccess .broker),
    (⟨2, .epoch⟩, .drive),
    (⟨3, .epoch⟩, .submit (Event.new ⟨3, .epoch⟩ .healthReport .risk .critical .riskBreachHard)),
    (⟨4, .epoch⟩,
      .submit (Event.new ⟨4, .epoch⟩ .healthReport .broker .info .brokerReconnected)),
    (⟨5, .epoch⟩, .reportFailure .broker)]

/-- The reconnect that follows leads into a recovery whose run stands at another stage than the
service. -/
theorem not_agrees_breachThenReturn :
    ∃ p, (assemble ⟨0, .epoch⟩ .counting sampleSettings .empty).1 = .ok p ∧
      let done := (run (p, .empty) breachThenReturn).1.reportSuccess ⟨6, .epoch⟩ .broker
      (∃ t, done.answer = some (.applied t) ∧ t.toMode = .recovering) ∧
      ∃ current, done.state.recovery.run? = some current ∧ current.stage = .catchUp ∧
        done.state.service.stage = some .connectBroker :=
  ⟨_, rfl, ⟨_, rfl, rfl⟩, _, rfl, rfl, rfl⟩

/-- The run had drifted then. After a single failure a reconnect finds a recovery that agrees. -/
theorem drifted_breachThenReturn :
    ∃ p, (assemble ⟨0, .epoch⟩ .counting sampleSettings .empty).1 = .ok p ∧
      (let done := (run (p, .empty) breachThenReturn).1.reportSuccess ⟨6, .epoch⟩ .broker
        ∃ current, done.state.recovery.run? = some current ∧
          IsDrifted (p, .empty) breachThenReturn current) ∧
      let failed := [(⟨0, .epoch⟩, .reportFailure .broker)]
      ∃ current, ((run (p, .empty) failed).1.reportSuccess ⟨1, .epoch⟩ .broker).state.recovery.run?
        = some current ∧ ¬ IsDrifted (p, .empty) failed current := by
  obtain ⟨p, hp⟩ : ∃ p, (assemble ⟨0, .epoch⟩ .counting sampleSettings .empty).1 = .ok p := ⟨_, rfl⟩
  refine ⟨p, hp, ?_, ?_⟩
  · intro done
    obtain ⟨t, ha, ht⟩ : ∃ t, done.answer = some (.applied t) ∧ t.toMode = .recovering := by
      cases hp
      exact ⟨_, rfl, rfl⟩
    obtain ⟨-, current, hr, hiff⟩ := reconnect_agrees_iff hp breachThenReturn .empty ha ht
    refine ⟨current, hr, not_not.mp fun hn => ?_⟩
    have hagrees := hiff.mpr hn
    cases hp
    cases hr
    exact absurd hagrees (by decide)
  · intro failed
    obtain ⟨t, ha, ht⟩ : ∃ t, ((run (p, .empty) failed).1.reportSuccess ⟨1, .epoch⟩ .broker).answer
        = some (.applied t) ∧ t.toMode = .recovering := by
      cases hp
      exact ⟨_, rfl, rfl⟩
    obtain ⟨-, current, hr, hiff⟩ := reconnect_agrees_iff hp failed .empty ha ht
    refine ⟨current, hr, hiff.mp ?_⟩
    cases hp
    cases hr
    rfl

end ControlPlane

end Failsafe
