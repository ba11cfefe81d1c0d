import Failsafe.Proofs.Recovery.Advances
/-
  A recovery is completed only after it has gone on without interruption.

  The stage of the run and the stage of the service are two copies that part when the mode leaves
  `recovering` and comes back: the service then starts again from the first stage, and the run
  does not. A run that has been parted from the service like this is lost (`IsLost`): nothing but
  the protocol moves the service on, and the protocol moves it only where the two agree. So the
  run that completes has agreed with the service ever since it left the first stage, and the
  service has been at the last stage ever since the run has (`isEarned_of_completed`).
-/

namespace Failsafe.Recovery

/-- The action does not call the service behind the protocol's back for what is reserved to it. -/
def Action.isProper : Action → Bool
  | .call c => !c.isReserved
  | _ => true

namespace Race

/-- The service has a stage only while it is recovering, and then that of the run or the first. -/
structure IsTracked (r : Recovery) : Prop where
  staged : ∀ stage, r.service.stage = some stage → r.service.mode = .recovering
  follows : ∀ run, r.run? = some run → ∀ stage, r.service.stage = some stage →
    stage = .connectBroker ∨ stage = run.stage

/-- The run with this number is over, or it has left the first stage and the service does not
stand where it does. -/
def IsLost (id : RunId) (r : Recovery) : Prop :=
  id ∈ r.issued ∧ ∀ run, r.run? = some run → run.id = id →
    run.stage ≠ .connectBroker ∧ r.service.stage ≠ some run.stage

/-- The system is recovering, and the current run with this number and the service stand at the
same stage. -/
def IsInStep (id : RunId) (r : Recovery) : Prop :=
  ∃ run, r.run? = some run ∧ run.id = id ∧ r.service.mode = .recovering ∧
    r.service.stage = some run.stage

/-- The service stands at the last stage of a recovery. -/
def IsReady (r : Recovery) : Prop := r.service.mode = .recovering ∧ r.service.stage = some .ready

/-- What a run has gone through when it is completed after some turns. -/
structure IsEarned (r : Race) (turns : List Turn) (id : RunId) (now : Nanos) : Prop where
  /-- the service has been ready for as long as it has to, without interruption -/
  stable : ∃ before since x, turns = before ++ since ∧ r.run? before = some x ∧
    x.clock + Nanos.ofSeconds r.recovery.config.readySeconds ≤ now ∧
    ∀ front y, front <+: since → x.run? front = some y → IsReady y.recovery
  /-- run and service have been in step since the run left the first stage -/
  steady : ∀ before since x run, turns = before ++ since → r.run? before = some x →
    x.recovery.run? = some run → run.id = id → run.stage ≠ .connectBroker →
    ∀ front y, front <+: since → x.run? front = some y → IsInStep id y.recovery

/-! ## One action -/

section
variable {now : Moment} {r : Recovery}

theorem isReserved_of_isProper {c : Service.Call} (h : (Action.call c).isProper = true) :
    c.isReserved = false := by
  simpa [Action.isProper] using h

theorem posture_of_isRefreshed {r' : Recovery} (h : r.IsRefreshed now r') :
    r'.service.mode = r.service.mode ∧ r'.service.stage = r.service.stage ∧
      r'.run? = r.run? ∧ r'.issued = r.issued := by
  rcases h with rfl | rfl
  · exact ⟨rfl, rfl, rfl, rfl⟩
  · exact ⟨Service.refresh_mode now r.service, Service.refresh_stage now r.service, rfl, rfl⟩

theorem isTracked_of_isRefreshed {r' : Recovery} (h : IsTracked r) (hr : r.IsRefreshed now r') :
    IsTracked r' := by
  obtain ⟨hm, hst, hrun, -⟩ := posture_of_isRefreshed hr
  refine ⟨?_, ?_⟩
  · rw [hm, hst]
    exact h.staged
  · rw [hst, hrun]
    exact h.follows

theorem isLost_of_isRefreshed {id : RunId} {r' : Recovery} (h : IsLost id r)
    (hr : r.IsRefreshed now r') : IsLost id r' := by
  obtain ⟨-, hst, hrun, hs⟩ := posture_of_isRefreshed hr
  unfold IsLost
  rw [hst, hrun, hs]
  exact h

theorem isTracked_of_none (hr : r.run? = none)
    (h : ∀ stage, r.service.stage = some stage → r.service.mode = .recovering) : IsTracked r := by
  refine ⟨h, ?_⟩
  intro run he
  simp [hr] at he

/-- A call of the service leaves its stage alone or sets it back to the first one. -/
theorem isTracked_call (h : IsTracked r) {c : Service.Call} (hc : c.isReserved = false) :
    IsTracked { r with service := c.perform now r.service } := by
  rcases Service.stage_of_not_isReserved now r.service hc with ⟨hm, hst⟩ | hst
  · refine ⟨?_, ?_⟩
    · dsimp only
      rw [hm, hst]
      exact h.staged
    · dsimp only
      rw [hst]
      exact h.follows
  · refine ⟨?_, ?_⟩
    · intro stage hs
      exact (Service.stageIn_eq_some (hst.symm.trans hs)).1
    · intro run hr stage hs
      rcases (Service.stageIn_eq_some (hst.symm.trans hs)).2 with hold | hfirst
      · exact h.follows run hr stage hold
      · exact Or.inl hfirst

/-- Whatever is done, the service has the stage of the run or the first one. -/
theorem isTracked_perform (h : IsTracked r) {a : Action} (ha : a.isProper = true) :
    IsTracked (a.perform now r) := by
  cases a with
  | start trigger operator =>
    rw [Action.perform]
    rcases r.start_cases now trigger operator with ⟨-, hs⟩ | ⟨-, -, hs⟩
    · exact isTracked_of_isRefreshed h hs
    · rw [hs]
      refine ⟨fun _ _ => rfl, ?_⟩
      intro run hr stage hst
      obtain rfl := Option.some.inj hst
      exact Or.inl rfl
  | begin id =>
    rw [Action.perform, (r.begin_cases now id).1]
    exact h
  | commit t verdict =>
    rw [Action.perform]
    rcases r.commit_cases now t.id t.stage verdict with
      ⟨-, hs⟩ | ⟨-, -, hm, -, run, -, -, -, ⟨next, -, hs⟩ | ⟨-, -, hs⟩⟩
    · exact isTracked_of_isRefreshed h hs
    · rw [hs]
      refine ⟨fun _ _ => hm, ?_⟩
      intro run' hr' stage hst
      obtain rfl := Option.some.inj hr'
      obtain rfl := Option.some.inj hst
      exact Or.inr rfl
    · rw [hs]
      refine isTracked_of_none rfl ?_
      intro stage he
      cases he
  | abort id reason =>
    rw [Action.perform]
    rcases r.abort_cases now id reason with ⟨-, -, hs⟩ | ⟨run, -, -, -, hs⟩
    · rw [hs]
      exact h
    · rw [hs]
      refine isTracked_of_none rfl ?_
      dsimp only
      rcases r.service.transition_cases now .safe none .recoveryFailed .recovery with
        ⟨-, -, hs⟩ | ⟨-, -, hs⟩
      · rw [hs, Service.refresh_mode, Service.refresh_stage]
        exact h.staged
      · rw [hs]
        intro stage he
        cases he
  | call c => exact isTracked_call h (isReserved_of_isProper ha)

/-- Without the protocol, the service does not come back to the stage of a run that has left the
first one. -/
theorem isLost_call {id : RunId} (h : IsLost id r) {c : Service.Call}
    (hc : c.isReserved = false) : IsLost id { r with service := c.perform now r.service } := by
  refine ⟨h.1, ?_⟩
  intro run hr hid
  obtain ⟨hfirst, hne⟩ := h.2 run hr hid
  refine ⟨hfirst, ?_⟩
  dsimp only
  rcases Service.stage_of_not_isReserved now r.service hc with ⟨-, hst⟩ | hst
  · rw [hst]
    exact hne
  · intro hs
    rcases (Service.stageIn_eq_some (hst.symm.trans hs)).2 with hold | hbroker
    · exact hne hold
    · exact hfirst hbroker

/-- A run that has been parted from the service never finds back to it. -/
theorem isLost_perform {id : RunId} (h : IsLost id r) {a : Action} (ha : a.isProper = true) :
    IsLost id (a.perform now r) := by
  cases a with
  | start trigger operator =>
    rw [Action.perform]
    rcases r.start_cases now trigger operator with ⟨-, hs⟩ | ⟨-, -, hs⟩
    · exact isLost_of_isRefreshed h hs
    · rw [hs]
      refine ⟨by rw [issued_started]; exact List.mem_append_left _ h.1, ?_⟩
      rintro run hr rfl
      obtain rfl := Option.some.inj hr
      exact absurd h.1 (nextId_not_mem_issued r)
  | begin id' =>
    rw [Action.perform, (r.begin_cases now id').1]
    exact h
  | commit t verdict =>
    rw [Action.perform]
    rcases r.commit_cases now t.id t.stage verdict with
      ⟨-, hs⟩ | ⟨-, -, -, hst, run, hr, -, hrs, ⟨next, -, hs⟩ | ⟨-, -, hs⟩⟩
    · exact isLost_of_isRefreshed h hs
    · rw [hs]
      refine ⟨h.1, ?_⟩
      intro run' hr' hid
      obtain rfl := Option.some.inj hr'
      -- the protocol has moved the service on, so the run was in step with it
      exact absurd (by rw [hst, hrs]) (h.2 run hr hid).2
    · rw [hs]
      exact ⟨h.1, by simp⟩
  | abort id' reason =>
    rw [Action.perform]
    rcases r.abort_cases now id' reason with ⟨-, -, hs⟩ | ⟨run, -, -, -, hs⟩
    · rw [hs]
      exact h
    · rw [hs]
      exact ⟨h.1, by simp⟩
  | call c => exact isLost_call h (isReserved_of_isProper ha)

theorem config_perform (now : Moment) (r : Recovery) (a : Action) :
    (a.perform now r).config = r.config := by
  cases a with
  | start trigger operator =>
    rw [Action.perform]
    rcases r.start_cases now trigger operator with ⟨-, hs | hs⟩ | ⟨-, -, hs⟩ <;> rw [hs]
  | begin id => rw [Action.perform, (r.begin_cases now id).1]
  | commit t verdict =>
    rw [Action.perform]
    rcases r.commit_cases now t.id t.stage verdict with
      ⟨-, hs | hs⟩ | ⟨-, -, -, -, run, -, -, -, ⟨next, -, hs⟩ | ⟨-, -, hs⟩⟩ <;> rw [hs]
  | abort id reason =>
    rw [Action.perform]
    rcases r.abort_cases now id reason with ⟨-, -, hs⟩ | ⟨run, -, -, -, hs⟩ <;> rw [hs]
  | call c => rfl

end

/-! ## Runs -/

section
variable {r r' : Race} {turns : List Turn}

/-- What a proper action preserves, a race with proper actions preserves. -/
theorem proper_induction {P : Recovery → Prop} (h : r.run? turns = some r')
    (hp : ∀ turn ∈ turns, turn.2.isProper = true) (hr : P r.recovery)
    (hs : ∀ (now : Moment) (x : Recovery) (a : Action), P x → a.isProper = true →
      P (a.perform now x)) : P r'.recovery :=
  recovery_induction h hr fun turn ht x hx => hs turn.1 x turn.2 hx (hp turn ht)

theorem isTracked_run? (h : r.run? turns = some r')
    (hp : ∀ turn ∈ turns, turn.2.isProper = true) (hr : IsTracked r.recovery) :
    IsTracked r'.recovery :=
  proper_induction h hp hr fun _ _ _ hx ha => isTracked_perform hx ha

theorem isLost_run? {id : RunId} (h : r.run? turns = some r')
    (hp : ∀ turn ∈ turns, turn.2.isProper = true) (hr : IsLost id r.recovery) :
    IsLost id r'.recovery :=
  proper_induction h hp hr fun _ _ _ hx ha => isLost_perform hx ha

theorem config_run? (h : r.run? turns = some r') : r'.recovery.config = r.recovery.config := by
  refine recovery_induction (P := fun x => x.config = r.recovery.config) h rfl ?_
  intro turn _ x hx
  rw [config_perform, hx]

/-- A run that stands at a stage with a property that is passed on keeps the property. -/
theorem isAt_of_run? {P : Stage → Prop} (hP : ∀ s next, s.next = some next → P s → P next)
    {id : RunId} {run : Run} (hi : IsIssued r.recovery) (hr : r.recovery.run? = some run)
    (hid : run.id = id) (hst : P run.stage) (h : r.run? turns = some r') :
    IsAt P id r'.recovery := by
  refine isAt_run? hP h ⟨?_, ?_⟩
  · rw [← hid]
    exact hi run hr
  · intro run' hr' _
    obtain rfl := Option.some.inj (hr.symm.trans hr')
    exact hst

/-- A run that is at the last stage since some time came to it then. -/
theorem ready_since {run : Run} {t : Nanos} (h : r.run? turns = some r')
    (hr : r'.recovery.run? = some run) (hready : run.stage = .ready)
    (ht : run.readySince = some t) :
    (∃ old, r.recovery.run? = some old ∧ old.id = run.id ∧ old.stage = .ready ∧
      old.readySince = some t) ∨
    ∃ before since x old, turns = before ++ since ∧ r.run? before = some x ∧ x.clock = t ∧
      x.recovery.run? = some old ∧ old.id = run.id ∧ old.stage = .ready := by
  induction turns generalizing r with
  | nil =>
    cases h
    exact Or.inl ⟨run, hr, rfl, hready, ht⟩
  | cons turn turns ih =>
    obtain ⟨m, hm, hrun⟩ := run?_cons.mp h
    rcases ih hrun with ⟨old, ho, hid, hst, hs⟩ | ⟨before, since, x, old, rfl, hx, hrest⟩
    · obtain ⟨-, -, he, -, hclock⟩ := step?_eq_some hm
      rw [he] at ho
      rcases perform_cases turn.1 r.recovery turn.2 with
        ⟨-, hp, -⟩ | ⟨-, -, trigger, operator, hp⟩ | ⟨run', next, hrun', -, -, hp, -⟩ |
          ⟨-, -, hp, -⟩
      · exact Or.inl ⟨old, by rw [← hp, ho], hid, hst, hs⟩
      · obtain rfl := Option.some.inj (hp.symm.trans ho)
        cases hst
      · obtain rfl := Option.some.inj (hp.symm.trans ho)
        change next = .ready at hst
        change (if next = .ready then some turn.1.steady else run'.readySince) = some t at hs
        rw [if_pos hst] at hs
        right
        refine ⟨[turn], turns, m, _, rfl, run?_cons.mpr ⟨m, hm, rfl⟩, ?_, by rw [he, hp], hid, hst⟩
        rw [hclock]
        exact Option.some.inj hs
      · simp [hp] at ho
    · exact Or.inr ⟨turn :: before, since, x, old, rfl, run?_cons.mpr ⟨m, hm, hx⟩, hrest⟩

/-- A run that has left the first stage and is not lost in the end has been in step with the
service all the time. -/
theorem isInStep_of_not_isLost {id : RunId} {run : Run} (h : r.run? turns = some r')
    (hp : ∀ turn ∈ turns, turn.2.isProper = true) (ht : IsTracked r.recovery)
    (hi : IsIssued r.recovery) (hr : r.recovery.run? = some run) (hid : run.id = id)
    (hfirst : run.stage ≠ .connectBroker) (hl : ¬ IsLost id r'.recovery) {front : List Turn}
    {y : Race} (hfront : front <+: turns) (hy : r.run? front = some y) :
    IsInStep id y.recovery := by
  obtain ⟨back, rfl⟩ := hfront
  have hback := run?_rest h hy
  have hpfront : ∀ turn ∈ front, turn.2.isProper = true :=
    fun turn ht => hp turn (List.mem_append_left back ht)
  have hpback : ∀ turn ∈ back, turn.2.isProper = true :=
    fun turn ht => hp turn (List.mem_append_right front ht)
  have hty : IsTracked y.recovery := isTracked_run? hy hpfront ht
  have hat : IsAt (· ≠ .connectBroker) id y.recovery := by
    refine isAt_of_run? ?_ hi hr hid hfirst hy
    intro s next hn _
    cases s <;> cases hn <;> decide
  -- a run that is out of step now is lost, and would be so in the end
  refine Classical.byContradiction fun hnot => hl (isLost_run? hback hpback ⟨hat.1, ?_⟩)
  intro run' hr' hid'
  refine ⟨hat.2 run' hr' hid', fun hst => hnot ?_⟩
  exact ⟨run', hr', hid', hty.staged _ hst, hst⟩

end

theorem add_le_of_le_sub {s t n m : Nat} (h : s ≤ n - t) (hn : n ≤ m) (ht : t ≤ m) :
    t + s ≤ m := by
  omega

/-- An advance that leads from `recovering` to `normal` completes the run whose number it
carries, which is in step with the service at the last stage. -/
theorem completes {now : Moment} {r : Recovery} {t : Ticket} {verdict : Verdict}
    (hm : r.service.mode = .recovering)
    (hn : (r.commit now t.id t.stage verdict).state.service.mode = .normal) :
    t.stage = .ready ∧ IsReady r ∧
      ∃ run, r.run? = some run ∧ run.id = t.id ∧ run.stage = .ready := by
  rcases r.commit_cases now t.id t.stage verdict with
    ⟨-, hs⟩ | ⟨-, -, -, hst, run, hr, hid, hrs, ⟨next, -, hs⟩ | ⟨hready, -, -⟩⟩
  · rw [(posture_of_isRefreshed hs).1, hm] at hn
    simp at hn
  · rw [hs] at hn
    cases hm.symm.trans hn
  · exact ⟨hready, ⟨hm, by rw [hst, hready]⟩, run, hr, hid, by rw [hrs, hready]⟩

section
variable {now₀ : Moment} {service : Service} {config : RecoveryConfig} {ids : RunIds}
  {turns : List Turn}

/-- A run that is found stable at the last stage came to it long enough ago. -/
theorem came_of_isStable {y : Race} {run : Run} {now : Nanos}
    (hy : (new now₀ service config ids).run? turns = some y) (hr : y.recovery.run? = some run)
    (hready : run.stage = .ready) (hstable : y.recovery.isStable run now = true) :
    ∃ before since w old, turns = before ++ since ∧
      (new now₀ service config ids).run? before = some w ∧ w.recovery.run? = some old ∧
      old.id = run.id ∧ old.stage = .ready ∧
      Nanos.ofSeconds config.readySeconds ≤ now - w.clock := by
  unfold isStable at hstable
  cases hsince : run.readySince with
  | none => simp [hsince] at hstable
  | some t =>
    rw [hsince] at hstable
    have hlong : Nanos.ofSeconds y.recovery.config.readySeconds ≤ now - t :=
      of_decide_eq_true hstable
    rw [config_run? hy] at hlong
    rcases ready_since hy hr hready hsince with
      ⟨old, ho, -⟩ | ⟨before, since, w, old, he, hw, rfl, ho, hid, hst⟩
    · cases ho
    · exact ⟨before, since, w, old, he, hw, ho, hid, hst, hlong⟩

/-- A run that is in step after it has come to the last stage finds the service there. -/
theorem isReady_of_isInStep {w u : Race} {id : RunId} {run : Run} {front : List Turn}
    (hi : IsIssued w.recovery) (hr : w.recovery.run? = some run) (hid : run.id = id)
    (hready : run.stage = .ready) (hu : w.run? front = some u) (hs : IsInStep id u.recovery) :
    IsReady u.recovery := by
  obtain ⟨run', hr', hid', hm, hst⟩ := hs
  have hat : IsAt (· = .ready) id u.recovery := by
    refine isAt_of_run? ?_ hi hr hid hready hu
    rintro s next hn rfl
    cases hn
  exact ⟨hm, by rw [hst, hat.2 run' hr' hid']⟩

/-- If a run is not lost after some turns, it has been in step ever since it left the first
stage. -/
theorem steady_of_not_isLost {id : RunId} {x : Race} (hnew : IsTracked (.new service config ids))
    (hp : ∀ turn ∈ turns, turn.2.isProper = true)
    (h : (new now₀ service config ids).run? turns = some x) (hl : ¬ IsLost id x.recovery)
    (before since : List Turn) (y : Race) (old : Run) (he : turns = before ++ since)
    (hy : (new now₀ service config ids).run? before = some y) (hr : y.recovery.run? = some old)
    (hid : old.id = id) (hfirst : old.stage ≠ .connectBroker) (front : List Turn) (z : Race)
    (hfront : front <+: since) (hz : y.run? front = some z) : IsInStep id z.recovery := by
  subst he
  have hpb : ∀ turn ∈ before, turn.2.isProper = true :=
    fun turn ht => hp turn (List.mem_append_left since ht)
  have hps : ∀ turn ∈ since, turn.2.isProper = true :=
    fun turn ht => hp turn (List.mem_append_right before ht)
  have hty : IsTracked y.recovery := isTracked_run? hy hpb hnew
  exact isInStep_of_not_isLost (run?_rest h hy) hps hty (isIssued_run? hy) hr hid hfirst hl
    hfront hz

end

theorem isTracked_new (now : Moment) (mode : Mode) (config : RecoveryConfig) (ids : RunIds) :
    IsTracked (.new (Service.new now mode).state config ids) := by
  refine ⟨fun stage hs => (Service.stageIn_eq_some hs).1, ?_⟩
  intro run he
  cases he

/-- A run that completes has been in step with the service ever since it left the first stage,
and the service has been ready for as long as it has to. -/
theorem isEarned_of_completed {now₀ now : Moment} {mode : Mode} {config : RecoveryConfig}
    {ids : RunIds} {turns : List Turn} {t : Ticket} {verdict : Verdict} {x x' : Race}
    (hp : ∀ turn ∈ turns, turn.2.isProper = true)
    (h : (new now₀ (Service.new now₀ mode).state config ids).run? turns = some x)
    (hs : x.step? (now, .commit t verdict) = some x')
    (hm : x.recovery.service.mode = .recovering) (hn : x'.recovery.service.mode = .normal) :
    IsEarned (new now₀ (Service.new now₀ mode).state config ids) turns t.id now.steady := by
  obtain ⟨hclock, -, he, -, -⟩ := step?_eq_some hs
  rw [he] at hn
  obtain ⟨hready, ⟨-, hst⟩, run, hr, hid, hrs⟩ := completes hm hn
  have hl : ¬ IsLost t.id x.recovery := by
    intro hl
    exact (hl.2 run hr hid).2 (by rw [hst, hrs])
  have hsteady := steady_of_not_isLost (isTracked_new now₀ mode config ids) hp h hl
  refine ⟨?_, hsteady⟩
  obtain ⟨begun, now', between, y, old, rfl, hy, hyr, hyid, hyst, hstable, -⟩ :=
    begun_of_commit h hs
  rw [hready] at hyst
  obtain ⟨before, since, w, first, rfl, hw, hwr, hwid, hwst, hlong⟩ :=
    came_of_isStable hy hyr hyst (hstable hready)
  have hwt : first.id = t.id := by rw [hwid, hyid]
  have hleft : first.stage ≠ .connectBroker := by
    rw [hwst]
    decide
  rw [List.append_assoc] at h hsteady ⊢
  have hrest := run?_rest h hw
  refine ⟨before, _, w, rfl, hw, ?_, ?_⟩
  · -- the check began no later than the advance was made
    obtain ⟨z, hz, hlast⟩ := run?_cons.mp (run?_rest hrest (run?_rest hy hw))
    obtain ⟨-, -, -, -, hzclock⟩ := step?_eq_some hz
    have hnow' : now'.steady ≤ x.clock := by
      rw [← hzclock]
      exact clock_le_of_run? hlast
    have hwclock : w.clock ≤ x.clock := clock_le_of_run? hrest
    exact add_le_of_le_sub hlong (Nat.le_trans hnow' hclock) (Nat.le_trans hwclock hclock)
  · intro front u hfront hu
    have hstep := hsteady before _ w first rfl hw hwr hwt hleft front u hfront hu
    exact isReady_of_isInStep (isIssued_run? hw) hwr hwt hwst hu hstep

/-- A run that passes all stages, up to the last check after half a minute. -/
def smoothTurns : List Turn :=
  [(⟨0, .epoch⟩, .start .auto none), (⟨1, .epoch⟩, .begin ⟨1⟩),
    (⟨2, .epoch⟩, .commit ⟨⟨1⟩, .connectBroker⟩ .passed), (⟨3, .epoch⟩, .begin ⟨1⟩),
    (⟨4, .epoch⟩, .call .snapshot), (⟨5, .epoch⟩, .commit ⟨⟨1⟩, .catchUp⟩ .passed),
    (⟨6, .epoch⟩, .begin ⟨1⟩), (⟨7, .epoch⟩, .commit ⟨⟨1⟩, .verifyRisk⟩ .passed),
    (⟨30000000007, .epoch⟩, .begin ⟨1⟩)]

/-- The last advance is made one nanosecond after the check and leads to `normal`. -/
theorem isEarned_smoothTurns :
    (∃ x x', sampleRace.run? smoothTurns = some x ∧
      x.step? (⟨30000000008, .epoch⟩, .commit ⟨⟨1⟩, .ready⟩ .passed) = some x' ∧
      x.recovery.service.mode = .recovering ∧ x'.recovery.service.mode = .normal) ∧
    IsEarned sampleRace smoothTurns ⟨1⟩ 30000000008 := by
  have hp : ∀ turn ∈ smoothTurns, turn.2.isProper = true := by decide
  obtain ⟨x, h, x', hs, hm, hn⟩ : ∃ x, sampleRace.run? smoothTurns = some x ∧
      ∃ x', x.step? (⟨30000000008, .epoch⟩, .commit ⟨⟨1⟩, .ready⟩ .passed) = some x' ∧
        x.recovery.service.mode = .recovering ∧ x'.recovery.service.mode = .normal :=
    ⟨_, rfl, _, rfl, rfl, rfl⟩
  exact ⟨⟨x, x', h, hs, hm, hn⟩, isEarned_of_completed hp h hs hm hn⟩

end Race

end Failsafe.Recovery
