import Failsafe.Proofs.Recovery.Races
/-
  Runs are linear, and numbers of runs that are over are dead.

  In every race, the successful advances of one run leave the stages in order, each once and each
  after a check of that stage that began while the run stood there and was passed; and once the
  run is over, no advance and no attempt to give it up changes anything (`isOrderly_run?`). The
  order is an induction over the race: what a run can still win is the list of stages from its
  own on (`ahead`), and every step takes at most its head away.
-/

namespace Failsafe.Recovery.Race

/-- The stages that the run with the number leaves by successful advances, in order. -/
def left (id : RunId) (r : Race) : List Turn → List Stage
  | [] => []
  | turn :: turns =>
    match r.step? turn with
    | none => []
    | some r' =>
      match turn.2.won? turn.1 r.recovery with
      | some t => if t.id = id then t.stage :: left id r' turns else left id r' turns
      | none => left id r' turns

/-- The stages that the run with the number may still leave. -/
def ahead (id : RunId) (r : Recovery) : List Stage :=
  match r.run? with
  | some run =>
    if run.id = id then Stage.all.drop run.stage.index
    else if id ∈ r.issued then [] else Stage.all
  | none => if id ∈ r.issued then [] else Stage.all

/-- The advance was successful where the run stood at the stage that was checked, and moved it on
to the next stage or ended it. -/
def IsStep (now : Moment) (r : Recovery) (t : Ticket) (verdict : Verdict) : Prop :=
  verdict = .passed ∧ ∃ run, r.run? = some run ∧ run.id = t.id ∧ run.stage = t.stage ∧
    (r.commit now t.id t.stage verdict).state.run? = t.stage.next.map (moved now run)

/-- An action that carries the number is refused and changes nothing. -/
def IsDead (id : RunId) (now : Moment) (r : Recovery) : Action → Prop
  | .begin id' => id' = id →
    (r.begin now id').answer = .refused ∧ (r.begin now id').state = r
  | .commit t verdict => t.id = id →
    (r.commit now t.id t.stage verdict).answer = false ∧
      (r.commit now t.id t.stage verdict).state = r
  | .abort id' reason => id' = id →
    (r.abort now id' reason).answer = false ∧ (r.abort now id' reason).state = r
  | _ => True

/-- The run with the number is linear, its advances are checked, and it stays over. -/
structure IsOrderly (r : Race) (turns : List Turn) (id : RunId) : Prop where
  /-- the stages are left in order, none twice -/
  linear : left id r turns <+: Stage.all
  /-- every successful advance is a step of the run -/
  moves : ∀ front now t verdict back x, turns = front ++ (now, .commit t verdict) :: back →
    r.run? front = some x → t.id = id →
    (x.recovery.commit now t.id t.stage verdict).answer = true →
    IsStep now x.recovery t verdict
  /-- every successful advance began when the run stood at the stage that it leaves -/
  checked : ∀ front now t verdict back x, turns = front ++ (now, .commit t verdict) :: back →
    r.run? front = some x → t.id = id →
    (x.recovery.commit now t.id t.stage verdict).answer = true →
    ∃ before now' between y run, front = before ++ (now', .begin id) :: between ∧
      r.run? before = some y ∧ y.recovery.run? = some run ∧ run.id = id ∧
      run.stage = t.stage ∧ (y.recovery.begin now' id).answer = .check t.stage
  /-- after the run has been superseded, given up or completed, its number is refused -/
  dead : ∀ before between back x y run, turns = before ++ between ++ back →
    r.run? before = some x → x.recovery.run? = some run → run.id = id →
    x.run? between = some y → (∀ run, y.recovery.run? = some run → run.id ≠ id) →
    ∀ front turn rest z, back = front ++ turn :: rest → y.run? front = some z →
      IsDead id turn.1 z.recovery turn.2

/-! ## What lies ahead of a run -/

section
variable {id : RunId} {r : Recovery}

theorem ahead_of_current {run : Run} (hr : r.run? = some run) (hid : run.id = id) :
    ahead id r = Stage.all.drop run.stage.index := by
  unfold ahead
  rw [hr]
  exact if_pos hid

theorem ahead_of_other (h : ∀ run, r.run? = some run → run.id ≠ id) :
    ahead id r = if id ∈ r.issued then [] else Stage.all := by
  unfold ahead
  cases hr : r.run? with
  | none => rfl
  | some run => exact if_neg (h run hr)

theorem ne_of_run? {run : Run} (hr : r.run? = some run) (hid : run.id ≠ id) (run' : Run)
    (hr' : r.run? = some run') : run'.id ≠ id := by
  obtain rfl := Option.some.inj (hr.symm.trans hr')
  exact hid

theorem ahead_of_isPast (h : IsPast id r) : ahead id r = [] := by
  rw [ahead_of_other h.2, if_pos h.1]

theorem ahead_of_fresh (h : id ∉ r.issued) (hi : IsIssued r) : ahead id r = Stage.all := by
  have hother : ∀ run, r.run? = some run → run.id ≠ id := by
    rintro run hr rfl
    exact h (hi run hr)
  rw [ahead_of_other hother, if_neg h]

theorem drop_index {stage next : Stage} (h : stage.next = some next) :
    Stage.all.drop stage.index = stage :: Stage.all.drop next.index := by
  cases stage <;> cases h <;> rfl

/-! ## What a step does to it -/

variable {r' : Recovery} {now : Moment}

/-- A new run has all stages ahead, and a run that it supersedes has none. -/
theorem ahead_of_started {trigger : Trigger} {operator : Option String} (hi : IsIssued r)
    (hi' : IsIssued r') (hs : r'.issued = r.issued ++ [r.nextId])
    (hr : r'.run? = some (fresh now trigger operator r.nextId)) :
    ahead id r' = ahead id r ∨ ahead id r' = [] := by
  by_cases hid : r.nextId = id
  · left
    have hfresh : id ∉ r.issued := by
      rw [← hid]
      exact nextId_not_mem_issued r
    rw [ahead_of_current hr hid, ahead_of_fresh hfresh hi]
    rfl
  · have hother := ne_of_run? hr hid
    have hissued : id ∈ r'.issued ↔ id ∈ r.issued := by
      rw [hs, List.mem_append, List.mem_singleton]
      exact or_iff_left (Ne.symm hid)
    by_cases hmem : id ∈ r.issued
    · right
      exact ahead_of_isPast ⟨hissued.mpr hmem, hother⟩
    · left
      rw [ahead_of_fresh hmem hi, ahead_of_fresh (mt hissued.mp hmem) hi']

/-- A run that is moved on has left its stage. -/
theorem ahead_of_moved {run : Run} {next : Stage} (hrun : r.run? = some run)
    (hn : run.stage.next = some next) (hr : r'.run? = some (moved now run next))
    (hid : run.id = id) : ahead id r = run.stage :: ahead id r' := by
  have hid' : (moved now run next).id = id := hid
  rw [ahead_of_current hrun hid, ahead_of_current hr hid', drop_index hn]
  rfl

/-- What is ahead of a run is not changed by what is done to another one. -/
theorem ahead_of_ne (h : ∀ run, r.run? = some run → run.id ≠ id)
    (h' : ∀ run, r'.run? = some run → run.id ≠ id) (hs : r'.issued = r.issued) :
    ahead id r' = ahead id r := by
  rw [ahead_of_other h, ahead_of_other h', hs]

/-- A step takes away at most the first stage that lies ahead, and that by a successful advance. -/
theorem ahead_perform (now : Moment) (hi : IsIssued r) (a : Action) (id : RunId) :
    (∃ t, a.won? now r = some t ∧ t.id = id ∧
      ahead id r = t.stage :: ahead id (a.perform now r)) ∨
    ((∀ t, a.won? now r = some t → t.id ≠ id) ∧
      (ahead id (a.perform now r) = ahead id r ∨ ahead id (a.perform now r) = [])) := by
  have hnone : a.won? now r = none → ∀ t, a.won? now r = some t → t.id ≠ id := by
    intro hw t ht
    simp [hw] at ht
  have hsome : ∀ {t' : Ticket}, t'.id ≠ id → a.won? now r = some t' →
      ∀ t, a.won? now r = some t → t.id ≠ id := by
    intro t' hid hw t ht
    obtain rfl := Option.some.inj (hw.symm.trans ht)
    exact hid
  rcases perform_cases now r a with
    ⟨hw, hr, hs⟩ | ⟨hw, hs, trigger, operator, hr⟩ | ⟨run, next, hrun, hn, hw, hr, hs⟩ |
      ⟨run, hrun, hr, hs, hw⟩
  · right
    refine ⟨hnone hw, Or.inl ?_⟩
    unfold ahead
    rw [hr, hs]
  · right
    exact ⟨hnone hw, ahead_of_started hi (isIssued_perform now hi a) hs hr⟩
  · by_cases hid : run.id = id
    · left
      exact ⟨_, hw, hid, ahead_of_moved hrun hn hr hid⟩
    · right
      have hid' : (moved now run next).id ≠ id := hid
      exact ⟨hsome hid hw, Or.inl (ahead_of_ne (ne_of_run? hrun hid) (ne_of_run? hr hid') hs)⟩
  · have hover : ∀ run, (a.perform now r).run? = some run → run.id ≠ id := by simp [hr]
    by_cases hid : run.id = id
    · have hmem : id ∈ (a.perform now r).issued := by
        rw [hs, ← hid]
        exact hi run hrun
      have hpast : ahead id (a.perform now r) = [] := ahead_of_isPast ⟨hmem, hover⟩
      rcases hw with hw | ⟨hready, hw⟩
      · right
        exact ⟨hnone hw, Or.inr hpast⟩
      · left
        refine ⟨_, hw, hid, ?_⟩
        rw [ahead_of_current hrun hid, hpast, hready]
        rfl
    · right
      refine ⟨?_, Or.inl (ahead_of_ne (ne_of_run? hrun hid) hover hs)⟩
      rcases hw with hw | ⟨-, hw⟩
      · exact hnone hw
      · exact hsome hid hw

/-- A run leaves stages as they lie ahead. -/
theorem left_prefix_ahead (id : RunId) {r : Race} (hi : IsIssued r.recovery)
    (turns : List Turn) : left id r turns <+: ahead id r.recovery := by
  induction turns generalizing r with
  | nil => exact List.nil_prefix
  | cons turn turns ih =>
    rw [left]
    split
    · exact List.nil_prefix
    · next r' hs =>
      obtain ⟨-, -, he, -, -⟩ := step?_eq_some hs
      have hrest := ih (r := r') (by rw [he]; exact isIssued_perform turn.1 hi turn.2)
      rw [he] at hrest
      rcases ahead_perform turn.1 hi turn.2 id with ⟨t, hw, hid, ha⟩ | ⟨hw, ha⟩
      · rw [hw, ha]
        dsimp only
        rw [if_pos hid]
        exact List.cons_prefix_cons.mpr ⟨rfl, hrest⟩
      · have hskip : left id r' turns <+: ahead id r.recovery := by
          rcases ha with ha | ha
          · rw [← ha]
            exact hrest
          · rw [ha, List.prefix_nil] at hrest
            rw [hrest]
            exact List.nil_prefix
        split
        · next t ht =>
          rw [if_neg (hw t ht)]
          exact hskip
        · exact hskip

end

/-! ## Single advances -/

/-- A successful advance is a step of the run whose number it carries. -/
theorem isStep_of_commit {now : Moment} {r : Recovery} {t : Ticket} {verdict : Verdict}
    (h : (r.commit now t.id t.stage verdict).answer = true) : IsStep now r t verdict := by
  rcases r.commit_cases now t.id t.stage verdict with
    ⟨ha, -⟩ | ⟨hv, -, -, -, run, hr, hid, hst, ⟨next, hn, hs⟩ | ⟨hready, -, hs⟩⟩
  · simp [ha] at h
  · refine ⟨hv, run, hr, hid, hst, ?_⟩
    rw [hs, hn]
    rfl
  · refine ⟨hv, run, hr, hid, hst, ?_⟩
    rw [hs, hready]
    rfl

/-- An advance can only be ended if it was begun. -/
theorem begun_of_commit {now₀ : Moment} {service : Service} {config : RecoveryConfig}
    {ids : RunIds} {front : List Turn} {now : Moment} {t : Ticket} {verdict : Verdict} {x x' : Race}
    (h : (new now₀ service config ids).run? front = some x)
    (hs : x.step? (now, .commit t verdict) = some x') :
    ∃ before now' between y run, front = before ++ (now', .begin t.id) :: between ∧
      (new now₀ service config ids).run? before = some y ∧ y.recovery.run? = some run ∧
      run.id = t.id ∧ run.stage = t.stage ∧
      (t.stage = .ready → y.recovery.isStable run now'.steady = true) ∧
      (y.recovery.begin now' t.id).answer = .check t.stage := by
  obtain ⟨-, hp, -⟩ := step?_eq_some hs
  have ht : t ∈ x.tickets := List.contains_iff_mem.mp hp
  rcases begun_of_mem_tickets h ht with hmem | ⟨before, now', between, y, he, hy, ha⟩
  · exact absurd hmem List.not_mem_nil
  · rcases (y.recovery.begin_cases now' t.id).2 with href | ⟨run, hr, hid, hstable, hc⟩
    · simp [href] at ha
    · have hst : run.stage = t.stage := by
        rw [hc] at ha
        exact Opening.check.inj ha
      exact ⟨before, now', between, y, run, he, hy, hr, hid, hst,
        fun h => hstable (by rw [hst, h]), ha⟩

/-- The number of a run that is over is refused. -/
theorem isDead_of_isPast {id : RunId} {r : Recovery} (h : IsPast id r) (now : Moment)
    (a : Action) : IsDead id now r a := by
  cases a with
  | begin id' =>
    rintro rfl
    obtain ⟨hs, href | ⟨run, hr, hid, -, -⟩⟩ := r.begin_cases now id'
    · exact ⟨href, hs⟩
    · exact absurd hid (h.2 run hr)
  | commit t verdict =>
    rintro rfl
    unfold commit
    split
    · exact ⟨rfl, rfl⟩
    · dsimp only
      split
      · exact ⟨rfl, rfl⟩
      · next run hr =>
        rw [if_pos (Or.inl (h.2 run hr))]
        exact ⟨rfl, rfl⟩
  | abort id' reason =>
    rintro rfl
    rcases r.abort_cases now id' reason with ⟨-, ha, hs⟩ | ⟨run, hr, hid, -, -⟩
    · exact ⟨ha, hs⟩
    · exact absurd hid (h.2 run hr)
  | start trigger operator => trivial
  | call c => trivial

/-! ## Runs -/

/-- In every race every run is orderly, and stays over once it is. -/
theorem isOrderly_run? {now : Moment} {service : Service} {config : RecoveryConfig}
    {ids : RunIds} {turns : List Turn} {last : Race}
    (h : (new now service config ids).run? turns = some last) (id : RunId) :
    IsOrderly (new now service config ids) turns id where
  linear := by
    have hi : IsIssued (new now service config ids).recovery := isIssued_new now service config ids
    have hp := left_prefix_ahead id hi turns
    refine hp.trans ?_
    have hother : ∀ run, (new now service config ids).recovery.run? = some run → run.id ≠ id := by
      intro run he
      cases he
    rw [ahead_of_other hother]
    split
    · exact List.nil_prefix
    · exact List.prefix_refl _
  moves := by
    intro front now' t verdict back x _ _ _ ha
    exact isStep_of_commit ha
  checked := by
    intro front now' t verdict back x he hx hid _
    rw [he] at h
    obtain ⟨x', hs, -⟩ := run?_cons.mp (run?_rest h hx)
    obtain ⟨before, now'', between, y, run, hf, hy, hr, hrid, hst, -, hc⟩ := begun_of_commit hx hs
    rw [hid] at hf hrid hc
    exact ⟨before, now'', between, y, run, hf, hy, hr, hrid, hst, hc⟩
  dead := by
    intro before between back x y run he hx hr hid hy hover front turn rest z hback hz
    have hissued : id ∈ x.recovery.issued := by
      rw [← hid]
      exact isIssued_run? hx run hr
    have hpast : IsPast id y.recovery := ⟨mem_issued_of_run? hy hissued, hover⟩
    exact isDead_of_isPast (isPast_run? hz hpast) turn.1 turn.2

/-- Two advances of one run at once, the second of which comes too late, and then another run. -/
def sampleTurns : List Turn :=
  [(⟨0, .epoch⟩, .start .auto none), (⟨1, .epoch⟩, .begin ⟨1⟩), (⟨2, .epoch⟩, .begin ⟨1⟩),
    (⟨3, .epoch⟩, .commit ⟨⟨1⟩, .connectBroker⟩ .passed),
    (⟨4, .epoch⟩, .commit ⟨⟨1⟩, .connectBroker⟩ .passed), (⟨5, .epoch⟩, .start .auto none),
    (⟨6, .epoch⟩, .begin ⟨1⟩)]

/-- The race without a run on a service that has just been created. -/
def sampleRace : Race :=
  new ⟨0, .epoch⟩ (Service.new ⟨0, .epoch⟩ .normal).state .standard .counting

/-- The first run leaves its first stage once, although two advances were under way. -/
theorem isOrderly_sampleTurns :
    (∃ last, sampleRace.run? sampleTurns = some last) ∧
      left ⟨1⟩ sampleRace sampleTurns = [.connectBroker] ∧
      IsOrderly sampleRace sampleTurns ⟨1⟩ := by
  obtain ⟨last, h⟩ : ∃ last, sampleRace.run? sampleTurns = some last := ⟨_, rfl⟩
  exact ⟨⟨last, h⟩, rfl, isOrderly_run? h ⟨1⟩⟩

end Failsafe.Recovery.Race
