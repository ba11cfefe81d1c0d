import Failsafe.Proofs.ControlPlane.Coverage
import Failsafe.Proofs.Service.History
/-
  The severity falls only for causes that have a name.

  Every record of the history is made by an operator, by the decision matrix, or by the recovery
  protocol when a run is started, completed or given up. `Causes` says which of them a call of the
  control plane can make, and no call adds any other record (`grows_perform`). The decision matrix
  lowers the severity only along a recovery path, the protocol only in its three ways. So whatever
  has been called, each descent has one of five causes, and one that the protocol makes belongs to
  the run that is started, completed or given up by the call (`named_run`).
-/

namespace Failsafe

namespace Transition

/-- An operator forced the mode. -/
structure IsCommand (t : Transition) : Prop where
  operator : t.operator.isSome = true
  source : t.source = .operator

/-- An event from this source led to the mode that its cause asks for. -/
structure IsDecision (source : Source) (t : Transition) : Prop where
  source : t.source = source
  target : t.toMode = t.reason.target
  allowed : t.fromMode.permits t.toMode = true ∨ t.reason.isRecoveryPath = true

/-- A run was started. -/
structure IsEntry (t : Transition) : Prop where
  source : t.source = .recovery
  reason : t.reason = .recoveryStarted
  target : t.toMode = .recovering

/-- A run was completed. -/
structure IsExit (t : Transition) : Prop where
  source : t.source = .recovery
  reason : t.reason = .allHealthy
  origin : t.fromMode = .recovering
  target : t.toMode = .normal

/-- A run was given up. -/
structure IsRetreat (t : Transition) : Prop where
  source : t.source = .recovery
  reason : t.reason = .recoveryFailed
  target : t.toMode = .safe

/-- The severity falls. -/
def IsDescent (t : Transition) : Prop := t.toMode.priority < t.fromMode.priority

/-- The causes for which the severity may fall. -/
inductive IsNamed (t : Transition) : Prop where
  | command (h : t.operator.isSome = true)
  | healthy (h : t.reason = .allHealthy) (hm : t.toMode = .normal)
  | reconnected (h : t.reason = .brokerReconnected) (hm : t.toMode = .recovering)
  | entry (h : t.IsEntry) (hm : t.fromMode = .halt)
  | retreat (h : t.IsRetreat)

end Transition

/-! ## What is added to the history -/

namespace Service

/-- The history has grown, by records with a property. -/
def Grows (P : Transition → Prop) (s s' : Service) : Prop :=
  ∃ l, s'.history = s.history ++ l ∧ ∀ t ∈ l, P t

section
variable {P Q : Transition → Prop} {now : Moment} {s s' s'' : Service}

theorem grows_of_eq (h : s'.history = s.history) : Grows P s s' :=
  ⟨[], by rw [h, List.append_nil], by simp⟩

theorem grows_trans (h : Grows P s s') (h' : Grows P s' s'') : Grows P s s'' := by
  obtain ⟨l, hl, hp⟩ := h
  obtain ⟨l', hl', hp'⟩ := h'
  refine ⟨l ++ l', by rw [hl', hl, List.append_assoc], ?_⟩
  intro t ht
  rcases List.mem_append.mp ht with ht | ht
  · exact hp t ht
  · exact hp' t ht

theorem grows_mono (h : Grows P s s') (hpq : ∀ t, P t → Q t) : Grows Q s s' := by
  obtain ⟨l, hl, hp⟩ := h
  exact ⟨l, hl, fun t ht => hpq t (hp t ht)⟩

theorem grows_refresh (now : Moment) (s : Service) : Grows P s (s.refresh now).state :=
  grows_of_eq (records_refresh rfl).1

/-- A transition adds its record. -/
theorem grows_apply (now : Moment) (s : Service) {r : Request} (h : P (s.apply now r).answer) :
    Grows P s ((s.refresh now).state.apply now r).state := by
  refine ⟨[(s.apply now r).answer], (records_apply rfl).1, ?_⟩
  intro t ht
  rw [List.mem_singleton.mp ht]
  exact h

/-- A call adds the record of the transition that it makes. -/
theorem grows_step (now : Moment) (s : Service) (c : Call) :
    Grows (fun t => ∃ r, s.Makes c r ∧ t = (s.apply now r).answer) s (c.step now s).state := by
  obtain ⟨r?, ha⟩ := accounts_step now s c
  cases r? with
  | none => exact grows_of_eq ha.records.1
  | some r =>
    refine ⟨[(s.apply now r).answer], ha.records.1, ?_⟩
    intro t ht
    exact ⟨r, ha.makes r rfl, List.mem_singleton.mp ht⟩

theorem grows_handle (now : Moment) (s : Service) (e : Event) :
    Grows (·.IsDecision e.source) s (s.handle now e).state := by
  refine grows_mono (grows_step now s (.handle e)) ?_
  rintro t ⟨r, hm, rfl⟩
  cases hm with
  | event e h => exact ⟨rfl, rfl, h⟩

theorem grows_force (now : Moment) (s : Service) (mode : Mode) (ttlSeconds : Nat)
    (operator reason : String) :
    Grows Transition.IsCommand s (s.force now mode ttlSeconds operator reason).state := by
  refine grows_mono (grows_step now s (.force mode ttlSeconds operator reason)) ?_
  rintro t ⟨r, hm, rfl⟩
  cases hm with
  | command mode ttlSeconds operator reason => exact ⟨rfl, rfl⟩

theorem grows_clear (now : Moment) (s : Service) (operator : String) :
    Grows P s (s.clear now operator).state := by
  rcases clear_cases now s operator with hs | hs <;> exact grows_of_eq (by rw [hs])

/-- A transition of the recovery protocol, whatever it is asked for. -/
theorem grows_transition (now : Moment) (s : Service) (mode : Mode) (stage : Option Stage)
    (reason : Reason) (source : Source) :
    Grows (fun t => t.toMode = mode ∧ t.reason = reason ∧ t.source = source) s
      (s.transition now mode stage reason source).state := by
  refine grows_mono (grows_step now s (.transition mode stage reason source)) ?_
  rintro t ⟨r, hm, rfl⟩
  cases hm with
  | protocol mode stage reason source => exact ⟨rfl, rfl, rfl⟩

end

end Service

namespace Recovery

open Service (Grows grows_of_eq grows_mono)

section
variable (now : Moment) (r : Recovery)

theorem grows_of_isRefreshed {P : Transition → Prop} {r' : Recovery} (h : r.IsRefreshed now r') :
    Grows P r.service r'.service := by
  rcases h with rfl | rfl
  · exact grows_of_eq rfl
  · exact Service.grows_refresh now r.service

theorem grows_start (trigger : Trigger) (operator : Option String) :
    Grows Transition.IsEntry r.service (r.start now trigger operator).state.service := by
  rcases r.start_cases now trigger operator with ⟨-, hs⟩ | ⟨-, -, hs⟩
  · exact grows_of_isRefreshed now r hs
  · rw [hs]
    exact Service.grows_apply now r.service ⟨rfl, rfl, rfl⟩

theorem grows_commit (id : RunId) (stage : Stage) (verdict : Verdict) :
    Grows Transition.IsExit r.service (r.commit now id stage verdict).state.service := by
  rcases r.commit_cases now id stage verdict with
    ⟨-, hs⟩ | ⟨-, -, hm, -, run, -, -, -, ⟨next, -, hs⟩ | ⟨-, -, hs⟩⟩
  · exact grows_of_isRefreshed now r hs
  · rw [hs]
    exact grows_of_eq rfl
  · rw [hs]
    exact Service.grows_apply now r.service ⟨rfl, rfl, hm, rfl⟩

/-- Only the current run can be given up. -/
theorem grows_abort (id : RunId) (reason : String) :
    Grows (fun t => t.IsRetreat ∧ ∃ run, r.run? = some run ∧ run.id = id) r.service
      (r.abort now id reason).state.service := by
  rcases r.abort_cases now id reason with ⟨-, -, hs⟩ | ⟨run, hr, hid, -, hs⟩
  · exact grows_of_eq (by rw [hs])
  · rw [hs]
    exact grows_mono (Service.grows_transition ..)
      fun t ⟨hm, hc, hsource⟩ => ⟨⟨hsource, hc, hm⟩, run, hr, hid⟩

end

end Recovery

/-! ## What a call adds -/

namespace Breaker

variable {now : Moment} {b : Breaker} {e : Event}

theorem source_of_recordFailure (h : (b.recordFailure now).answer = some e) :
    e.source = b.dependency.source := by
  unfold recordFailure at h
  dsimp only at h
  split at h
  · cases h
  split at h
  · cases h
    rfl
  split at h
  · cases h
    rfl
  · cases h

theorem source_of_recordSuccess (h : (b.recordSuccess now).answer = some e) :
    e.source = b.dependency.source := by
  unfold recordSuccess at h
  dsimp only at h
  split at h
  · cases h
  · cases h
    rfl

end Breaker

namespace ControlPlane

open Service (Grows grows_of_eq grows_trans grows_mono)

/-- What a call of the control plane may add to the history. -/
inductive Causes (p : ControlPlane) (t : Transition) : Call → Prop
  | submitted (e : Event) (h : t.IsDecision e.source) : Causes p t (.submit e)
  | failed (d d' : Dependency) (h : t.IsDecision d'.source) : Causes p t (.reportFailure d)
  | healed (d d' : Dependency) (h : t.IsDecision d'.source) : Causes p t (.reportSuccess d)
  /-- a run that follows the reconnection of the broker -/
  | followed (d : Dependency) (h : t.IsEntry) : Causes p t (.reportSuccess d)
  | driven (h : t.IsExit) : Causes p t .drive
  | started (trigger : Trigger) (operator : Option String) (h : t.IsEntry) :
      Causes p t (.start trigger operator)
  | advanced (id : RunId) (check : Stage → Verdict) (h : t.IsExit) : Causes p t (.advance id check)
  /-- only the current run can be given up -/
  | abandoned (run : Run) (reason : String) (hr : p.recovery.run? = some run) (h : t.IsRetreat) :
      Causes p t (.abort run.id reason)
  | forced (mode : Mode) (ttlSeconds : Nat) (operator reason : String) (h : t.IsCommand) :
      Causes p t (.force mode ttlSeconds operator reason)
  | overflowed (e : Entry) (h : t.IsDecision .database) : Causes p t (.write e)

section
variable (now : Moment) (p : ControlPlane)

theorem grows_submit (e : Event) :
    Grows (·.IsDecision e.source) p.service (p.submit now e).state.service :=
  Service.grows_handle now p.service e

theorem grows_settle (e : Event) :
    Grows (·.IsDecision e.source) p.service (p.settle now e).state.service := by
  rcases p.settle_cases now e with ⟨h, -⟩ | h <;> rw [h]
  · exact grows_of_eq rfl
  · exact grows_submit now p e

theorem grows_followUp (o : Outcome) :
    Grows Transition.IsEntry p.service (p.followUp now o).state.service := by
  rcases p.followUp_cases now o with ⟨-, h⟩ | ⟨-, h⟩ <;> rw [h]
  · exact p.recovery.grows_start now .auto none
  · exact grows_of_eq rfl

theorem grows_reportFailure (d : Dependency) :
    Grows (Causes p · (.reportFailure d)) p.service (p.reportFailure now d).state.service := by
  rcases p.reportFailure_cases now d with ⟨-, h⟩ | ⟨e, he, h⟩ <;> rw [h]
  · exact grows_of_eq rfl
  · refine grows_mono (grows_settle now (p.onBreaker d (·.recordFailure now)).state e) ?_
    intro t ht
    rw [Breaker.source_of_recordFailure he] at ht
    exact .failed d _ ht

theorem grows_reportSuccess (d : Dependency) :
    Grows (Causes p · (.reportSuccess d)) p.service (p.reportSuccess now d).state.service := by
  rcases p.reportSuccess_cases now d with ⟨-, h⟩ | ⟨e, he, h⟩ <;> rw [h]
  · exact grows_of_eq rfl
  · have hsettled := grows_settle now (p.onBreaker d (·.recordSuccess now)).state e
    rw [Breaker.source_of_recordSuccess he] at hsettled
    exact grows_trans (grows_mono hsettled fun t ht => .healed d _ ht)
      (grows_mono (grows_followUp now _ _) fun t ht => .followed d ht)

theorem grows_advance (id : RunId) (check : Stage → Verdict) :
    Grows Transition.IsExit p.service (p.advance now id check).state.service := by
  rcases p.advance_cases now id check with h | ⟨stage, h⟩ <;> rw [h]
  · exact grows_of_eq rfl
  · exact p.recovery.grows_commit now id stage _

theorem grows_drive : Grows Transition.IsExit p.service (p.drive now).state.service := by
  rcases p.drive_cases now with h | ⟨id, stage, h⟩ <;> rw [h]
  · exact grows_of_eq rfl
  · exact p.recovery.grows_commit now id stage _

theorem grows_write (e : Entry) (files : Files) :
    Grows (·.IsDecision .database) p.service (p.write now e files).state.1.service := by
  obtain ⟨b, h | h⟩ := p.write_cases now e files <;> rw [h]
  · exact grows_of_eq rfl
  · exact grows_submit now { p with buffer := b } _

end

/-- A call adds only what it may. -/
theorem grows_perform (now : Moment) (s : ControlPlane × Files) (c : Call) :
    Grows (Causes s.1 · c) s.1.service (c.perform now s).1.service := by
  cases c with
  | submit e => exact grows_mono (grows_submit now s.1 e) fun t ht => .submitted e ht
  | reportFailure d => exact grows_reportFailure now s.1 d
  | reportSuccess d => exact grows_reportSuccess now s.1 d
  | drive => exact grows_mono (grows_drive now s.1) fun t ht => .driven ht
  | start trigger operator =>
    exact grows_mono (s.1.recovery.grows_start now trigger operator)
      fun t ht => .started trigger operator ht
  | advance id check =>
    exact grows_mono (grows_advance now s.1 id check) fun t ht => .advanced id check ht
  | abort id reason =>
    refine grows_mono (s.1.recovery.grows_abort now id reason) ?_
    rintro t ⟨ht, run, hr, rfl⟩
    exact .abandoned run reason hr ht
  | force mode ttlSeconds operator reason =>
    exact grows_mono (Service.grows_force now s.1.service mode ttlSeconds operator reason)
      fun t ht => .forced mode ttlSeconds operator reason ht
  | clear operator => exact Service.grows_clear now s.1.service operator
  | write e => exact grows_mono (grows_write now s.1 e s.2) fun t ht => .overflowed e ht
  | flush reply => exact grows_of_eq rfl

end ControlPlane

/-! ## What may lower the severity -/

namespace Transition

variable {t : Transition}

/-- The decision matrix lowers the severity only along a recovery path. -/
theorem isRecoveryPath_of_isDecision {source : Source} (h : t.IsDecision source)
    (hd : t.IsDescent) : t.reason.isRecoveryPath = true := by
  rcases h.allowed with hp | hp
  · have hle : t.fromMode.priority ≤ t.toMode.priority := of_decide_eq_true hp
    exact absurd hd (Nat.not_lt.mpr hle)
  · exact hp

theorem isNamed_of_isDecision {source : Source} (h : t.IsDecision source) (hd : t.IsDescent) :
    t.IsNamed := by
  have htarget := h.target
  by_cases hr : t.reason = .allHealthy
  · rw [hr] at htarget
    exact .healthy hr htarget
  · have hr' := Reason.eq_brokerReconnected (isRecoveryPath_of_isDecision h hd) hr
    rw [hr'] at htarget
    exact .reconnected hr' htarget

/-- Only `halt` is more severe than `recovering`. -/
theorem isNamed_of_isEntry (h : t.IsEntry) (hd : t.IsDescent) : t.IsNamed := by
  refine .entry h ?_
  unfold IsDescent at hd
  rw [h.target] at hd
  cases hm : t.fromMode <;> rw [hm] at hd <;> first | rfl | exact absurd hd (by decide)

end Transition

namespace ControlPlane

theorem source_ne_recovery (d : Dependency) : d.source ≠ .recovery := by
  cases d <;> decide

/-- A run may be started during such a call. -/
def Call.isStarting : Call → Bool
  | .start .. | .reportSuccess _ => true
  | _ => false

section
variable {p : ControlPlane} {t : Transition} {c : Call}

theorem isNamed_of_causes (h : Causes p t c) (hd : t.IsDescent) : t.IsNamed := by
  cases h with
  | submitted e h => exact Transition.isNamed_of_isDecision h hd
  | failed d d' h => exact Transition.isNamed_of_isDecision h hd
  | healed d d' h => exact Transition.isNamed_of_isDecision h hd
  | followed d h => exact Transition.isNamed_of_isEntry h hd
  | driven h => exact .healthy h.reason h.target
  | started trigger operator h => exact Transition.isNamed_of_isEntry h hd
  | advanced id check h => exact .healthy h.reason h.target
  | abandoned run reason hr h => exact .retreat h
  | forced mode ttlSeconds operator reason h => exact .command h.operator
  | overflowed e h => exact Transition.isNamed_of_isDecision h hd

/-- A record in the name of the recovery is that of an event which says so itself, or of a run that
is started, completed or given up. -/
theorem recovery_of_causes (h : Causes p t c) (hs : t.source = .recovery) :
    (∃ e, c = .submit e ∧ t.IsDecision e.source) ∨ (c.isStarting = true ∧ t.IsEntry) ∨ t.IsExit ∨
      ((∃ run reason, p.recovery.run? = some run ∧ c = .abort run.id reason) ∧ t.IsRetreat) := by
  cases h with
  | submitted e h => exact Or.inl ⟨e, rfl, h⟩
  | started trigger operator h => exact Or.inr (Or.inl ⟨rfl, h⟩)
  | followed d h => exact Or.inr (Or.inl ⟨rfl, h⟩)
  | driven h => exact Or.inr (Or.inr (Or.inl h))
  | advanced id check h => exact Or.inr (Or.inr (Or.inl h))
  | abandoned run reason hr h => exact Or.inr (Or.inr (Or.inr ⟨⟨run, reason, hr, rfl⟩, h⟩))
  | failed d d' h => exact absurd (h.source.symm.trans hs) (source_ne_recovery d')
  | healed d d' h => exact absurd (h.source.symm.trans hs) (source_ne_recovery d')
  | overflowed e h => cases h.source.symm.trans hs
  | forced mode ttlSeconds operator reason h => cases h.source.symm.trans hs

/-- Off the recovery paths the decision matrix lowers nothing. -/
theorem not_isDescent {source : Source} (h : t.IsDecision source)
    (hr : t.reason.isRecoveryPath = false) : ¬ t.IsDescent := by
  intro hd
  exact absurd ((Transition.isRecoveryPath_of_isDecision h hd).symm.trans hr) (by decide)

theorem starts_of_isEntry (h : Causes p t c) (he : t.IsEntry) :
    c.isStarting = true ∨ ((∃ e, c = .submit e) ∧ ¬ t.IsDescent) := by
  rcases recovery_of_causes h he.source with ⟨e, hc, hd⟩ | ⟨hc, -⟩ | hx | ⟨-, hr⟩
  · exact Or.inr ⟨⟨e, hc⟩, not_isDescent hd (by rw [he.reason]; rfl)⟩
  · exact Or.inl hc
  · cases he.reason.symm.trans hx.reason
  · cases he.reason.symm.trans hr.reason

theorem abandons_of_isRetreat (h : Causes p t c) (hr : t.IsRetreat) :
    (∃ run reason, p.recovery.run? = some run ∧ c = .abort run.id reason) ∨
      ((∃ e, c = .submit e) ∧ ¬ t.IsDescent) := by
  rcases recovery_of_causes h hr.source with ⟨e, hc, hd⟩ | ⟨-, he⟩ | hx | ⟨hc, -⟩
  · exact Or.inr ⟨⟨e, hc⟩, not_isDescent hd (by rw [hr.reason]; rfl)⟩
  · cases hr.reason.symm.trans he.reason
  · cases hr.reason.symm.trans hx.reason
  · exact Or.inl hc

theorem completes_of_allHealthy (h : Causes p t c) (hs : t.source = .recovery)
    (ha : t.reason = .allHealthy) : t.IsExit ∨ ∃ e, c = .submit e := by
  rcases recovery_of_causes h hs with ⟨e, hc, -⟩ | ⟨-, he⟩ | hx | ⟨-, hr⟩
  · exact Or.inr ⟨e, hc⟩
  · cases ha.symm.trans he.reason
  · exact Or.inl hx
  · cases ha.symm.trans hr.reason

end

/-! ## Runs -/

theorem isNamed_run {s : ControlPlane × Files}
    (h : ∀ t ∈ s.1.service.history, t.IsDescent → t.IsNamed) (calls : List (Moment × Call)) :
    ∀ t ∈ (run s calls).1.service.history, t.IsDescent → t.IsNamed := by
  induction calls generalizing s with
  | nil => exact h
  | cons c calls ih =>
    rw [run_cons]
    refine ih ?_
    obtain ⟨l, hl, hc⟩ := grows_perform c.1 s c.2
    intro t ht hd
    rw [hl] at ht
    rcases List.mem_append.mp ht with ht | ht
    · exact h t ht hd
    · exact isNamed_of_causes (hc t ht) hd

/-- Whatever has been called, every record that lowers the severity has a named cause. Whatever is
called then, it only adds records. One that says that a run was started is added while a run is
started, and one that says that a run has failed while the current run is given up; only an event
that says so itself can lead to another one, which does not lower the severity. One that says in the
name of the recovery that everything is healthy leads from `recovering` to `normal`, unless it is
that of such an event. -/
theorem named_run {now : Moment} {ids : RunIds} {settings : Settings} {files : Files}
    {p : ControlPlane} (h : (assemble now ids settings files).1 = .ok p)
    (calls : List (Moment × Call)) (files' : Files) :
    let s := run (p, files') calls
    (∀ t ∈ s.1.service.history, t.IsDescent → t.IsNamed) ∧
    ∀ (now' : Moment) (c : Call), ∃ l,
      (c.perform now' s).1.service.history = s.1.service.history ++ l ∧
      ∀ t ∈ l,
        (t.IsEntry → c.isStarting = true ∨ ((∃ e, c = .submit e) ∧ ¬ t.IsDescent)) ∧
        (t.IsRetreat → (∃ run reason, s.1.recovery.run? = some run ∧ c = .abort run.id reason) ∨
          ((∃ e, c = .submit e) ∧ ¬ t.IsDescent)) ∧
        (t.source = .recovery → t.reason = .allHealthy → t.IsExit ∨ ∃ e, c = .submit e) := by
  intro s
  have hnew : ∀ t ∈ p.service.history, t.IsDescent → t.IsNamed := by
    rw [service, (assemble_cases h).2]
    intro t ht
    cases ht
  refine ⟨isNamed_run hnew calls, ?_⟩
  intro now' c
  obtain ⟨l, hl, hc⟩ := grows_perform now' s c
  refine ⟨l, hl, ?_⟩
  intro t ht
  exact ⟨starts_of_isEntry (hc t ht), abandons_of_isRetreat (hc t ht),
    completes_of_allHealthy (hc t ht)⟩

/-- A hard breach of the risk limits, a run that an operator starts after it, and its end. -/
def breach : List (Moment × Call) :=
  [(⟨0, .epoch⟩, .submit (.health ⟨0, .epoch⟩ .risk .riskBreachHard)),
    (⟨1, .epoch⟩, .start .manual (some "ops")), (⟨2, .epoch⟩, .abort ⟨1⟩ "drill")]

/-- After the breach the severity falls twice, each time for a named cause. -/
theorem named_breach :
    ∃ p, (assemble ⟨0, .epoch⟩ .counting sampleSettings .empty).1 = .ok p ∧
      let history := (run (p, .empty) breach).1.service.history
      (history.map fun t => (t.fromMode, t.toMode))
        = [(.normal, .halt), (.halt, .recovering), (.recovering, .safe)] ∧
      ∀ t ∈ history, t.IsDescent → t.IsNamed := by
  obtain ⟨p, hp⟩ : ∃ p, (assemble ⟨0, .epoch⟩ .counting sampleSettings .empty).1 = .ok p := ⟨_, rfl⟩
  refine ⟨p, hp, ?_, (named_run hp breach .empty).1⟩
  cases hp
  rfl

end ControlPlane

end Failsafe
