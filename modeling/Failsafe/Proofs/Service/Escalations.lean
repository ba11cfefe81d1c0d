import Mathlib.Data.List.Perm.Basic
import Failsafe.Proofs.Service.Overrides
import Failsafe.Proofs.Service.Postures
/-
  Events that only escalate lead to the same mode and stage in any order.

  An event that is on no recovery path raises the mode to the one that it asks for, if that is more
  severe, and otherwise leaves it (`posture_handle`). Raising one after the other comes to raising
  once to the most severe of the modes, and the stage is then the first one's as far as the last
  mode has a stage (`foldl_raise`). The most severe of some modes does not depend on their order,
  so neither does what the events lead to (`posture_escalations`), although the events in between
  may have been obeyed in one order and rejected in the other.
-/

namespace Failsafe

namespace Mode

theorem eq_of_priority_eq {a b : Mode} (h : a.priority = b.priority) : a = b := by
  cases a <;> cases b <;> first | rfl | cases h

theorem priority_mostSevere (a b : Mode) :
    (a.mostSevere b).priority = max a.priority b.priority := by
  unfold mostSevere
  split <;> omega

theorem mostSevere_of_permits {a b : Mode} (h : a.permits b = true) : a.mostSevere b = b := by
  have hle : a.priority ≤ b.priority := of_decide_eq_true h
  refine eq_of_priority_eq ?_
  rw [priority_mostSevere]
  omega

theorem mostSevere_of_not_permits {a b : Mode} (h : a.permits b = false) :
    a.mostSevere b = a := by
  have hlt : ¬ a.priority ≤ b.priority := of_decide_eq_false h
  refine eq_of_priority_eq ?_
  rw [priority_mostSevere]
  omega

/-- Of three modes the most severe is found in any order. -/
theorem mostSevere_right_comm (a b c : Mode) :
    (a.mostSevere b).mostSevere c = (a.mostSevere c).mostSevere b := by
  refine eq_of_priority_eq ?_
  simp only [priority_mostSevere]
  omega

instance : RightCommutative mostSevere := ⟨mostSevere_right_comm⟩

theorem priority_le_foldl_mostSevere (m : Mode) (l : List Mode) :
    m.priority ≤ (l.foldl mostSevere m).priority := by
  induction l generalizing m with
  | nil => exact Nat.le_refl _
  | cons t l ih =>
    have hrest := ih (m.mostSevere t)
    rw [priority_mostSevere] at hrest
    rw [List.foldl_cons]
    omega

end Mode

/-! ## Raising -/

/-- The mode and stage once a mode has been asked for, if only escalations are made. -/
def Posture.raise (p : Posture) (target : Mode) : Posture :=
  (p.1.mostSevere target, Service.stageIn (p.1.mostSevere target) p.2)

theorem Posture.isStaged_raise (p : Posture) (target : Mode) : (p.raise target).IsStaged :=
  Service.isStaged_stageIn _ _

namespace Service

theorem stageIn_self {p : Posture} (h : p.IsStaged) : stageIn p.1 p.2 = p.2 := by
  obtain ⟨mode, stage⟩ := p
  unfold stageIn
  unfold Posture.IsStaged at h
  cases stage with
  | none =>
    have hm : mode ≠ .recovering := fun hm => nomatch h.mpr hm
    rw [if_neg hm]
  | some st =>
    have hm : mode = .recovering := h.mp rfl
    rw [if_pos hm]
    rfl

/-- On the way up only the last mode decides what becomes of the stage. -/
theorem stageIn_stageIn {p : Posture} (h : p.IsStaged) {m m' : Mode}
    (hm : p.1.priority ≤ m.priority) (hm' : m.priority ≤ m'.priority) :
    stageIn m' (stageIn m p.2) = stageIn m' p.2 := by
  by_cases hr' : m' = .recovering
  · by_cases hr : m = .recovering
    · simp [stageIn, hr, hr']
    · -- below `recovering` there was no stage to be kept
      have hp : p.1 ≠ .recovering := by
        intro hp
        rw [hp] at hm
        rw [hr'] at hm'
        exact hr (Mode.eq_of_priority_eq (Nat.le_antisymm hm' hm))
      have hnone : p.2 = none := by
        rw [← Option.not_isSome_iff_eq_none]
        exact fun hs => hp (h.mp hs)
      simp [stageIn, hr, hnone]
  · simp [stageIn, hr']

/-- Raising to one mode after the other is raising to the most severe of them. -/
theorem foldl_raise {p : Posture} (h : p.IsStaged) (l : List Mode) :
    l.foldl Posture.raise p
      = (l.foldl Mode.mostSevere p.1, stageIn (l.foldl Mode.mostSevere p.1) p.2) := by
  induction l generalizing p with
  | nil => rw [List.foldl_nil, List.foldl_nil, stageIn_self h]
  | cons t l ih =>
    have hle : p.1.priority ≤ (p.1.mostSevere t).priority := by
      rw [Mode.priority_mostSevere]
      omega
    have hlast := Mode.priority_le_foldl_mostSevere (p.1.mostSevere t) l
    rw [List.foldl_cons, ih (p.isStaged_raise t), List.foldl_cons]
    exact congrArg (Prod.mk _) (stageIn_stageIn h hle hlast)

/-! ## Events -/

/-- Without an override an event on no recovery path raises mode and stage. -/
theorem posture_handle {s : Service} (ho : s.override? = none) (hs : s.posture.IsStaged)
    (now : Moment) {e : Event} (he : e.reason.isRecoveryPath = false) :
    (s.handle now e).state.posture = s.posture.raise e.reason.target := by
  have hr := refresh_of_none now ho
  rcases handle_cases now s e with ⟨ha, -, -⟩ | ⟨-, hp, -, -, hst⟩ | ⟨-, hp, -, hst⟩
  · rw [hr] at ha
    cases ha
  · -- it is rejected, and the mode is the more severe one
    rw [hst, hr, Posture.raise]
    have hmode : s.posture.1.mostSevere e.reason.target = s.posture.1 :=
      Mode.mostSevere_of_not_permits hp
    rw [hmode, stageIn_self hs]
  · have hobeyed : s.mode.permits e.reason.target = true := by
      rcases hp with hp | hp
      · exact hp
      · rw [he] at hp
        cases hp
    rw [hst, Posture.raise]
    have hmode : s.posture.1.mostSevere e.reason.target = e.reason.target :=
      Mode.mostSevere_of_permits hobeyed
    rw [hmode]
    rfl

/-- Events submitted to the service, each at its own moment. -/
def submissions (l : List (Moment × Event)) : List (Moment × Call) :=
  l.map fun c => (c.1, .handle c.2)

theorem posture_run_submissions {s : Service} (ho : s.override? = none)
    (hs : s.posture.IsStaged) {l : List (Moment × Event)}
    (hl : ∀ c ∈ l, c.2.reason.isRecoveryPath = false) :
    (s.run (submissions l)).state.posture
      = (l.map fun c => c.2.reason.target).foldl Posture.raise s.posture := by
  induction l generalizing s with
  | nil => rfl
  | cons c l ih =>
    have hfirst := posture_handle ho hs c.1 (hl c List.mem_cons_self)
    have hnext := (handle_of_none c.1 ho c.2).1
    have hstaged : (s.handle c.1 c.2).state.posture.IsStaged := by
      rw [hfirst]
      exact s.posture.isStaged_raise _
    have hrest := ih hnext hstaged fun c' hc' => hl c' (List.mem_cons_of_mem c hc')
    rw [hfirst] at hrest
    exact hrest

/-- An override that is not in force at some moment is not in force later on either. -/
theorem answer_refresh_mono {now now' : Moment} {s : Service} (hle : now.steady ≤ now'.steady)
    (h : (s.refresh now).answer = false) : (s.refresh now').answer = false := by
  cases ho : s.override? with
  | none => rw [refresh_of_none now' ho]
  | some o =>
    refine answer_refresh_of_expired (Or.inr ho) ?_
    by_contra hact
    have hactive : now.steady ≤ o.start + o.ttl := Nat.le_trans hle (Nat.not_lt.mp hact)
    rw [answer_refresh_of_active ho hactive] at h
    cases h

/-- The first event finds the override expired, if there is one. -/
theorem run_submissions_released {now : Moment} {s : Service}
    (h : (s.refresh now).answer = false) {l : List (Moment × Event)}
    (hl : ∀ c ∈ l, now.steady ≤ c.1.steady) :
    (s.run (submissions l)).state.posture = (s.released.run (submissions l)).state.posture := by
  cases l with
  | nil => rfl
  | cons c l =>
    have hc := answer_refresh_mono (hl c List.mem_cons_self) h
    have hsame := (handle_of_expired hc c.2).2
    show ((s.handle c.1 c.2).state.run (submissions l)).state.posture = _
    rw [hsame]
    rfl

/-- Where no override is in force, events that are on no recovery path leave the most severe of
the mode that they find and the modes that they ask for, whenever each of them is submitted. The
stage is the one that was there as far as this mode has a stage. -/
theorem posture_after {now : Moment} {s : Service} (hs : s.posture.IsStaged)
    (h : (s.refresh now).answer = false) {l : List (Moment × Event)}
    (hl : ∀ c ∈ l, now.steady ≤ c.1.steady ∧ c.2.reason.isRecoveryPath = false) :
    let worst := (l.map fun c => c.2.reason.target).foldl Mode.mostSevere s.mode
    (s.run (submissions l)).state.posture = (worst, stageIn worst s.stage) := by
  intro worst
  have hfrom : s.released.posture = s.posture := rfl
  have hrun := posture_run_submissions (s := s.released) rfl hs fun c hc => (hl c hc).2
  rw [hfrom, foldl_raise hs] at hrun
  exact (run_submissions_released h fun c hc => (hl c hc).1).trans hrun

/-- Whatever the service has been through: where no override is in force, events of which none
reports that everything is healthy or that the broker is back leave the most severe of the mode
that they find and the modes that they ask for. Mode and stage are the same for every order in
which they are submitted, and whenever that is. -/
theorem posture_escalations (start : Moment) (first : Mode) (calls : List (Moment × Call))
    (now : Moment) {l l' : List (Moment × Event)}
    (hfree : ((((Service.new start first).state.run calls).state).refresh now).answer = false)
    (hl : ∀ c ∈ l ++ l', now.steady ≤ c.1.steady ∧
      c.2.reason ≠ .allHealthy ∧ c.2.reason ≠ .brokerReconnected)
    (hperm : (l.map Prod.snd).Perm (l'.map Prod.snd)) :
    let s := ((Service.new start first).state.run calls).state
    let done := (s.run (submissions l)).state
    let done' := (s.run (submissions l')).state
    done.mode = (l.map fun c => c.2.reason.target).foldl Mode.mostSevere s.mode ∧
    done'.mode = done.mode ∧ done'.stage = done.stage ∧
    done.stage = if done.mode = .recovering then some (s.stage.getD .first) else none := by
  intro s done done'
  have hstaged : s.posture.IsStaged :=
    (pushes_run (Service.new start first).state (isStaged_stageIn first none) calls).1
  have hpath : ∀ r : Reason, r ≠ .allHealthy ∧ r ≠ .brokerReconnected →
      r.isRecoveryPath = false := by
    intro r hr
    cases r <;> first | rfl | exact absurd rfl hr.1 | exact absurd rfl hr.2
  have hp := posture_after hstaged hfree (l := l) fun c hc =>
    (hl c (List.mem_append_left l' hc)).imp id (hpath _)
  have hp' := posture_after hstaged hfree (l := l') fun c hc =>
    (hl c (List.mem_append_right l hc)).imp id (hpath _)
  have htargets : (l.map fun c => c.2.reason.target).Perm (l'.map fun c => c.2.reason.target) := by
    have hmap := hperm.map fun e => e.reason.target
    rwa [List.map_map, List.map_map] at hmap
  have hworst := htargets.foldl_eq (f := Mode.mostSevere) s.mode
  have hsame : done'.posture = done.posture := by
    rw [hp, hp', hworst]
  have hmode : done.mode = (l.map fun c => c.2.reason.target).foldl Mode.mostSevere s.mode :=
    congrArg Prod.fst hp
  refine ⟨hmode, congrArg Prod.fst hsame, congrArg Prod.snd hsame, ?_⟩
  rw [hmode]
  exact congrArg Prod.snd hp

/-- A drill that is over, for as long as its mode was to be held. -/
def drill : List (Moment × Call) := [(⟨0, .epoch⟩, .force .degraded 1 "ops" "drill")]

/-- Stale data, a recovery that is started elsewhere, and a soft breach. -/
def alerts : List (Moment × Event) :=
  [(⟨2000000000, .epoch⟩, .health ⟨0, .epoch⟩ .marketData .dataStale),
    (⟨3000000000, .epoch⟩, .health ⟨0, .epoch⟩ .recovery .recoveryStarted),
    (⟨4000000000, .epoch⟩, .health ⟨0, .epoch⟩ .risk .riskBreachSoft)]

/-- The same, with the stale data and the breach after the start of the recovery, in vain. -/
def lateAlerts : List (Moment × Event) :=
  [(⟨3000000000, .epoch⟩, .health ⟨0, .epoch⟩ .recovery .recoveryStarted),
    (⟨5000000000, .epoch⟩, .health ⟨0, .epoch⟩ .risk .riskBreachSoft),
    (⟨6000000000, .epoch⟩, .health ⟨0, .epoch⟩ .marketData .dataStale)]

/-- After the drill: the events are obeyed one after the other in one order, and in the other the
last two are rejected. -/
theorem posture_escalations_alerts :
    let s := ((Service.new ⟨0, .epoch⟩ .normal).state.run drill).state
    let now : Moment := ⟨1000000001, .epoch⟩
    (s.refresh now).answer = false ∧
    (∀ c ∈ alerts ++ lateAlerts, now.steady ≤ c.1.steady ∧
      c.2.reason ≠ .allHealthy ∧ c.2.reason ≠ .brokerReconnected) ∧
    (alerts.map Prod.snd).Perm (lateAlerts.map Prod.snd) ∧
    (s.run (submissions alerts)).state.mode = .recovering ∧
    (s.run (submissions lateAlerts)).state.mode = .recovering ∧
    (s.run (submissions lateAlerts)).state.stage = some .connectBroker := by
  intro s now
  have hfree : (s.refresh now).answer = false := by decide
  have hl : ∀ c ∈ alerts ++ lateAlerts, now.steady ≤ c.1.steady ∧
      c.2.reason ≠ .allHealthy ∧ c.2.reason ≠ .brokerReconnected := by decide
  have hperm : (alerts.map Prod.snd).Perm (lateAlerts.map Prod.snd) :=
    (List.Perm.swap _ _ _).trans ((List.Perm.swap _ _ _).cons _)
  obtain ⟨hmode, hmode', hstage', hstage⟩ :=
    posture_escalations ⟨0, .epoch⟩ .normal drill now hfree hl hperm
  have hworst : (alerts.map fun c => c.2.reason.target).foldl Mode.mostSevere s.mode
      = .recovering := rfl
  have hm := hmode.trans hworst
  refine ⟨hfree, hl, hperm, hm, hmode'.trans hm, hstage'.trans ?_⟩
  rw [hstage, if_pos hm]
  rfl

end Service

end Failsafe
