import Failsafe.Proofs.ControlPlane.Reach
/-
  An override pins the mode for exactly its time.

  Whatever else is done until an override's time has passed, the last moment included, the mode
  and the history stay as the operator's command left them, and every automatic change of mode is
  refused. From the next moment on nothing is left of the override (`pinned_play`). Both halves
  look at the state service only: what moves do to it, they do by its calls (`reaches_perform`).
-/

namespace Failsafe.ControlPlane

open Service (Stays Fades)

/-! ## Moves -/

theorem stays_play {o : Override} {s : ControlPlane × Files} (hs : s.1.service.override? = some o)
    {moves : List (Moment × Move)}
    (hm : ∀ m ∈ moves, m.1.steady ≤ o.start + o.ttl ∧ m.2.isOverriding = false) :
    Stays s.1.service (play s moves).1.service := by
  induction moves generalizing s with
  | nil => exact Service.stays_refl _
  | cons m moves ih =>
    obtain ⟨ht, ho⟩ := hm m List.mem_cons_self
    have ha := Service.answer_refresh_of_active hs ht
    have hfirst : Stays s.1.service (m.2.perform m.1 s).1.service :=
      Service.stays_of_reaches ha (reaches_perform m.1 s ho)
    have hnext : (m.2.perform m.1 s).1.service.override? = some o := by
      obtain ⟨stage, he⟩ := hfirst
      rw [he]
      exact hs
    rw [play_cons]
    exact Service.stays_trans hfirst
      (ih hnext fun m' hm' => hm m' (List.mem_cons_of_mem _ hm'))

/-- Only an operator sets an override. -/
theorem fades_move (now : Moment) (s : ControlPlane × Files) {m : Move} (h : m.isForce = false) :
    Fades s.1.service (m.perform now s).1.service := by
  cases ho : m.isOverriding with
  | false => exact Service.fades_of_reaches (reaches_perform now s ho)
  | true =>
    -- what is left ends an override
    have hclear : ∀ operator, Fades s.1.service (s.1.service.clear now operator).state :=
      fun operator => Service.fades_perform (c := .clear operator) rfl
    cases m with
    | call c =>
      cases c with
      | force mode ttlSeconds operator reason => cases h
      | clear operator => exact hclear operator
      | _ => cases ho
    | action a =>
      cases a with
      | call c => exact Service.fades_perform h
      | _ => cases ho

theorem fades_play (s : ControlPlane × Files) {moves : List (Moment × Move)}
    (hm : ∀ m ∈ moves, m.2.isForce = false) : Fades s.1.service (play s moves).1.service := by
  induction moves generalizing s with
  | nil => exact Or.inl rfl
  | cons m moves ih =>
    rw [play_cons]
    exact Service.fades_trans (fades_move m.1 s (hm m List.mem_cons_self))
      (ih _ fun m' hm' => hm m' (List.mem_cons_of_mem _ hm'))

/-! ## The time of an override -/

/-- Until the time of an override has passed, whatever moves are made other than an operator's
commands on overrides, the mode and the history are those that the command left, events are
ignored, and no recovery is started or completed and no transition made. After that time, unless
a mode is forced again, no override is in force and every call answers and leaves what it would
without one. -/
theorem pinned_play {now : Moment} {mode : Mode} {ttlSeconds : Nat} {operator reason : String}
    {s : ControlPlane × Files} {t : Transition}
    (h : (s.1.service.force now mode ttlSeconds operator reason).answer = .ok t) :
    let forced := (Call.force mode ttlSeconds operator reason).perform now s
    let expiry := now.steady + Nanos.ofSeconds ttlSeconds
    (∀ moves : List (Moment × Move),
      (∀ m ∈ moves, m.1.steady ≤ expiry ∧ m.2.isOverriding = false) →
      let r := (play forced moves).1.recovery
      r.service.mode = mode ∧ r.service.history = s.1.service.history ++ [t] ∧
      ∀ now' : Moment, now'.steady ≤ expiry →
        (r.service.refresh now').answer = true ∧
        (∀ e, (r.service.handle now' e).answer = .suppressed) ∧
        (∀ trigger operator, ∃ f, (r.start now' trigger operator).answer = .error f) ∧
        (∀ mode stage reason source,
          (r.service.transition now' mode stage reason source).answer = false) ∧
        (r.service.complete now').answer = false) ∧
    (∀ moves : List (Moment × Move), (∀ m ∈ moves, m.2.isForce = false) →
      let s' := (play forced moves).1.service
      ∀ now' : Moment, expiry < now'.steady →
        (s'.refresh now').answer = false ∧
        (∀ e, (s'.handle now' e).answer = (s'.released.handle now' e).answer ∧
          (s'.handle now' e).state = (s'.released.handle now' e).state) ∧
        ((s'.complete now').answer = (s'.released.complete now').answer ∧
          (s'.complete now').state = (s'.released.complete now').state) ∧
        ∀ mode stage reason source,
          (s'.transition now' mode stage reason source).answer
              = (s'.released.transition now' mode stage reason source).answer ∧
            (s'.transition now' mode stage reason source).state
              = (s'.released.transition now' mode stage reason source).state) := by
  intro forced expiry
  obtain ⟨hmode, hhistory, hover⟩ := Service.force_eq_ok h
  have hf : forced.1.service.override?
      = some ⟨mode, Nanos.ofSeconds ttlSeconds, operator, reason, now.steady⟩ := hover
  constructor
  · intro moves hm r
    obtain ⟨stage, hstays⟩ := stays_play hf hm
    have hr : r.service = { forced.1.service with stage := stage } := hstays
    refine ⟨by rw [hr]; exact hmode, by rw [hr]; exact hhistory, ?_⟩
    intro now' ht
    have ha : (r.service.refresh now').answer = true := by
      rw [hr]
      exact Service.answer_refresh_of_active hf ht
    refine ⟨ha, fun e => (Service.handle_of_active ha e).1, ?_,
      fun mode stage reason source => (Service.transition_of_active ha mode stage reason source).1,
      (Service.complete_of_active ha).1⟩
    intro trigger operator
    rcases r.start_cases now' trigger operator with ⟨he, -⟩ | ⟨hn, -⟩
    · exact he
    · exact absurd (ha.symm.trans hn) (by decide)
  · intro moves hm s' now' ht
    have hfade : Fades forced.1.service s' := fades_play forced hm
    have ho : s'.override? = none ∨ s'.override?
        = some ⟨mode, Nanos.ofSeconds ttlSeconds, operator, reason, now.steady⟩ := by
      rcases hfade with hfade | hfade
      · exact Or.inr (hfade.trans hf)
      · exact Or.inl hfade
    have he : (s'.refresh now').answer = false := Service.answer_refresh_of_expired ho ht
    exact ⟨he, Service.handle_of_expired he, Service.complete_of_expired he,
      Service.transition_of_expired he⟩

/-- A recovery, an outage of the broker and a completion, the last of them exactly a second after
the start. -/
def drill : List (Moment × Move) :=
  [(⟨1, .epoch⟩, .call (.start .manual (some "ops"))),
    (⟨2, .epoch⟩, .call (.reportFailure .broker)), (⟨3, .epoch⟩, .call (.reportFailure .broker)),
    (⟨4, .epoch⟩, .call (.reportFailure .broker)),
    (⟨1000000000, .epoch⟩, .action (.call .complete))]

/-- A second of `degraded` is not ended by the drill, nor is it longer than a second. -/
theorem pinned_drill :
    ∃ p, (assemble ⟨0, .epoch⟩ .counting .standard .empty).1 = .ok p ∧
      (∀ m ∈ drill, m.1.steady ≤ 0 + Nanos.ofSeconds 1 ∧ m.2.isOverriding = false) ∧
      let s := (play ((Call.force .degraded 1 "ops" "drill").perform ⟨0, .epoch⟩ (p, .empty))
        drill).1.service
      s.mode = .degraded ∧ (s.refresh ⟨1000000000, .epoch⟩).answer = true ∧
      (s.refresh ⟨1000000001, .epoch⟩).answer = false := by
  obtain ⟨p, hp⟩ : ∃ p, (assemble ⟨0, .epoch⟩ .counting .standard .empty).1 = .ok p := ⟨_, rfl⟩
  obtain ⟨t, ht⟩ : ∃ t, (p.service.force ⟨0, .epoch⟩ .degraded 1 "ops" "drill").answer = .ok t :=
    Service.force_ok _ _ (by decide) (by decide) (by decide) _
  have hd : ∀ m ∈ drill, m.1.steady ≤ 0 + Nanos.ofSeconds 1 ∧ m.2.isOverriding = false := by
    decide
  obtain ⟨hwithin, hafter⟩ := pinned_play (s := (p, .empty)) ht
  obtain ⟨hmode, -, hactive⟩ := hwithin drill hd
  refine ⟨p, hp, hd, hmode, (hactive ⟨1000000000, .epoch⟩ (by decide)).1, ?_⟩
  exact (hafter drill (by decide) ⟨1000000001, .epoch⟩ (by decide)).1

end Failsafe.ControlPlane
