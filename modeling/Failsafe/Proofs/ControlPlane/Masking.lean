import Mathlib.Data.List.Induction
import Failsafe.Proofs.Service.Overrides
import Failsafe.Proofs.ControlPlane.Coverage
import Failsafe.Proofs.Outline.ControlPlane
/-
  What an operator hides of a failing dependency.

  A breaker tells of a failure only when its level changes, and the state service does not listen
  while an override is in force. So a level that changed under an override stays untold after it,
  and so does one that was told before a milder mode was forced. `masks_or_keepsCover` says that
  nothing else takes the cover from a dependency: a call that leaves the mode milder than the
  dependency asks for either hides it (`Masks`) or finds it so, at the same level. From this
  `covered_or_masked` traces every dependency without cover back to the command that hid it.
-/

namespace Failsafe

namespace Dependency

/-- The mode is at least as severe as the dependency asks for at this level. -/
def IsMet (d : Dependency) (l : Level) (m : Mode) : Prop :=
  ∀ r, d.cause? l = some r → r.target.priority ≤ m.priority

section
variable {d : Dependency} {l : Level} {m m' : Mode}

theorem isMet_of_le (h : d.IsMet l m) (hm : m.priority ≤ m'.priority) : d.IsMet l m' :=
  fun r hr => Nat.le_trans (h r hr) hm

theorem isMet_healthy : d.IsMet .healthy m := fun _ hr => nomatch hr

theorem isMet_recovering : d.IsMet l .recovering :=
  fun _ hr => Nat.le_trans (priority_of_cause? hr).2 (by decide)

theorem isMet_of_cause {r : Reason} (hr : d.cause? l = some r)
    (hm : r.target.priority ≤ m.priority) : d.IsMet l m := by
  intro r' hr'
  obtain rfl := Option.some.inj (hr.symm.trans hr')
  exact hm

end

end Dependency

namespace Service

/-- An event that does not report everything healthy takes the cover from nobody. -/
theorem isMet_handle {now : Moment} {s : Service} {e : Event} (he : e.reason ≠ .allHealthy)
    {d : Dependency} {l : Level} (h : d.IsMet l s.mode) :
    d.IsMet l (s.handle now e).state.mode := by
  cases ha : (s.refresh now).answer with
  | true =>
    rw [(handle_of_active ha e).2]
    exact h
  | false =>
    rw [(handle_of_expired ha e).2]
    rcases handle_raises now (s := s.released) rfl he with ⟨hm, -⟩ | hm
    · exact Dependency.isMet_of_le h hm
    · rw [hm]
      exact Dependency.isMet_recovering

/-- A dependency whose failure is heard has its cover. -/
theorem isMet_handle_of_cause {now : Moment} {s : Service} {e : Event}
    (ha : (s.refresh now).answer = false) {d : Dependency} {l : Level}
    (hr : d.cause? l = some e.reason) : d.IsMet l (s.handle now e).state.mode := by
  rw [(handle_of_expired ha e).2]
  rcases handle_raises now (s := s.released) rfl (Dependency.ne_allHealthy_of_cause? hr) with
    ⟨-, ht⟩ | hm
  · exact Dependency.isMet_of_cause hr ht
  · rw [hm]
    exact Dependency.isMet_recovering

end Service

namespace ControlPlane

/-- A report on a dependency, or an operator's command on overrides. -/
def Call.isReporting : Call → Bool
  | .reportFailure _ | .reportSuccess _ | .force .. | .clear _ => true
  | _ => false

/-- The mode is at least as severe as the dependency asks for. -/
def Covers (p : ControlPlane) (d : Dependency) : Prop := d.IsMet (p.breakers.level d) p.service.mode

/-- The call hides what the dependency asks for: it forces a milder mode, or it is a failure that
changes the level of the dependency while a milder mode is pinned. -/
def Masks (now : Moment) (s : ControlPlane × Files) (c : Call) (d : Dependency) : Prop :=
  ¬ (c.perform now s).1.Covers d ∧
  ((∃ mode ttlSeconds operator reason, c = .force mode ttlSeconds operator reason ∧
      ∃ t, (s.1.service.force now mode ttlSeconds operator reason).answer = .ok t) ∨
    (c = .reportFailure d ∧ (s.1.service.refresh now).answer = true ∧
      (c.perform now s).1.breakers.level d ≠ s.1.breakers.level d))

/-- One of the calls hid what the dependency asks for, and its level has not changed since. -/
def IsMasked (s : ControlPlane × Files) (calls : List (Moment × Call)) (d : Dependency)
    (l : Level) : Prop :=
  ∃ pre c post, calls = pre ++ c :: post ∧ Masks c.1 (run s pre) c.2 d ∧
    ∀ mid, mid <+: post → (run s (pre ++ c :: mid)).1.breakers.level d = l

/-- A dependency without cover after the change had none before, at the same level. -/
def KeepsCover (p p' : ControlPlane) (d : Dependency) : Prop :=
  p'.Covers d ∨ (¬ p.Covers d ∧ p'.breakers.level d = p.breakers.level d)

/-! ## One call -/

section
variable {now : Moment} {p : ControlPlane} {d : Dependency}

theorem covers_of_healthy (h : p.breakers.level d = .healthy) : p.Covers d := by
  rw [Covers, h]
  exact Dependency.isMet_healthy

theorem keepsCover_of {p' : ControlPlane} (hl : p'.breakers.level d = p.breakers.level d)
    (h : p.Covers d → p'.Covers d) : KeepsCover p p' d := by
  by_cases hp : p.Covers d
  · exact Or.inl (h hp)
  · exact Or.inr ⟨hp, hl⟩

/-- Nothing has changed but the levels of other dependencies, and perhaps the override. -/
theorem keepsCover_of_mode {p' : ControlPlane} (hl : p'.breakers.level d = p.breakers.level d)
    (hm : p'.service.mode = p.service.mode) : KeepsCover p p' d := by
  refine keepsCover_of hl fun h => ?_
  rw [Covers, hl, hm]
  exact h

theorem keepsCover_trans {p' p'' : ControlPlane} (h : KeepsCover p p' d)
    (h' : KeepsCover p' p'' d) : KeepsCover p p'' d := by
  rcases h' with h' | ⟨h', hl'⟩
  · exact Or.inl h'
  · rcases h with h | ⟨h, hl⟩
    · exact absurd h h'
    · exact Or.inr ⟨h, hl'.trans hl⟩

/-- A breaker whose level stays is replaced without anybody noticing. -/
theorem level_set_of_eq {b : Breakers} {x : Breaker} (h : x.level = b.level d) :
    (b.set d x).level = b.level := by
  rw [Breakers.level_set, h, Function.update_eq_self]

theorem settle_of_failure {e : Event} {l : Level} (h : d.cause? l = some e.reason) :
    p.settle now e = p.submit now e := by
  unfold settle
  rw [if_neg fun ha => Dependency.ne_allHealthy_of_cause? h ha.1]

/-- A failure changes no level, or is submitted with the cause behind the new level. -/
theorem reportFailure_tells (now : Moment) (hd : (p.breakers.get d).dependency = d) :
    ((p.reportFailure now d).state.breakers.level = p.breakers.level ∧
      (p.reportFailure now d).state.service = p.service) ∨
    ∃ (l : Level) (e : Event), l ≠ p.breakers.level d ∧ d.cause? l = some e.reason ∧
      (p.reportFailure now d).state.breakers.level = Function.update p.breakers.level d l ∧
      (p.reportFailure now d).state.service = (p.service.handle now e).state := by
  unfold reportFailure onBreaker
  rcases (p.breakers.get d).recordFailure_cases now with
    ⟨-, ha, hs⟩ | ⟨hl, -, ⟨e, ha, he⟩, hs⟩ | ⟨hl, -, ⟨e, ha, he⟩, hs⟩ | ⟨hl, -, ha, hs⟩
  · left
    simp only [ha, hs]
    exact ⟨level_set_of_eq rfl, rfl⟩
  · have hr : d.cause? .tripped = some e.reason := by
      rw [he, hd]
      rfl
    right
    simp only [ha, hs, settle_of_failure hr]
    exact ⟨.tripped, e, fun h => hl h.symm, hr, Breakers.level_set .., rfl⟩
  · have hr : d.cause? .unstable = some e.reason := by
      rw [he, hd]
      rfl
    right
    simp only [ha, hs, settle_of_failure hr]
    refine ⟨.unstable, e, fun h => ?_, hr, Breakers.level_set .., rfl⟩
    exact absurd (h.trans hl) (by decide)
  · left
    simp only [ha, hs]
    exact ⟨level_set_of_eq rfl, rfl⟩

/-- A change of level that is settled takes the cover from nobody: `normal` is only reached with
all breakers healthy. -/
theorem keepsCover_settle (e : Event) : KeepsCover p (p.settle now e).state d := by
  unfold settle
  split
  · exact keepsCover_of rfl id
  · next ha =>
    refine keepsCover_of rfl fun h => ?_
    by_cases he : e.reason = .allHealthy
    · have hu : p.breakers.unhealthy = [] := by
        rw [not_and, Decidable.not_not] at ha
        exact ha he
      exact covers_of_healthy ((Breakers.unhealthy_eq_nil_iff _).mp hu d)
    · exact Service.isMet_handle he h

/-- Nor does a run that is started. -/
theorem keepsCover_followUp (o : Outcome) : KeepsCover p (p.followUp now o).state d := by
  rcases p.followUp_cases now o with ⟨-, hs⟩ | ⟨-, hs⟩ <;> rw [hs]
  · refine keepsCover_of rfl fun h => ?_
    show d.IsMet (p.breakers.level d) (p.recovery.start now .auto none).state.service.mode
    rcases p.recovery.start_cases now .auto none with ⟨-, hr | hr⟩ | ⟨-, -, hr⟩ <;> rw [hr]
    · exact h
    · rw [Service.refresh_mode]
      exact h
    · exact Dependency.isMet_recovering
  · exact keepsCover_of rfl id

/-- A success heals its dependency or changes no level, and takes the cover from nobody. -/
theorem keepsCover_reportSuccess (d' : Dependency) :
    KeepsCover p (p.reportSuccess now d').state d := by
  unfold reportSuccess onBreaker
  rcases (p.breakers.get d').recordSuccess_cases now with ⟨-, ha, hs⟩ | ⟨-, ⟨e, ha, -⟩, hs⟩
  · simp only [ha, hs]
    exact keepsCover_of_mode (congrFun (level_set_of_eq rfl) d) rfl
  · simp only [ha, hs]
    refine keepsCover_trans ?_ (keepsCover_trans (keepsCover_settle e) (keepsCover_followUp _))
    by_cases hd : d = d'
    · subst hd
      refine Or.inl (covers_of_healthy ?_)
      rw [Breakers.level_set, Function.update_self]
    · refine keepsCover_of_mode ?_ rfl
      rw [Breakers.level_set, Function.update_of_ne hd]

/-- A call that leaves a dependency without cover hides what it asks for, or found it so, at the
same level. -/
theorem masks_or_keepsCover {s : ControlPlane × Files}
    (hn : s.1.IsNamed) {c : Call} (hc : c.isReporting = true) :
    Masks now s c d ∨ KeepsCover s.1 (c.perform now s).1 d := by
  by_cases hu : (c.perform now s).1.Covers d
  · exact Or.inr (Or.inl hu)
  cases c with
  | reportFailure d' =>
    rcases reportFailure_tells now (hn d') with ⟨hl, hs⟩ | ⟨l, e, hne, hr, hl, hs⟩
    · exact Or.inr (keepsCover_of_mode (congrFun hl d) (congrArg Service.mode hs))
    by_cases hd : d = d'
    · subst hd
      have hl' : (s.1.reportFailure now d).state.breakers.level d = l := by
        rw [hl, Function.update_self]
      cases ha : (s.1.service.refresh now).answer with
      | true => exact Or.inl ⟨hu, Or.inr ⟨rfl, ha, fun h => hne (hl'.symm.trans h)⟩⟩
      | false =>
        -- the failure is heard
        refine absurd ?_ hu
        show d.IsMet ((s.1.reportFailure now d).state.breakers.level d)
          (s.1.reportFailure now d).state.service.mode
        rw [hl', hs]
        exact Service.isMet_handle_of_cause ha hr
    · have hl' : (s.1.reportFailure now d').state.breakers.level d = s.1.breakers.level d := by
        rw [hl, Function.update_of_ne hd]
      refine Or.inr (keepsCover_of hl' fun h => ?_)
      show d.IsMet ((s.1.reportFailure now d').state.breakers.level d)
        (s.1.reportFailure now d').state.service.mode
      rw [hl', hs]
      exact Service.isMet_handle (Dependency.ne_allHealthy_of_cause? hr) h
  | reportSuccess d' => exact Or.inr (keepsCover_reportSuccess d')
  | force mode ttlSeconds operator reason =>
    rcases s.1.service.force_cases now mode ttlSeconds operator reason with ⟨-, hs⟩ | ⟨ha, -⟩
    · exact Or.inr (keepsCover_of_mode rfl (congrArg Service.mode hs))
    · exact Or.inl ⟨hu, Or.inl ⟨mode, ttlSeconds, operator, reason, rfl, ha⟩⟩
  | clear operator =>
    refine Or.inr (keepsCover_of_mode rfl ?_)
    show (s.1.service.clear now operator).state.mode = s.1.service.mode
    rcases s.1.service.clear_cases now operator with hs | hs <;> rw [hs]
  | _ => cases hc

end

/-! ## Runs -/

theorem run_concat (s : ControlPlane × Files) (calls : List (Moment × Call)) (c : Moment × Call) :
    run s (calls ++ [c]) = c.2.perform c.1 (run s calls) := by
  unfold run
  rw [List.foldl_append, List.foldl_cons, List.foldl_nil]

theorem isNamed_calls {s : ControlPlane × Files} (h : s.1.IsNamed) (calls : List (Moment × Call)) :
    (run s calls).1.IsNamed := by
  induction calls generalizing s with
  | nil => exact h
  | cons c calls ih =>
    rw [run_cons]
    exact ih (tracks_call c.1 s c.2 h).1

/-- A dependency without cover after some calls had none before them, or was hidden by one. -/
theorem isMasked_of_not_covers {s : ControlPlane × Files} (hn : s.1.IsNamed) {d : Dependency}
    (hs : s.1.Covers d) {calls : List (Moment × Call)} (hc : ∀ c ∈ calls, c.2.isReporting = true)
    (hu : ¬ (run s calls).1.Covers d) :
    IsMasked s calls d ((run s calls).1.breakers.level d) := by
  induction calls using List.reverseRecOn with
  | nil => exact absurd hs hu
  | append_singleton calls c ih =>
    rw [run_concat] at hu ⊢
    have hlast : c.2.isReporting = true := hc c (by simp)
    rcases masks_or_keepsCover (isNamed_calls hn calls) hlast with hm | hk | ⟨hu', hl⟩
    · refine ⟨calls, c, [], rfl, hm, fun mid hmid => ?_⟩
      rw [List.prefix_nil.mp hmid, run_concat]
    · exact absurd hk hu
    · obtain ⟨pre, c', post, rfl, hm, hpost⟩ :=
        ih (fun c hc' => hc c (List.mem_append_left _ hc')) hu'
      rw [hl]
      refine ⟨pre, c', post ++ [c], by simp, hm, fun mid hmid => ?_⟩
      rcases List.prefix_concat_iff.mp hmid with rfl | hmid
      · rw [← List.cons_append, ← List.append_assoc, run_concat, hl]
      · exact hpost mid hmid

/-- When a failure has been reported and no override is in force, the mode covers the dependency
if the report has changed its level. If not, the mode covers it unless an earlier call hid what it
asks for, at the level that it still has: the mode was forced to a milder one, or a failure that led
to the level was reported while a milder mode was pinned. -/
theorem covered_or_masked {now : Moment} {ids : RunIds} {settings : Settings} {files : Files}
    {p : ControlPlane} (h : (assemble now ids settings files).1 = .ok p)
    {calls : List (Moment × Call)}
    (hc : ∀ c ∈ calls, c.2.isReporting = true) (files' : Files) {now' : Moment} {d : Dependency}
    (hfree : ((run (p, files') (calls ++ [(now', .reportFailure d)])).1.service.refresh now').answer
      = false) :
    let before := (run (p, files') calls).1
    let after := (run (p, files') (calls ++ [(now', .reportFailure d)])).1
    (after.breakers.level d ≠ before.breakers.level d → after.Covers d) ∧
    (after.Covers d ∨ IsMasked (p, files') calls d (after.breakers.level d)) := by
  intro before after
  have hlast : after = (before.reportFailure now' d).state := by
    simp only [after, run_concat]
    rfl
  have hp : p.IsNamed := (isSound_assemble h).named
  have hn : before.IsNamed := isNamed_calls (s := (p, files')) hp calls
  have hstep : Masks now' (run (p, files') calls) (.reportFailure d) d ∨
      KeepsCover before after d := by
    rw [hlast]
    exact masks_or_keepsCover hn rfl
  rcases hstep with ⟨-, hm⟩ | hk | ⟨hu, hl⟩
  · -- an override that hides the report would still be in force
    rcases hm with ⟨_, _, _, _, he, -⟩ | ⟨-, ha, -⟩
    · cases he
    · have hs : after.service = before.service := by
        rw [hlast]
        rcases reportFailure_tells now' (hn d) with ⟨-, hs⟩ | ⟨_, e, -, -, -, hs⟩
        · exact hs
        · exact hs.trans (Service.handle_of_active ha e).2
      have ha' : (after.service.refresh now').answer = true := by
        rw [hs]
        exact ha
      exact absurd (ha'.symm.trans hfree) (by decide)
  · exact ⟨fun _ => hk, Or.inl hk⟩
  · refine ⟨fun hne => absurd hl hne, Or.inr ?_⟩
    rw [hl]
    exact isMasked_of_not_covers (s := (p, files')) hp ((isSound_assemble h).covered d) hc hu

/-- A second of `normal` is forced, and in it the broker fails until its breaker trips. -/
def failuresUnderOverride : List (Moment × Call) :=
  [(⟨0, .epoch⟩, .force .normal 1 "ops" "maintenance"), (⟨1, .epoch⟩, .reportFailure .broker),
    (⟨2, .epoch⟩, .reportFailure .broker), (⟨3, .epoch⟩, .reportFailure .broker)]

/-- A failure of the broker that is reported after that second finds the breaker tripped, and the
mode stays `normal`. -/
theorem not_covers_failuresUnderOverride :
    ∃ p, (assemble ⟨0, .epoch⟩ .counting sampleSettings .empty).1 = .ok p ∧
      (∀ c ∈ failuresUnderOverride, c.2.isReporting = true) ∧
      let calls := failuresUnderOverride ++ [(⟨2000000000, .epoch⟩, .reportFailure .broker)]
      let after := (run (p, .empty) calls).1
      (after.service.refresh ⟨2000000000, .epoch⟩).answer = false ∧
      after.breakers.level .broker = .tripped ∧ after.service.mode = .normal ∧
      ¬ after.Covers .broker := by
  refine ⟨_, rfl, by decide, by decide, by decide, by decide, fun h => ?_⟩
  exact absurd (h .brokerDisconnect (by decide)) (by decide)

/-- A second of `normal` is forced, and two failures of the broker are reported after it. -/
def failuresAfterOverride : List (Moment × Call) :=
  [(⟨0, .epoch⟩, .force .normal 1 "ops" "maintenance"),
    (⟨2000000000, .epoch⟩, .reportFailure .broker), (⟨2000000001, .epoch⟩, .reportFailure .broker)]

/-- The third failure trips the breaker, and the mode covers that. -/
theorem covered_failuresAfterOverride :
    ∃ p, (assemble ⟨0, .epoch⟩ .counting sampleSettings .empty).1 = .ok p ∧
      (∀ c ∈ failuresAfterOverride, c.2.isReporting = true) ∧
      let calls := failuresAfterOverride ++ [(⟨2000000002, .epoch⟩, .reportFailure .broker)]
      let after := (run (p, .empty) calls).1
      (after.service.refresh ⟨2000000002, .epoch⟩).answer = false ∧
      Mode.disconnected.priority ≤ after.service.mode.priority := by
  obtain ⟨p, hp⟩ : ∃ p, (assemble ⟨0, .epoch⟩ .counting sampleSettings .empty).1 = .ok p := ⟨_, rfl⟩
  have hc : ∀ c ∈ failuresAfterOverride, c.2.isReporting = true := by decide
  have hfree : ((run (p, .empty)
      (failuresAfterOverride ++ [(⟨2000000002, .epoch⟩, .reportFailure .broker)])).1.service.refresh
        ⟨2000000002, .epoch⟩).answer = false := by
    cases hp
    decide
  have hcovers := (covered_or_masked hp hc .empty hfree).1
  refine ⟨p, hp, hc, hfree, hcovers ?_ .brokerDisconnect ?_⟩ <;> cases hp <;> decide

end ControlPlane

end Failsafe
