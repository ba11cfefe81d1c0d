import Mathlib.Logic.Relation
import Failsafe.Proofs.Service.Calls
/-
  What an override stops, and that nothing is left of it once its time has passed.

  While an override is in force, no call but an operator's changes more than the stage of a
  recovery (`stays_perform`), and what would change the mode is refused. Once it has expired, every
  call does what it does without one (`handle_of_expired` and its companions). Only an operator
  sets an override; anyone else's call leaves it or forgets it (`fades_perform`). These facts carry
  over to whatever is done to the service by calls of that kind (`Reaches`).
-/

namespace Failsafe

/-- An override is still in force at the last moment of its time. -/
theorem Override.isExpired_iff (o : Override) (now : Nanos) :
    o.isExpired now = true ↔ o.start + o.ttl < now := by
  unfold isExpired
  rw [decide_eq_true_iff]
  exact Nat.lt_sub_iff_add_lt'

namespace Service

/-- An operator sets an override by such a call. -/
def Call.isForce : Call → Bool
  | .force .. => true
  | _ => false

/-- An operator sets or ends an override by such a call. -/
def Call.isOverriding : Call → Bool
  | .force .. | .clear _ => true
  | _ => false

/-- The service without its override. -/
def released (s : Service) : Service := { s with override? := none }

/-- Nothing has changed but the stage. -/
def Stays (s s' : Service) : Prop := ∃ stage, s' = { s with stage := stage }

/-- The override is the same, or there is none any more. -/
def Fades (s s' : Service) : Prop := s'.override? = s.override? ∨ s'.override? = none

/-- The second service comes out of the first by calls at one moment, none of them an operator's. -/
def Reaches (now : Moment) : Service → Service → Prop :=
  Relation.ReflTransGen fun s s' => ∃ c : Call, c.isOverriding = false ∧ s' = c.perform now s

variable {now : Moment} {s : Service}

/-! ## Whether an override is in force -/

theorem answer_refresh_of_active {o : Override} (h : s.override? = some o)
    (ho : now.steady ≤ o.start + o.ttl) : (s.refresh now).answer = true := by
  have he : ¬ o.isExpired now.steady = true := by
    rw [o.isExpired_iff]
    exact Nat.not_lt.mpr ho
  unfold refresh
  rw [h]
  simp only [if_neg he]

theorem answer_refresh_of_expired {o : Override} (h : s.override? = none ∨ s.override? = some o)
    (ho : o.start + o.ttl < now.steady) : (s.refresh now).answer = false := by
  rcases h with h | h
  · rw [refresh_of_none now h]
  · have he : o.isExpired now.steady = true := (o.isExpired_iff now.steady).mpr ho
    unfold refresh
    rw [h]
    simp only [if_pos he]

theorem state_refresh_of_active (h : (s.refresh now).answer = true) :
    (s.refresh now).state = s := by
  rcases refresh_cases now s with ⟨-, hs⟩ | ⟨ha, -⟩
  · exact hs
  · exact absurd (h.symm.trans ha) (by decide)

theorem state_refresh_of_expired (h : (s.refresh now).answer = false) :
    (s.refresh now).state = s.released := by
  rcases refresh_cases now s with ⟨ha, -⟩ | ⟨-, hs⟩
  · exact absurd (h.symm.trans ha) (by decide)
  · exact hs

theorem refresh_released : s.released.refresh now = ⟨false, s.released, []⟩ :=
  refresh_of_none now rfl

/-! ## While an override is in force -/

theorem handle_of_active (h : (s.refresh now).answer = true) (e : Event) :
    (s.handle now e).answer = .suppressed ∧ (s.handle now e).state = s := by
  rcases handle_cases now s e with ⟨-, ha, hs⟩ | ⟨hf, -⟩ | ⟨hf, -⟩
  · exact ⟨ha, hs.trans (state_refresh_of_active h)⟩
  · exact absurd (h.symm.trans hf) (by decide)
  · exact absurd (h.symm.trans hf) (by decide)

theorem complete_of_active (h : (s.refresh now).answer = true) :
    (s.complete now).answer = false ∧ (s.complete now).state = s := by
  rcases complete_cases now s with ⟨ha, hs⟩ | ⟨hf, -⟩
  · exact ⟨ha, hs.trans (state_refresh_of_active h)⟩
  · exact absurd (h.symm.trans hf) (by decide)

theorem transition_of_active (h : (s.refresh now).answer = true) (mode : Mode)
    (stage : Option Stage) (reason : Reason) (source : Source) :
    (s.transition now mode stage reason source).answer = false ∧
      (s.transition now mode stage reason source).state = s := by
  rcases transition_cases now s mode stage reason source with ⟨-, ha, hs⟩ | ⟨hf, -⟩
  · exact ⟨ha, hs.trans (state_refresh_of_active h)⟩
  · exact absurd (h.symm.trans hf) (by decide)

theorem stays_refl (s : Service) : Stays s s := ⟨s.stage, rfl⟩

theorem stays_of_eq {s' : Service} (h : s' = s) : Stays s s' := by
  rw [h]
  exact stays_refl s

theorem stays_trans {s' s'' : Service} (h : Stays s s') (h' : Stays s' s'') : Stays s s'' := by
  obtain ⟨stage, rfl⟩ := h
  obtain ⟨stage', rfl⟩ := h'
  exact ⟨stage', rfl⟩

/-- Under an override only the stage of a recovery can be moved. -/
theorem stays_perform (h : (s.refresh now).answer = true) {c : Call}
    (hc : c.isOverriding = false) : Stays s (c.perform now s) := by
  cases c with
  | handle e => exact stays_of_eq (handle_of_active h e).2
  | setStage stage =>
    rw [Call.perform, setStage]
    split
    · exact stays_refl s
    · exact ⟨some stage, rfl⟩
  | moveStage source target =>
    rw [Call.perform]
    rcases moveStage_cases s source target with ⟨-, -, hs⟩ | ⟨-, -, -, hs⟩
    · exact stays_of_eq hs
    · exact ⟨some target, hs⟩
  | complete => exact stays_of_eq (complete_of_active h).2
  | transition mode stage reason source =>
    exact stays_of_eq (transition_of_active h mode stage reason source).2
  | refresh => exact stays_of_eq (state_refresh_of_active h)
  | snapshot => exact stays_of_eq (state_refresh_of_active h)
  | force mode ttlSeconds operator reason => cases hc
  | clear operator => cases hc

/-- Whether an override is in force does not depend on the stage. -/
theorem answer_refresh_of_stays {s' : Service} (h : Stays s s') :
    (s'.refresh now).answer = (s.refresh now).answer := by
  obtain ⟨stage, rfl⟩ := h
  unfold refresh
  dsimp only
  split
  · rfl
  · split <;> rfl

theorem stays_of_reaches {s' : Service} (h : (s.refresh now).answer = true)
    (hr : Reaches now s s') : Stays s s' := by
  induction hr with
  | refl => exact stays_refl s
  | tail _ hstep ih =>
    obtain ⟨c, hc, rfl⟩ := hstep
    have hm := (answer_refresh_of_stays ih).trans h
    exact stays_trans ih (stays_perform hm hc)

/-! ## Once it has expired -/

theorem handle_of_expired (h : (s.refresh now).answer = false) (e : Event) :
    (s.handle now e).answer = (s.released.handle now e).answer ∧
      (s.handle now e).state = (s.released.handle now e).state := by
  unfold handle
  dsimp only
  rw [h, state_refresh_of_expired h, refresh_released]
  simp only [Bool.false_eq_true, if_false]
  split <;> exact ⟨rfl, rfl⟩

theorem complete_of_expired (h : (s.refresh now).answer = false) :
    (s.complete now).answer = (s.released.complete now).answer ∧
      (s.complete now).state = (s.released.complete now).state := by
  unfold complete
  dsimp only
  rw [h, state_refresh_of_expired h, refresh_released]
  simp only [Bool.false_eq_true, if_false]
  split <;> exact ⟨rfl, rfl⟩

theorem transition_of_expired (h : (s.refresh now).answer = false) (mode : Mode)
    (stage : Option Stage) (reason : Reason) (source : Source) :
    (s.transition now mode stage reason source).answer
        = (s.released.transition now mode stage reason source).answer ∧
      (s.transition now mode stage reason source).state
        = (s.released.transition now mode stage reason source).state := by
  unfold transition
  dsimp only
  rw [h, state_refresh_of_expired h, refresh_released]
  exact ⟨rfl, rfl⟩

/-! ## Where overrides come from -/

theorem fades_refresh : Fades s (s.refresh now).state := by
  rcases refresh_cases now s with ⟨-, h⟩ | ⟨-, h⟩
  · rw [h]
    exact Or.inl rfl
  · rw [h]
    exact Or.inr rfl

/-- A transition does not touch the override. -/
theorem fades_of_apply {r : Request} {s' : Service}
    (h : s' = ((s.refresh now).state.apply now r).state) : Fades s s' := by
  subst h
  exact fades_refresh (s := s)

theorem fades_of_refresh {s' : Service} (h : s' = (s.refresh now).state) : Fades s s' := by
  subst h
  exact fades_refresh

theorem fades_trans {s' s'' : Service} (h : Fades s s') (h' : Fades s' s'') : Fades s s'' := by
  rcases h' with h' | h'
  · rcases h with h | h
    · exact Or.inl (h'.trans h)
    · exact Or.inr (h'.trans h)
  · exact Or.inr h'

/-- Only an operator sets an override. -/
theorem fades_perform {c : Call} (hc : c.isForce = false) : Fades s (c.perform now s) := by
  cases c with
  | handle e =>
    rcases handle_cases now s e with ⟨-, -, hs⟩ | ⟨-, -, -, -, hs⟩ | ⟨-, -, -, hs⟩
    · exact fades_of_refresh hs
    · exact fades_of_refresh hs
    · exact fades_of_apply hs
  | clear operator =>
    rw [Call.perform]
    rcases clear_cases now s operator with hs | hs
    · rw [hs]
      exact Or.inl rfl
    · rw [hs]
      exact Or.inr rfl
  | setStage stage =>
    rw [Call.perform, setStage]
    split <;> exact Or.inl rfl
  | moveStage source target =>
    rw [Call.perform]
    rcases moveStage_cases s source target with ⟨-, -, hs⟩ | ⟨-, -, -, hs⟩ <;> rw [hs] <;>
      exact Or.inl rfl
  | complete =>
    rcases complete_cases now s with ⟨-, hs⟩ | ⟨-, -, -, -, hs⟩
    · exact fades_of_refresh hs
    · exact fades_of_apply hs
  | transition mode stage reason source =>
    rcases transition_cases now s mode stage reason source with ⟨-, -, hs⟩ | ⟨-, -, hs⟩
    · exact fades_of_refresh hs
    · exact fades_of_apply hs
  | refresh => exact fades_refresh
  | snapshot => exact fades_refresh
  | force mode ttlSeconds operator reason => cases hc

theorem isForce_of_not_isOverriding {c : Call} (h : c.isOverriding = false) :
    c.isForce = false := by
  cases c with
  | force mode ttlSeconds operator reason => cases h
  | _ => rfl

theorem fades_of_reaches {s' : Service} (hr : Reaches now s s') : Fades s s' := by
  induction hr with
  | refl => exact Or.inl rfl
  | tail _ hstep ih =>
    obtain ⟨c, hc, rfl⟩ := hstep
    exact fades_trans ih (fades_perform (isForce_of_not_isOverriding hc))

/-! ## A command to force a mode -/

/-- What a command to force a mode leaves, if it is not refused. -/
theorem force_eq_ok {now : Moment} {mode : Mode} {ttlSeconds : Nat} {operator reason : String}
    {s : Service} {t : Transition}
    (h : (s.force now mode ttlSeconds operator reason).answer = .ok t) :
    (s.force now mode ttlSeconds operator reason).state.mode = mode ∧
    (s.force now mode ttlSeconds operator reason).state.history = s.history ++ [t] ∧
    (s.force now mode ttlSeconds operator reason).state.override?
      = some ⟨mode, Nanos.ofSeconds ttlSeconds, operator, reason, now.steady⟩ := by
  unfold force at h ⊢
  split at h
  · cases h
  split at h
  · cases h
  split at h
  · cases h
  · next ho hr ht =>
    rw [if_neg ho, if_neg hr, if_neg ht]
    obtain rfl := Except.ok.inj h
    exact ⟨rfl, rfl, rfl⟩

/-- A command with an operator, a reason and a time is not refused. -/
theorem force_ok (now : Moment) (mode : Mode) {ttlSeconds : Nat} {operator reason : String}
    (ho : Text.isBlank operator = false) (hr : Text.isBlank reason = false) (ht : ttlSeconds ≠ 0)
    (s : Service) : ∃ t, (s.force now mode ttlSeconds operator reason).answer = .ok t := by
  unfold force
  rw [ho, hr, if_neg ht]
  exact ⟨_, rfl⟩

end Service

end Failsafe
