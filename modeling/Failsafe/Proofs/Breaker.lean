import Failsafe.Breaker
import Failsafe.ControlPlane
/-
  What one report does to a breaker, and what the causes that breakers report ask for.
-/

namespace Failsafe

/-- The cause that stands behind a level of a dependency's breaker. -/
def Dependency.cause? (d : Dependency) : Level → Option Reason
  | .healthy => none
  | .unstable => some d.unstableReason
  | .tripped => some d.trippedReason

theorem Dependency.cause?_eq_none_iff (d : Dependency) {l : Level} :
    d.cause? l = none ↔ l = .healthy := by
  cases l <;> simp [cause?]

/-- No breaker asks for more than the mode of a system without a broker. -/
theorem Dependency.priority_of_cause? {d : Dependency} {l : Level} {r : Reason}
    (h : d.cause? l = some r) : 1 ≤ r.target.priority ∧ r.target.priority ≤ 3 := by
  cases l with
  | healthy => cases h
  | unstable =>
    cases h
    cases d <;> decide
  | tripped =>
    cases h
    cases d <;> decide

theorem Dependency.ne_allHealthy_of_cause? {d : Dependency} {l : Level} {r : Reason}
    (h : d.cause? l = some r) : r ≠ .allHealthy := by
  rintro rfl
  have hp := (priority_of_cause? h).1
  simp [Reason.target, Mode.priority] at hp

namespace Breaker

/-- The breaker after a failure has been counted, and before anything follows from it. -/
def counted (now : Moment) (b : Breaker) : Breaker :=
  { b with
    failures := b.failures + 1
    firstFailure := some (b.firstFailure.getD now.steady) }

variable (now : Moment) (b : Breaker)

/-- A failure trips the breaker, makes it unstable, is only counted or is ignored. -/
theorem recordFailure_cases :
    (b.level = .tripped ∧ (b.recordFailure now).answer = none ∧
      (b.recordFailure now).state = b) ∨
    (b.level ≠ .tripped ∧ (b.counted now).shouldTrip now.steady = true ∧
      (∃ e, (b.recordFailure now).answer = some e ∧ e.reason = b.dependency.trippedReason) ∧
      (b.recordFailure now).state = { b.counted now with level := .tripped }) ∨
    (b.level = .healthy ∧ (b.counted now).shouldTrip now.steady = false ∧
      (∃ e, (b.recordFailure now).answer = some e ∧ e.reason = b.dependency.unstableReason) ∧
      (b.recordFailure now).state = { b.counted now with level := .unstable }) ∨
    (b.level = .unstable ∧ (b.counted now).shouldTrip now.steady = false ∧
      (b.recordFailure now).answer = none ∧ (b.recordFailure now).state = b.counted now) := by
  unfold recordFailure
  split
  · next ht => exact Or.inl ⟨ht, rfl, rfl⟩
  · next ht =>
    right
    dsimp only
    split
    · next hs => exact Or.inl ⟨ht, hs, ⟨_, rfl, rfl⟩, rfl⟩
    · next hs =>
      right
      have hs' : (b.counted now).shouldTrip now.steady = false := Bool.eq_false_iff.mpr hs
      split
      · next hl => exact Or.inl ⟨hl, hs', ⟨_, rfl, rfl⟩, rfl⟩
      · next hl =>
        have hu : b.level = .unstable := by
          cases h : b.level with
          | healthy => exact absurd h hl
          | unstable => rfl
          | tripped => exact absurd h ht
        exact Or.inr ⟨hu, hs', rfl, rfl⟩

/-- A success heals the breaker unless it is healthy. -/
theorem recordSuccess_cases :
    (b.level = .healthy ∧ (b.recordSuccess now).answer = none ∧
      (b.recordSuccess now).state = b) ∨
    (b.level ≠ .healthy ∧
      (∃ e, (b.recordSuccess now).answer = some e ∧ e.reason = b.dependency.recoveredReason) ∧
      (b.recordSuccess now).state
        = { b with level := .healthy, failures := 0, firstFailure := none }) := by
  unfold recordSuccess
  split
  · next h => exact Or.inl ⟨h, rfl, rfl⟩
  · next h => exact Or.inr ⟨h, ⟨_, rfl, rfl⟩, rfl⟩

end Breaker

namespace Breakers

theorem get_set_self (b : Breakers) (d : Dependency) (x : Breaker) : (b.set d x).get d = x := by
  cases d <;> rfl

theorem get_set_of_ne (b : Breakers) {d d' : Dependency} (h : d' ≠ d) (x : Breaker) :
    (b.set d x).get d' = b.get d' := by
  cases d <;> cases d' <;> first | rfl | exact absurd rfl h

theorem mem_all (d : Dependency) : d ∈ Dependency.all := by
  cases d <;> decide

theorem unhealthy_eq_nil_iff (b : Breakers) :
    b.unhealthy = [] ↔ ∀ d, b.level d = .healthy := by
  unfold unhealthy
  rw [List.filter_eq_nil_iff]
  constructor
  · intro h d
    have hd := h d (mem_all d)
    rwa [decide_eq_true_iff, Decidable.not_not] at hd
  · intro h d _
    rw [decide_eq_true_iff, Decidable.not_not]
    exact h d

/-- The last stage is passed only with all breakers healthy. -/
theorem healthy_of_check_ready {b : Breakers} (h : b.check .ready = .passed) (d : Dependency) :
    b.level d = .healthy := by
  unfold check at h
  split at h
  · next hall => exact of_decide_eq_true (List.all_eq_true.mp hall d (mem_all d))
  · simp at h

end Breakers

end Failsafe
