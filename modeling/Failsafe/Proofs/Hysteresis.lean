import Mathlib.Order.Bounds.Defs
import Mathlib.Data.List.Basic
import Mathlib.Data.List.GetD
import Mathlib.Data.List.Induction
import Failsafe.Proofs.Breaker
/-
  When a breaker trips, over all that was ever reported to it.

  What counts are the times of the failures since the last success (`failing`). A failure suffices
  if it is the one that fills the count, or if it comes long enough after the first one
  (`BreakerConfig.Suffices`). The breaker keeps three things of this history, the number of
  failures, the time of the first and its level, and one report after the other they stay what the
  history says (`reflects_step`): it is tripped exactly if some failure has sufficed, and then it
  has counted up to the first that did (`hysteresis_run`).
-/

namespace Failsafe

/-- The cause that is reported when the dependency's breaker comes to a level. -/
def Dependency.announced (d : Dependency) : Level → Reason
  | .healthy => d.recoveredReason
  | .unstable => d.unstableReason
  | .tripped => d.trippedReason

/-- Of failures at some times, the `i`-th is enough to trip a breaker: the count is full, or the
time since the first one is up. -/
def BreakerConfig.Suffices (c : BreakerConfig) (times : List Nanos) (i : Nat) : Prop :=
  1 ≤ i ∧ i ≤ times.length ∧
    (c.failures ≤ i ∨ Nanos.ofSeconds c.seconds ≤ times.getD (i - 1) 0 - times.headD 0)

namespace Breaker

/-- What is reported of a dependency, and when. -/
inductive Notice where
  | failure (now : Moment)
  | success (now : Moment)

namespace Notice

/-- When the dependency failed, if it did. -/
def failedAt? : Notice → Option Nanos
  | failure now => some now.steady
  | success _ => none

/-- Reports to a breaker. -/
def step (b : Breaker) : Notice → Step Breaker (Option Event)
  | failure now => b.recordFailure now
  | success now => b.recordSuccess now

end Notice

/-- The breaker after some reports. -/
def run (b : Breaker) (notices : List Notice) : Breaker :=
  notices.foldl (fun b notice => (notice.step b).state) b

/-- The times of the failures since the last success. -/
def failing (notices : List Notice) : List Nanos :=
  (notices.reverse.takeWhile fun notice => notice.failedAt?.isSome).reverse.filterMap
    Notice.failedAt?

/-- A breaker knows of failures at some times what it has to: when the first one was, how many
there were until one sufficed, and whether any did. -/
structure Reflects (c : BreakerConfig) (times : List Nanos) (b : Breaker) : Prop where
  config : b.config = c
  first : b.firstFailure = times.head?
  healthy : b.level = .healthy → times = []
  unstable : b.level = .unstable → times ≠ []
  counted : b.level ≠ .tripped → b.failures = times.length ∧ ∀ i, ¬ c.Suffices times i
  tripped : b.level = .tripped → IsLeast {i | c.Suffices times i} b.failures

/-! ## The history -/

section
variable (notices : List Notice)

theorem failing_failure (now : Moment) :
    failing (notices ++ [.failure now]) = failing notices ++ [now.steady] := by
  unfold failing
  rw [List.reverse_concat, List.takeWhile_cons_of_pos rfl, List.reverse_cons, List.filterMap_append]
  rfl

theorem failing_success (now : Moment) : failing (notices ++ [.success now]) = [] := by
  unfold failing
  rw [List.reverse_concat, List.takeWhile_cons_of_neg Bool.false_ne_true]
  rfl

theorem run_concat (b : Breaker) (notice : Notice) :
    run b (notices ++ [notice]) = (notice.step (run b notices)).state := by
  unfold run
  rw [List.foldl_append]
  rfl

end

section
variable {c : BreakerConfig} {times : List Nanos} {b : Breaker}

/-- Where nothing failed, nothing suffices. -/
theorem not_suffices_nil (i : Nat) : ¬ c.Suffices [] i := fun h =>
  Nat.not_succ_le_zero 0 (Nat.le_trans h.1 h.2.1)

/-- Whether a failure suffices does not depend on later ones. -/
theorem suffices_concat {i : Nat} (hi : i ≤ times.length) (t : Nanos) :
    c.Suffices (times ++ [t]) i ↔ c.Suffices times i := by
  cases times with
  | nil =>
    have hzero : i = 0 := Nat.le_zero.mp hi
    subst hzero
    simp [BreakerConfig.Suffices]
  | cons first rest =>
    by_cases hpos : 1 ≤ i
    · have hget : (first :: rest ++ [t]).getD (i - 1) 0 = (first :: rest).getD (i - 1) 0 :=
        List.getD_append _ _ _ _ (by omega)
      have hi' : i ≤ (first :: rest ++ [t]).length := by
        rw [List.length_append]
        omega
      unfold BreakerConfig.Suffices
      rw [hget]
      simp only [hpos, hi, hi', true_and]
      rfl
    · simp [BreakerConfig.Suffices, hpos]

/-- With one more failure, one suffices exactly if one did before or the new one does. -/
theorem suffices_concat_iff {i : Nat} (t : Nanos) :
    c.Suffices (times ++ [t]) i ↔
      c.Suffices times i ∨ i = times.length + 1 ∧ c.Suffices (times ++ [t]) (times.length + 1) := by
  constructor
  · intro h
    by_cases hi : i ≤ times.length
    · exact Or.inl ((suffices_concat hi t).mp h)
    · have hlen := h.2.1
      rw [List.length_append, List.length_singleton] at hlen
      have heq : i = times.length + 1 := by omega
      exact Or.inr ⟨heq, heq ▸ h⟩
  · rintro (h | ⟨rfl, h⟩)
    · exact (suffices_concat h.2.1 t).mpr h
    · exact h

/-! ## One report -/

theorem reflects_new (d : Dependency) (c : BreakerConfig) : (new d c).Reflects c [] where
  config := rfl
  first := rfl
  healthy _ := rfl
  unstable h := by cases h
  counted _ := ⟨rfl, not_suffices_nil⟩
  tripped h := by cases h

theorem reflects_recordSuccess (h : b.Reflects c times) (now : Moment) :
    (b.recordSuccess now).state.Reflects c [] := by
  obtain ⟨hl, -, hstate⟩ | ⟨-, -, hstate⟩ := recordSuccess_cases now b
  · rw [hstate]
    exact h.healthy hl ▸ h
  · rw [hstate]
    exact { reflects_new b.dependency c with config := h.config }

/-- The breaker trips with a failure exactly if it suffices. -/
theorem shouldTrip_counted_iff (h : b.Reflects c times) (hl : b.level ≠ .tripped) (now : Moment) :
    (b.counted now).shouldTrip now.steady = true ↔
      c.Suffices (times ++ [now.steady]) (times.length + 1) := by
  obtain ⟨hcount, -⟩ := h.counted hl
  have hlast : (times ++ [now.steady]).getD times.length 0 = now.steady := by simp
  have hfirst : (times ++ [now.steady]).headD 0 = b.firstFailure.getD now.steady := by
    rw [h.first]
    cases times <;> rfl
  unfold shouldTrip counted BreakerConfig.Suffices
  rw [Nat.add_sub_cancel, hlast, hfirst, ← hcount, ← h.config]
  simp [hcount]

theorem first_counted (h : b.Reflects c times) (now : Moment) :
    (b.counted now).firstFailure = (times ++ [now.steady]).head? := by
  unfold counted
  rw [h.first]
  cases times <;> rfl

/-- After a failure that does not suffice, the breaker is unstable and has counted it. -/
theorem reflects_unstable (h : b.Reflects c times) (hl : b.level ≠ .tripped) {now : Moment}
    (hs : (b.counted now).shouldTrip now.steady = false) :
    Reflects c (times ++ [now.steady]) { b.counted now with level := .unstable } where
  config := h.config
  first := first_counted h now
  healthy h' := by cases h'
  unstable _ := List.concat_ne_nil _ _
  counted _ := by
    obtain ⟨hcount, hnone⟩ := h.counted hl
    constructor
    · rw [List.length_append]
      exact congrArg (· + 1) hcount
    · intro i hi
      obtain hi | ⟨-, hi⟩ := (suffices_concat_iff now.steady).mp hi
      · exact hnone i hi
      · rw [← shouldTrip_counted_iff h hl, hs] at hi
        cases hi
  tripped h' := by cases h'

/-- A failure that trips the breaker is the first one that suffices. -/
theorem reflects_tripped (h : b.Reflects c times) (hl : b.level ≠ .tripped) {now : Moment}
    (hs : (b.counted now).shouldTrip now.steady = true) :
    Reflects c (times ++ [now.steady]) { b.counted now with level := .tripped } where
  config := h.config
  first := first_counted h now
  healthy h' := by cases h'
  unstable _ := List.concat_ne_nil _ _
  counted h' := absurd rfl h'
  tripped _ := by
    obtain ⟨hcount, hnone⟩ := h.counted hl
    have hnow : (b.counted now).failures = times.length + 1 := congrArg (· + 1) hcount
    have hsuffices := (shouldTrip_counted_iff h hl now).mp hs
    refine ⟨hnow ▸ hsuffices, fun i hi => ?_⟩
    obtain hi | ⟨rfl, -⟩ := (suffices_concat_iff now.steady).mp hi
    · exact absurd hi (hnone i)
    · exact Nat.le_of_eq hnow

/-- Once the breaker has tripped, more failures change nothing: the first one that sufficed stays
the first. -/
theorem reflects_ignored (h : b.Reflects c times) (hl : b.level = .tripped) (t : Nanos) :
    b.Reflects c (times ++ [t]) where
  config := h.config
  first := by
    have hne : times ≠ [] := by
      rintro rfl
      exact not_suffices_nil _ (h.tripped hl).1
    exact h.first.trans (List.head?_append_of_ne_nil _ hne).symm
  healthy h' := by
    rw [hl] at h'
    cases h'
  unstable _ := List.concat_ne_nil _ _
  counted h' := absurd hl h'
  tripped _ := by
    obtain ⟨hmem, hleast⟩ := h.tripped hl
    refine ⟨(suffices_concat hmem.2.1 t).mpr hmem, fun i hi => ?_⟩
    obtain hi | ⟨rfl, -⟩ := (suffices_concat_iff t).mp hi
    · exact hleast hi
    · exact Nat.le_succ_of_le hmem.2.1

theorem reflects_recordFailure (h : b.Reflects c times) (now : Moment) :
    (b.recordFailure now).state.Reflects c (times ++ [now.steady]) := by
  obtain ⟨hl, -, hstate⟩ | ⟨hl, hs, -, hstate⟩ | ⟨hl, hs, -, hstate⟩ | ⟨hl, hs, -, hstate⟩ :=
    recordFailure_cases now b
  · rw [hstate]
    exact reflects_ignored h hl now.steady
  · rw [hstate]
    exact reflects_tripped h hl hs
  · rw [hstate]
    have hlow : b.level ≠ .tripped := by
      rw [hl]
      decide
    exact reflects_unstable h hlow hs
  · have hlow : b.level ≠ .tripped := by
      rw [hl]
      decide
    have hsame : { b.counted now with level := Level.unstable } = b.counted now := by
      rw [← hl]
      rfl
    rw [hstate, ← hsame]
    exact reflects_unstable h hlow hs

/-- A breaker that still counts has not filled its count. -/
theorem failures_lt_of_reflects (h : b.Reflects c times) (hl : b.level ≠ .tripped) :
    b.failures = 0 ∨ b.failures < c.failures := by
  obtain ⟨hcount, hnone⟩ := h.counted hl
  rw [hcount]
  by_contra hge
  rw [not_or, Nat.not_lt] at hge
  exact hnone times.length ⟨Nat.pos_of_ne_zero hge.1, Nat.le_refl _, Or.inl hge.2⟩

theorem level_eq_healthy_iff (h : b.Reflects c times) : b.level = .healthy ↔ times = [] := by
  refine ⟨h.healthy, ?_⟩
  rintro rfl
  cases hl : b.level with
  | healthy => rfl
  | unstable => exact absurd rfl (h.unstable hl)
  | tripped =>
    exact absurd (h.tripped hl).1 (not_suffices_nil _)

theorem level_eq_tripped_iff (h : b.Reflects c times) :
    b.level = .tripped ↔ ∃ i, c.Suffices times i := by
  constructor
  · intro hl
    exact ⟨b.failures, (h.tripped hl).1⟩
  · rintro ⟨i, hi⟩
    by_contra hl
    exact (h.counted hl).2 i hi

end

/-! ## Every report -/

@[simp] theorem dependency_step (b : Breaker) (notice : Notice) :
    (notice.step b).state.dependency = b.dependency := by
  cases notice with
  | failure now =>
    show (b.recordFailure now).state.dependency = b.dependency
    obtain ⟨-, -, h⟩ | ⟨-, -, -, h⟩ | ⟨-, -, -, h⟩ | ⟨-, -, -, h⟩ := recordFailure_cases now b <;>
      rw [h] <;> rfl
  | success now =>
    show (b.recordSuccess now).state.dependency = b.dependency
    obtain ⟨-, -, h⟩ | ⟨-, -, h⟩ := recordSuccess_cases now b <;> rw [h]

/-- An event tells of a new level, and of every new level there is one. -/
theorem reason_answer_step (b : Breaker) (notice : Notice) :
    (notice.step b).answer.map Event.reason =
      if (notice.step b).state.level = b.level then none
      else some (b.dependency.announced (notice.step b).state.level) := by
  cases notice with
  | failure now =>
    show (b.recordFailure now).answer.map Event.reason =
      if (b.recordFailure now).state.level = b.level then none
      else some (b.dependency.announced (b.recordFailure now).state.level)
    obtain ⟨hl, ha, hstate⟩ | ⟨hl, -, ⟨e, ha, hr⟩, hstate⟩ | ⟨hl, -, ⟨e, ha, hr⟩, hstate⟩ |
      ⟨hl, -, ha, hstate⟩ := recordFailure_cases now b
    · rw [ha, hstate, if_pos rfl]
      rfl
    · rw [ha, hstate, if_neg (Ne.symm hl), Option.map_some, hr]
      rfl
    · have hnew : Level.unstable ≠ b.level := by
        rw [hl]
        decide
      rw [ha, hstate, if_neg hnew, Option.map_some, hr]
      rfl
    · have hsame : (b.counted now).level = b.level := rfl
      rw [ha, hstate, if_pos hsame]
      rfl
  | success now =>
    show (b.recordSuccess now).answer.map Event.reason =
      if (b.recordSuccess now).state.level = b.level then none
      else some (b.dependency.announced (b.recordSuccess now).state.level)
    obtain ⟨-, ha, hstate⟩ | ⟨hl, ⟨e, ha, hr⟩, hstate⟩ := recordSuccess_cases now b
    · rw [ha, hstate, if_pos rfl]
      rfl
    · rw [ha, hstate, if_neg (Ne.symm hl), Option.map_some, hr]
      rfl

theorem reflects_step {c : BreakerConfig} {b : Breaker} {notices : List Notice}
    (h : b.Reflects c (failing notices)) (notice : Notice) :
    (notice.step b).state.Reflects c (failing (notices ++ [notice])) := by
  cases notice with
  | failure now =>
    rw [failing_failure]
    exact reflects_recordFailure h now
  | success now =>
    rw [failing_success]
    exact reflects_recordSuccess h now

section
variable (d : Dependency) (c : BreakerConfig) (notices : List Notice)

/-- Whatever is reported, a breaker knows of it what it has to. -/
theorem reflects_run : (run (new d c) notices).Reflects c (failing notices) := by
  induction notices using List.reverseRecOn with
  | nil => exact reflects_new d c
  | append_singleton notices notice ih =>
    rw [run_concat]
    exact reflects_step ih notice

theorem dependency_run : (run (new d c) notices).dependency = d := by
  induction notices using List.reverseRecOn with
  | nil => rfl
  | append_singleton notices notice ih => rw [run_concat, dependency_step, ih]

/-- After any reports, with whatever thresholds, the level, the count and the first failure of a
breaker are those that the failures since the last success ask for; the next report brings an event
exactly if it changes the level; and the count has room for one failure more as long as it still
counts. No order of the times is supposed: the time from a later reading back to an earlier one is
zero for the breaker and for `BreakerConfig.Suffices` alike. -/
theorem hysteresis_run (hc : c.failures < Width.bound 32) :
    let b := run (new d c) notices
    let times := failing notices
    (b.level = .healthy ↔ times = []) ∧
    (b.level = .tripped ↔ ∃ i, c.Suffices times i) ∧
    (b.level = .unstable ↔ times ≠ [] ∧ ∀ i, ¬ c.Suffices times i) ∧
    (b.level ≠ .tripped → b.failures = times.length) ∧
    (b.level = .tripped → IsLeast {i | c.Suffices times i} b.failures) ∧
    b.firstFailure = times.head? ∧
    (∀ notice : Notice,
      let next := run (new d c) (notices ++ [notice])
      (notice.step b).answer.map Event.reason =
        if next.level = b.level then none else some (d.announced next.level)) ∧
    (b.level ≠ .tripped → b.failures + 1 < Width.bound 32) := by
  intro b times
  have h : b.Reflects c times := reflects_run d c notices
  have hhealthy := level_eq_healthy_iff h
  have htripped := level_eq_tripped_iff h
  refine ⟨hhealthy, htripped, ?_, fun hl => (h.counted hl).1, h.tripped, h.first, ?_, ?_⟩
  · -- Unstable is the third of three levels.
    rw [← not_exists, ← htripped, ne_eq, ← hhealthy]
    cases b.level <;> simp
  · intro notice next
    have hnext : next = (notice.step b).state := run_concat notices _ notice
    rw [hnext, reason_answer_step, dependency_run]
  · intro hl
    obtain hzero | hlt := failures_lt_of_reflects h hl
    · rw [hzero]
      decide
    · exact Nat.lt_of_le_of_lt hlt hc

end

/-- A failure that is soon over, and two that are half a minute apart. -/
def failuresApart : List Notice :=
  [.failure ⟨Nanos.ofSeconds 0, .epoch⟩, .success ⟨Nanos.ofSeconds 1, .epoch⟩,
    .failure ⟨Nanos.ofSeconds 2, .epoch⟩, .failure ⟨Nanos.ofSeconds 32, .epoch⟩]

/-- The second failure in a row trips a breaker that waits for three of them or half a minute. -/
theorem hysteresis_run_failuresApart :
    failing failuresApart = [Nanos.ofSeconds 2, Nanos.ofSeconds 32] ∧
    (run (new .broker .standard) failuresApart).level = .tripped ∧
    IsLeast {i | BreakerConfig.standard.Suffices (failing failuresApart) i} 2 ∧
    (run (new .broker .standard) failuresApart).firstFailure = some (Nanos.ofSeconds 2) := by
  have hfailing : failing failuresApart = [Nanos.ofSeconds 2, Nanos.ofSeconds 32] := rfl
  have hsuffices : BreakerConfig.standard.Suffices (failing failuresApart) 2 :=
    ⟨by decide, by decide, Or.inr (by decide)⟩
  have hcount : (run (new .broker .standard) failuresApart).failures = 2 := rfl
  obtain ⟨-, htripped, -, -, hleast, hfirst, -, -⟩ :=
    hysteresis_run .broker .standard failuresApart (by decide)
  have hlevel := htripped.mpr ⟨2, hsuffices⟩
  exact ⟨hfailing, hlevel, hcount ▸ hleast hlevel, hfirst⟩

end Breaker

end Failsafe
