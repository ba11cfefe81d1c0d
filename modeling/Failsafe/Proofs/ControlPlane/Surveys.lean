import Failsafe.Proofs.ControlPlane.Descents
import Failsafe.Proofs.ControlPlane.Interleaving
import Failsafe.Proofs.ControlPlane.Masking
/-
  What overlapping calls know of the breakers when the mode becomes `normal`.

  A call that leads to `normal` reads the level of every dependency first, under one lock after the
  other, and changes the mode later, under another lock. `Task.Vouches` says what it has read so
  far; a step adds to that just what it reads (`vouches_step`), and no step leads to `normal` before
  everything has been found healthy (`grows_step`). What has happened since is not looked at
  again: a dependency may have begun to fail after it was read, and only so can it be failing when
  the mode becomes `normal` (`normal_after_survey`).
-/

namespace Failsafe

/-- Only the cause that everything is healthy asks for `normal`. -/
theorem Reason.eq_allHealthy_of_target {r : Reason} (h : r.target = .normal) :
    r = .allHealthy := by
  cases r <;> first | rfl | cases h

namespace Service

variable {P : Transition → Prop} {now : Moment} {s s' : Service}

/-- A record that has been added has the property that all added ones have. -/
theorem of_grows (h : Grows P s s') {t : Transition} (hs : s'.history = s.history ++ [t]) :
    P t := by
  obtain ⟨l, hl, hp⟩ := h
  rw [hl] at hs
  exact hp t (List.append_cancel_left hs ▸ List.mem_singleton_self t)

/-- An event leads to the mode that its cause asks for. -/
theorem grows_handle_target (now : Moment) (s : Service) (e : Event) :
    Grows (fun t => t.toMode = e.reason.target) s (s.handle now e).state := by
  refine grows_mono (grows_step now s (.handle e)) ?_
  rintro t ⟨r, hm, rfl⟩
  cases hm with
  | event e h => rfl

end Service

/-- A run is completed only from the last stage. -/
theorem Recovery.grows_commit_ready (now : Moment) (r : Recovery) (id : RunId) (stage : Stage)
    (verdict : Verdict) :
    Service.Grows (fun _ => stage = .ready) r.service
      (r.commit now id stage verdict).state.service := by
  rcases r.commit_cases now id stage verdict with
    ⟨-, hs⟩ | ⟨-, -, -, -, run, -, -, -, ⟨next, -, hs⟩ | ⟨hready, -, hs⟩⟩
  · exact grows_of_isRefreshed now r hs
  · rw [hs]
    exact Service.grows_of_eq rfl
  · rw [hs]
    exact Service.grows_apply now r.service hready

namespace ControlPlane

namespace Task

/-- The dependency whose level a task reads next. -/
def asked? : Task → Option Dependency
  | .asking _ _ (d :: _) _ => some d
  | .checking _ _ (d :: _) => some d
  | _ => none

/-- What a task has found healthy so far: all that it had to read before, unless it has given up
`normal` already. -/
def Vouches (seen : Dependency → Prop) : Task → Prop
  | .telling _ e => e.reason ≠ .allHealthy
  | .asking _ _ ahead [] => ∀ d, d ∈ ahead ∨ seen d
  | .checking _ stage ahead => ∀ d ∈ Breakers.required stage, d ∈ ahead ∨ seen d
  | _ => True

/-! ## One step of a task -/

section
variable {seen seen' : Dependency → Prop} {now : Moment} {p : ControlPlane} {task : Task}

theorem vouches_mono (h : task.Vouches seen) (hs : ∀ d, seen d → seen' d) :
    task.Vouches seen' := by
  unfold Vouches at h ⊢
  split at h
  · exact h
  · exact fun d => (h d).imp_right (hs d)
  · exact fun d hd => (h d hd).imp_right (hs d)
  · trivial

theorem vouches_settled (follow : Bool) (o : Outcome) : (settled follow o).Vouches seen := by
  unfold settled
  split
  · split
    · trivial
    · split <;> trivial
  · trivial

theorem vouches_recorded (follow : Bool) (e? : Option Event) :
    (recorded follow e?).Vouches seen := by
  cases e? with
  | none => trivial
  | some e =>
    unfold recorded
    dsimp only
    split
    · exact fun d => Or.inl (Breakers.mem_all d)
    · next he => exact he

/-- One more dependency has been read and found healthy. -/
theorem ahead_or_seen {d d' : Dependency} {ahead : List Dependency}
    (hd : p.breakers.level d = .healthy) (h : d' ∈ d :: ahead ∨ seen d') :
    d' ∈ ahead ∨ (seen d' ∨ (some d = some d' ∧ p.breakers.level d' = .healthy)) := by
  rcases h with h | h
  · rcases List.mem_cons.mp h with rfl | h
    · exact Or.inr (Or.inr ⟨rfl, hd⟩)
    · exact Or.inl h
  · exact Or.inr (Or.inl h)

/-- A step adds what it reads to what the task has found healthy. -/
theorem vouches_step (h : task.Vouches seen) :
    (task.step now p).answer.Vouches fun d =>
      seen d ∨ (task.asked? = some d ∧ p.breakers.level d = .healthy) := by
  cases task with
  | failing d => exact vouches_recorded false _
  | succeeding d => exact vouches_recorded true _
  | telling follow e => exact vouches_settled follow _
  | asking follow e ahead found =>
    cases ahead with
    | nil => cases found <;> exact vouches_settled follow _
    | cons d ahead =>
      show Vouches _ (.asking follow e ahead
        (if p.breakers.level d = .healthy then found else found ++ [d]))
      by_cases hd : p.breakers.level d = .healthy
      · rw [if_pos hd]
        cases found with
        | nil => exact fun d' => ahead_or_seen hd (h d')
        | cons d' found => trivial
      · rw [if_neg hd]
        cases found <;> trivial
  | following o =>
    show Vouches _ (if p.recovery.run?.isNone then .starting o else .done (.reported (some o)))
    split <;> trivial
  | starting o => trivial
  | driving =>
    rw [step]
    dsimp only
    split <;> trivial
  | opening id =>
    rw [step, Step.map]
    dsimp only
    split
    · trivial
    · exact fun d hd => Or.inl hd
  | checking id stage ahead =>
    cases ahead with
    | nil => trivial
    | cons d ahead =>
      rw [step]
      split
      · next hd => exact fun d' hd' => ahead_or_seen hd (h d' hd')
      · trivial
  | done r => trivial

/-- No step leads to `normal` before everything has been found healthy. -/
theorem grows_step (h : task.Vouches seen) :
    Service.Grows (fun t => t.toMode = .normal → ∀ d, seen d) p.service
      (task.step now p).state.service := by
  cases task with
  | failing d => exact Service.grows_of_eq rfl
  | succeeding d => exact Service.grows_of_eq rfl
  | telling follow e =>
    refine Service.grows_mono (Service.grows_handle_target now p.service e) ?_
    intro t ht hn
    exact absurd (Reason.eq_allHealthy_of_target (ht.symm.trans hn)) h
  | asking follow e ahead found =>
    cases ahead with
    | nil =>
      cases found with
      | nil =>
        refine Service.grows_mono (Service.grows_handle_target now p.service e) ?_
        intro t _ _ d
        exact (h d).resolve_left List.not_mem_nil
      | cons d found => exact Service.grows_of_eq rfl
    | cons d ahead => exact Service.grows_of_eq rfl
  | following o => exact Service.grows_of_eq rfl
  | starting o =>
    show Service.Grows _ p.service (p.started now).state.service
    rw [state_started]
    refine Service.grows_mono (p.recovery.grows_start now .auto none) fun t ht hn => ?_
    exact absurd (ht.target.symm.trans hn) (by decide)
  | driving => exact Service.grows_of_eq rfl
  | opening id =>
    show Service.Grows _ p.service (p.recovery.begin now id).state.service
    rw [(p.recovery.begin_cases now id).1]
    exact Service.grows_of_eq rfl
  | checking id stage ahead =>
    cases ahead with
    | nil =>
      refine Service.grows_mono (p.recovery.grows_commit_ready now id stage .passed) ?_
      rintro t rfl - d
      exact (h d (Breakers.mem_all d)).resolve_left List.not_mem_nil
    | cons d ahead =>
      rw [step]
      split <;> exact Service.grows_of_eq rfl
  | done r => exact Service.grows_of_eq rfl

/-- A success leaves a healthy breaker. -/
theorem level_recordSuccess (now : Moment) (b : Breaker) :
    (b.recordSuccess now).state.level = .healthy := by
  rcases b.recordSuccess_cases now with ⟨hl, -, hs⟩ | ⟨-, -, hs⟩ <;> rw [hs]
  exact hl

/-- Only a failure makes a healthy breaker another. -/
theorem failing_of_step {d : Dependency} (h : p.breakers.level d = .healthy)
    (h' : (task.step now p).state.breakers.level d ≠ .healthy) : task = .failing d := by
  have hset : ∀ (d' : Dependency) (x : Breaker), d ≠ d' →
      (p.breakers.set d' x).level d = .healthy := by
    intro d' x hd
    rw [Breakers.level_set, Function.update_of_ne hd, h]
  cases task with
  | failing d' =>
    by_cases hd : d = d'
    · rw [hd]
    · exact absurd (hset d' _ hd) h'
  | succeeding d' =>
    by_cases hd : d = d'
    · subst hd
      refine absurd ?_ h'
      show (p.breakers.set d _).level d = .healthy
      rw [Breakers.level_set, Function.update_self]
      exact level_recordSuccess now _
    · exact absurd (hset d' _ hd) h'
  | asking follow e ahead found =>
    cases ahead with
    | nil => cases found <;> exact absurd h h'
    | cons d' ahead => exact absurd h h'
  | starting o =>
    rw [show (step now p (.starting o)).state = _ from state_started now p] at h'
    exact absurd h h'
  | checking id stage ahead =>
    cases ahead with
    | nil => exact absurd h h'
    | cons d' ahead =>
      rw [step] at h'
      split at h' <;> exact absurd h h'
  | _ => exact absurd h h'

end

end Task

/-! ## Turns -/

namespace Traffic

/-- A call, the `i`-th that has come in, has read the level of the dependency in one of the turns
and found it healthy. -/
def HasSeen (s : Traffic) (turns : List (Moment × Turn)) (i : Nat) (d : Dependency) : Prop :=
  ∃ pre now post, turns = pre ++ (now, .step i) :: post ∧
    (∃ task, (run s pre).tasks[i]? = some task ∧ task.asked? = some d) ∧
    (run s pre).plane.breakers.level d = .healthy

/-- The turn records a failure with a healthy breaker and makes it another. -/
structure Breaks (now : Moment) (s : Traffic) (turn : Turn) (d : Dependency) : Prop where
  failing : ∃ j, turn = .step j ∧ s.tasks[j]? = some (.failing d)
  before : s.plane.breakers.level d = .healthy
  after : (s.after now turn).plane.breakers.level d ≠ .healthy

section
variable {now : Moment} {s : Traffic} {turn : Turn} {d : Dependency}

/-- After a turn a call is what it was, or has just come in, or has taken its step. -/
theorem task_after {i : Nat} {task' : Task} (h : (s.after now turn).tasks[i]? = some task') :
    s.tasks[i]? = some task' ∨ (∀ seen, task'.Vouches seen) ∨
    ∃ task, turn = .step i ∧ s.tasks[i]? = some task ∧ task' = (task.step now s.plane).answer := by
  have hjoin : ∀ task, (∀ seen, task.Vouches seen) → (s.join task).tasks[i]? = some task' →
      s.tasks[i]? = some task' ∨ (∀ seen, task'.Vouches seen) := by
    intro task hv hj
    unfold join at hj
    dsimp only at hj
    rw [List.getElem?_append] at hj
    split at hj
    · exact Or.inl hj
    · obtain rfl := List.mem_singleton.mp (List.mem_of_getElem? hj)
      exact Or.inr hv
  cases turn with
  | failure d => exact (hjoin (.failing d) (fun _ => trivial) h).imp_right Or.inl
  | success d => exact (hjoin (.succeeding d) (fun _ => trivial) h).imp_right Or.inl
  | drive => exact (hjoin .driving (fun _ => trivial) h).imp_right Or.inl
  | step j =>
    unfold after proceed at h
    dsimp only at h
    split at h
    · next task ht =>
      dsimp only at h
      rw [List.getElem?_set] at h
      split at h
      · next hj =>
        subst hj
        rw [if_pos (List.getElem?_eq_some_iff.mp ht).1] at h
        exact Or.inr (Or.inr ⟨task, rfl, ht, (Option.some.inj h).symm⟩)
      · exact Or.inl h
    · exact Or.inl h

theorem breaks_of_level (h : s.plane.breakers.level d = .healthy)
    (h' : (s.after now turn).plane.breakers.level d ≠ .healthy) : Breaks now s turn d := by
  refine ⟨?_, h, h'⟩
  cases turn with
  | step j =>
    unfold after proceed at h'
    dsimp only at h'
    split at h'
    · next task ht =>
      obtain rfl := Task.failing_of_step h h'
      exact ⟨j, rfl, ht⟩
    · exact absurd h h'
  | _ => exact absurd h h'

end

section
variable {s : Traffic} {turns : List (Moment × Turn)} {d : Dependency}

/-- A healthy breaker that is another after some turns was made so by one of them. -/
theorem exists_breaks (h : s.plane.breakers.level d = .healthy)
    (h' : (run s turns).plane.breakers.level d ≠ .healthy) :
    ∃ mid turn rest, turns = mid ++ turn :: rest ∧ Breaks turn.1 (run s mid) turn.2 d := by
  induction turns generalizing s with
  | nil => exact absurd h h'
  | cons turn turns ih =>
    by_cases hfirst : (s.after turn.1 turn.2).plane.breakers.level d = .healthy
    · rw [run_cons] at h'
      obtain ⟨mid, turn', rest, rfl, hb⟩ := ih hfirst h'
      exact ⟨turn :: mid, turn', rest, rfl, by rw [run_cons]; exact hb⟩
    · exact ⟨[], turn, turns, rfl, breaks_of_level h hfirst⟩

theorem hasSeen_concat {i : Nat} (h : HasSeen s turns i d) (turn : Moment × Turn) :
    HasSeen s (turns ++ [turn]) i d := by
  obtain ⟨pre, now, post, rfl, ht, hl⟩ := h
  exact ⟨pre, now, post ++ [turn], by simp, ht, hl⟩

/-- Every call has found healthy in earlier turns what it vouches for. -/
theorem vouches_run (hs : s.tasks = []) {i : Nat} {task : Task}
    (ht : (run s turns).tasks[i]? = some task) : task.Vouches (HasSeen s turns i) := by
  induction turns using List.reverseRecOn generalizing task with
  | nil => simp [run, hs] at ht
  | append_singleton turns turn ih =>
    rw [run_concat] at ht
    rcases task_after ht with hsame | hv | ⟨before, hturn, hbefore, rfl⟩
    · exact Task.vouches_mono (ih hsame) fun d h => hasSeen_concat h turn
    · exact hv _
    · refine Task.vouches_mono (Task.vouches_step (ih hbefore)) ?_
      rintro d (h | ⟨ha, hl⟩)
      · exact hasSeen_concat h turn
      · obtain ⟨now, turn⟩ := turn
        obtain rfl : turn = .step i := hturn
        exact ⟨turns, now, [], rfl, ⟨before, hbefore, ha⟩, hl⟩

/-- Reading a level leaves it as it is. -/
theorem level_after_asked (now : Moment) {i : Nat} (h : s.plane.breakers.level d = .healthy)
    (ha : ∃ task, s.tasks[i]? = some task ∧ task.asked? = some d) :
    (s.after now (.step i)).plane.breakers.level d = .healthy := by
  by_contra hn
  obtain ⟨j, hj, ht⟩ := (breaks_of_level h hn).failing
  obtain rfl := Turn.step.inj hj
  obtain ⟨task, ht', hasked⟩ := ha
  obtain rfl := Option.some.inj (ht.symm.trans ht')
  cases hasked

end

/-- Whatever calls overlap, a step that leads to `normal` belongs to a call that has read the level
of every dependency and found it healthy, each in an earlier step of its own. A dependency that is
not healthy at that moment was made so by a failure that was recorded after it had been read. -/
theorem normal_after_survey (p : ControlPlane) (turns : List (Moment × Turn)) {now : Moment}
    {turn : Turn} {t : Transition}
    (hh : ((run ⟨p, []⟩ turns).after now turn).plane.service.history
      = (run ⟨p, []⟩ turns).plane.service.history ++ [t])
    (ht : t.toMode = .normal) :
    ∃ i, turn = .step i ∧ ∀ d, ∃ pre now' post, turns = pre ++ (now', .step i) :: post ∧
      (∃ task, (run ⟨p, []⟩ pre).tasks[i]? = some task ∧ task.asked? = some d) ∧
      (run ⟨p, []⟩ pre).plane.breakers.level d = .healthy ∧
      ((run ⟨p, []⟩ turns).plane.breakers.level d ≠ .healthy →
        ∃ mid turn' rest, post = mid ++ turn' :: rest ∧
          Breaks turn'.1 (run ⟨p, []⟩ (pre ++ (now', .step i) :: mid)) turn'.2 d) := by
  have hsame : ¬ (run ⟨p, []⟩ turns).plane.service.history
      = (run ⟨p, []⟩ turns).plane.service.history ++ [t] := by simp
  cases turn with
  | step i =>
    unfold after proceed at hh
    dsimp only at hh
    split at hh
    · next task htask =>
      have hseen := Service.of_grows (Task.grows_step (vouches_run rfl htask)) hh ht
      refine ⟨i, rfl, fun d => ?_⟩
      obtain ⟨pre, now', post, rfl, hasked, hl⟩ := hseen d
      refine ⟨pre, now', post, rfl, hasked, hl, fun hn => ?_⟩
      have hread := level_after_asked now' hl hasked
      rw [run_append, run_cons] at hn
      obtain ⟨mid, turn', rest, rfl, hb⟩ := exists_breaks hread hn
      refine ⟨mid, turn', rest, rfl, ?_⟩
      rw [run_append, run_cons]
      exact hb
    · exact absurd hh hsame
  | _ => exact absurd hh hsame

/-- A failure of the risk engine, a success that heals it, reading all levels, and then a failure
of the broker. -/
def failureAfterSurvey : List (Moment × Turn) :=
  [(⟨0, .epoch⟩, .failure .risk), (⟨0, .epoch⟩, .step 0), (⟨0, .epoch⟩, .step 0),
    (⟨1, .epoch⟩, .success .risk), (⟨1, .epoch⟩, .step 1), (⟨1, .epoch⟩, .step 1),
    (⟨1, .epoch⟩, .step 1), (⟨1, .epoch⟩, .step 1), (⟨1, .epoch⟩, .step 1),
    (⟨2, .epoch⟩, .failure .broker), (⟨2, .epoch⟩, .step 2), (⟨2, .epoch⟩, .step 2)]

/-- The success then leads to `normal` with an unstable broker, which failed after it was read. -/
theorem normal_of_failureAfterSurvey :
    ∃ p, (assemble ⟨0, .epoch⟩ .counting sampleSettings .empty).1 = .ok p ∧
      let before := run ⟨p, []⟩ failureAfterSurvey
      let after := before.after ⟨3, .epoch⟩ (.step 1)
      (∃ t, after.plane.service.history = before.plane.service.history ++ [t] ∧
        t.toMode = .normal) ∧
      after.plane.service.mode = .normal ∧ after.plane.breakers.level .broker = .unstable ∧
      ∃ pre now post mid turn rest, failureAfterSurvey = pre ++ (now, .step 1) :: post ∧
        post = mid ++ turn :: rest ∧
        Breaks turn.1 (run ⟨p, []⟩ (pre ++ (now, .step 1) :: mid)) turn.2 .broker := by
  obtain ⟨p, hp⟩ : ∃ p, (assemble ⟨0, .epoch⟩ .counting sampleSettings .empty).1 = .ok p := ⟨_, rfl⟩
  obtain ⟨t, hh, ht⟩ : ∃ t,
      ((run ⟨p, []⟩ failureAfterSurvey).after ⟨3, .epoch⟩ (.step 1)).plane.service.history
        = (run ⟨p, []⟩ failureAfterSurvey).plane.service.history ++ [t] ∧ t.toMode = .normal := by
    cases hp
    exact ⟨_, rfl, rfl⟩
  have hl : (run ⟨p, []⟩ failureAfterSurvey).plane.breakers.level .broker = .unstable := by
    cases hp
    rfl
  obtain ⟨i, hi, hseen⟩ := normal_after_survey p failureAfterSurvey hh ht
  obtain rfl := Turn.step.inj hi
  obtain ⟨pre, now', post, hpre, -, -, hbreak⟩ := hseen .broker
  obtain ⟨mid, turn, rest, hpost, hb⟩ := hbreak (by rw [hl]; decide)
  refine ⟨p, hp, ⟨t, hh, ht⟩, ?_, ?_, pre, now', post, mid, turn, rest, hpre, hpost, hb⟩ <;>
    cases hp <;> rfl

end Traffic

end ControlPlane

end Failsafe
