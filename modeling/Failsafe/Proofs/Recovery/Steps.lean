import Failsafe.Recovery
import Failsafe.Proofs.Service.Calls
/-
  What one step of the recovery protocol can do: `begin_cases`, `commit_cases`, `start_cases` and
  `abort_cases`.

  A step that is refused leaves the run as it was, and does no more to the service than forget an
  override whose time has passed. A run that is started gets the next number of the supply, which
  none has got before (`nextId_not_mem_issued`).
-/

namespace Failsafe.Recovery

/-- The run at its next stage. -/
def moved (now : Moment) (run : Run) (next : Stage) : Run :=
  { run with
    stage := next
    stageEntered := now.steady
    readySince := if next = .ready then some now.steady else run.readySince }

/-- A run that is started with the number. -/
def fresh (now : Moment) (trigger : Trigger) (operator : Option String) (id : RunId) : Run :=
  { id, trigger, operator, stage := .first, stageEntered := now.steady, readySince := none }

/-- The number that the next run is given. -/
def nextId (r : Recovery) : RunId := r.ids.draw r.started

/-- The numbers that runs have been given. -/
def issued (r : Recovery) : List RunId := (List.range r.started).map r.ids.draw

theorem nextId_not_mem_issued (r : Recovery) : r.nextId ∉ r.issued := by
  unfold nextId issued
  rw [List.mem_map]
  rintro ⟨n, hn, he⟩
  rw [r.ids.distinct n r.started he] at hn
  exact absurd (List.mem_range.mp hn) (Nat.lt_irrefl _)

/-- What the protocol asks of the service when it starts a run. -/
def entry : Service.Request :=
  { mode := .recovering, stage := some .first, reason := .recoveryStarted, source := .recovery }

/-- What the protocol asks of the service when a run is completed. -/
def exit : Service.Request :=
  { mode := .normal, stage := none, reason := .allHealthy, source := .recovery }

variable (now : Moment) (r : Recovery)

/-- The service has at most forgotten an override. -/
def IsRefreshed (r' : Recovery) : Prop :=
  r' = r ∨ r' = { r with service := (r.service.refresh now).state }

/-- The first half of an advance only looks; it names the stage of the run with the number, which
has been stable if it is the last one. -/
theorem begin_cases (id : RunId) :
    (r.begin now id).state = r ∧
    ((r.begin now id).answer = .refused ∨
      ∃ run, r.run? = some run ∧ run.id = id ∧
        (run.stage = .ready → r.isStable run now.steady = true) ∧
        (r.begin now id).answer = .check run.stage) := by
  unfold begin
  cases hr : r.run? with
  | none => exact ⟨rfl, Or.inl rfl⟩
  | some run =>
    dsimp only
    split
    · exact ⟨rfl, Or.inl rfl⟩
    · next hid =>
      rw [Decidable.not_not] at hid
      split
      · exact ⟨rfl, Or.inl rfl⟩
      · next hstable =>
        refine ⟨rfl, Or.inr ⟨run, rfl, hid, ?_, rfl⟩⟩
        intro hready
        rw [not_and, Bool.not_eq_true', Bool.not_eq_false] at hstable
        exact hstable hready

/-- The run and the service move on together or not at all. -/
theorem moveOn_cases (run : Run) (next : Stage) :
    ((r.moveOn now run next).answer = false ∧ (r.moveOn now run next).state = r) ∨
    (r.service.mode = .recovering ∧ r.service.stage = some run.stage ∧
      (r.moveOn now run next).answer = true ∧ (r.moveOn now run next).state
        = { r with
            service := { r.service with stage := some next }
            run? := some (moved now run next) }) := by
  unfold moveOn
  rcases r.service.moveStage_cases run.stage next with ⟨-, ha, hs⟩ | ⟨hm, hst, ha, hs⟩
  · left
    simp only [ha, hs, and_self]
  · right
    simp only [ha, hs]
    exact ⟨hm, hst, trivial, rfl⟩

/-- The run ends when the service completes the recovery. -/
theorem finish_cases (run : Run) :
    ((r.finish now run).answer = false ∧
      (r.finish now run).state = { r with service := (r.service.refresh now).state }) ∨
    ((r.service.refresh now).answer = false ∧ r.service.mode = .recovering ∧
      r.service.stage = some .ready ∧ (r.finish now run).answer = true ∧
      (r.finish now run).state
        = { r with
            service := ((r.service.refresh now).state.apply now exit).state
            run? := none }) := by
  unfold finish
  rcases r.service.complete_cases now with ⟨ha, hs⟩ | ⟨hf, hm, hst, ha, hs⟩
  · left
    simp only [ha, hs]
    exact ⟨rfl, rfl⟩
  · right
    simp only [ha, hs]
    exact ⟨hf, hm, hst, rfl, rfl⟩

theorem eq_ready_of_next {stage : Stage} (h : stage.next = none) : stage = .ready := by
  cases stage with
  | ready => rfl
  | connectBroker => cases h
  | catchUp => cases h
  | verifyRisk => cases h

/-- The second half of an advance does nothing, moves the run and the service on, or completes
the recovery. -/
theorem commit_cases (id : RunId) (stage : Stage) (verdict : Verdict) :
    ((r.commit now id stage verdict).answer = false ∧
      r.IsRefreshed now (r.commit now id stage verdict).state) ∨
    (verdict = .passed ∧ (r.commit now id stage verdict).answer = true ∧
      r.service.mode = .recovering ∧ r.service.stage = some stage ∧
      ∃ run, r.run? = some run ∧ run.id = id ∧ run.stage = stage ∧
        ((∃ next, stage.next = some next ∧ (r.commit now id stage verdict).state
            = { r with
                service := { r.service with stage := some next }
                run? := some (moved now run next) }) ∨
          (stage = .ready ∧ (r.service.refresh now).answer = false ∧
            (r.commit now id stage verdict).state
              = { r with
                  service := ((r.service.refresh now).state.apply now exit).state
                  run? := none }))) := by
  unfold commit
  split
  · exact Or.inl ⟨rfl, Or.inl rfl⟩
  · next hv =>
    rw [Decidable.not_not] at hv
    dsimp only
    split
    · exact Or.inl ⟨rfl, Or.inl rfl⟩
    · next run hr =>
      split
      · exact Or.inl ⟨rfl, Or.inl rfl⟩
      · next hid =>
        rw [not_or, Decidable.not_not, Decidable.not_not] at hid
        obtain ⟨hid, rfl⟩ := hid
        split
        · next next hn =>
          rcases r.moveOn_cases now run next with ⟨ha, hs⟩ | ⟨hm, hst, ha, hs⟩
          · exact Or.inl ⟨ha, Or.inl hs⟩
          · exact Or.inr ⟨hv, ha, hm, hst, run, hr, hid, rfl, Or.inl ⟨next, hn, hs⟩⟩
        · next hn =>
          have hready := eq_ready_of_next hn
          rcases r.finish_cases now run with ⟨ha, hs⟩ | ⟨hf, hm, hst, ha, hs⟩
          · exact Or.inl ⟨ha, Or.inr hs⟩
          · rw [← hready] at hst
            exact Or.inr ⟨hv, ha, hm, hst, run, hr, hid, rfl, Or.inr ⟨hready, hf, hs⟩⟩

/-- A run is refused, or it is the current one and the system is recovering from the first stage
on. -/
theorem start_cases (trigger : Trigger) (operator : Option String) :
    ((∃ e, (r.start now trigger operator).answer = .error e) ∧
      r.IsRefreshed now (r.start now trigger operator).state) ∨
    ((r.service.refresh now).answer = false ∧
      (r.start now trigger operator).answer = .ok r.nextId ∧
      (r.start now trigger operator).state
        = { r with
            service := ((r.service.refresh now).state.apply now entry).state
            run? := some (fresh now trigger operator r.nextId)
            started := r.started + 1 }) := by
  unfold start
  split
  · exact Or.inl ⟨⟨_, rfl⟩, Or.inl rfl⟩
  · dsimp only
    rcases r.service.transition_cases now .recovering (some .first) .recoveryStarted .recovery
      with ⟨-, ha, hs⟩ | ⟨hf, ha, hs⟩
    · left
      simp only [ha, hs]
      exact ⟨⟨_, rfl⟩, Or.inr rfl⟩
    · right
      simp only [ha, hs]
      exact ⟨hf, rfl, rfl⟩

/-- A run is given up if it is the current one; otherwise nothing happens. -/
theorem abort_cases (id : RunId) (reason : String) :
    ((∀ run, r.run? = some run → run.id ≠ id) ∧ (r.abort now id reason).answer = false ∧
      (r.abort now id reason).state = r) ∨
    ∃ run, r.run? = some run ∧ run.id = id ∧ (r.abort now id reason).answer = true ∧
      (r.abort now id reason).state
        = { r with
            service := (r.service.transition now .safe none .recoveryFailed .recovery).state
            run? := none } := by
  unfold abort
  dsimp only
  cases hr : r.run? with
  | none =>
    left
    refine ⟨?_, rfl, rfl⟩
    intro run he
    simp at he
  | some run =>
    dsimp only
    split
    · next hid =>
      left
      refine ⟨?_, rfl, rfl⟩
      intro run' he
      cases he
      exact hid
    · next hid =>
      rw [Decidable.not_not] at hid
      exact Or.inr ⟨run, rfl, hid, rfl, rfl⟩

/-! ## Without an override -/

section
variable {r : Recovery} (hf : r.service.override? = none)

include hf in
theorem eq_of_isRefreshed {r' : Recovery} (h : r.IsRefreshed now r') : r' = r := by
  rcases h with rfl | rfl
  · rfl
  · rw [Service.refresh_of_none now hf]

include hf in
/-- Starting a run leads into a recovery unless it is refused. -/
theorem start_of_free (trigger : Trigger) (operator : Option String) :
    (r.start now trigger operator).state.service.override? = none ∧
    ((r.start now trigger operator).state.service.mode = r.service.mode ∨
      (r.start now trigger operator).state.service.mode = .recovering) := by
  rcases r.start_cases now trigger operator with ⟨-, hs⟩ | ⟨-, -, hs⟩
  · rw [eq_of_isRefreshed now hf hs]
    exact ⟨hf, Or.inl rfl⟩
  · rw [hs, Service.refresh_of_none now hf]
    exact ⟨hf, Or.inr rfl⟩

include hf in
/-- The second half of an advance leaves the mode alone unless it passes the last stage. -/
theorem commit_of_free (id : RunId) (stage : Stage) (verdict : Verdict) :
    (r.commit now id stage verdict).state.service.override? = none ∧
    ((r.commit now id stage verdict).state.service.mode = r.service.mode ∨
      (stage = .ready ∧ verdict = .passed)) := by
  rcases r.commit_cases now id stage verdict with
    ⟨-, hs⟩ | ⟨hp, -, -, -, run, -, -, -, ⟨next, -, hs⟩ | ⟨hready, -, hs⟩⟩
  · rw [eq_of_isRefreshed now hf hs]
    exact ⟨hf, Or.inl rfl⟩
  · rw [hs]
    exact ⟨hf, Or.inl rfl⟩
  · rw [hs, Service.refresh_of_none now hf]
    exact ⟨hf, Or.inr ⟨hready, hp⟩⟩

end

end Failsafe.Recovery
