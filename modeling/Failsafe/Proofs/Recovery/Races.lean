import Failsafe.Proofs.Recovery.Steps
/-
  The recovery protocol under concurrent use.

  A race is the protocol with the advances whose checks are being made: a `Ticket` is what the
  first half of an advance leaves for the second. Any number of them may be out at once, and
  whatever else is done to the protocol or to the service comes in between. The protocol holds its
  lock while it calls the service, and what it then does to the run does not depend on the service,
  so a call of the service from elsewhere can be taken to come before or after the whole action.
-/

namespace Failsafe.Recovery

/-- An advance that waits for the verdict on a stage of a run. -/
structure Ticket where
  id : RunId
  stage : Stage
deriving DecidableEq, Repr

/-- The protocol, the advances under way and the time of the last action. -/
structure Race where
  recovery : Recovery
  tickets : List Ticket
  clock : Nanos

/-- What can be done to the protocol, or to the service behind its back. -/
inductive Action where
  | start (trigger : Trigger) (operator : Option String)
  | begin (id : RunId)
  | commit (t : Ticket) (verdict : Verdict)
  | abort (id : RunId) (reason : String)
  | call (c : Service.Call)

/-- An action and when it is done. -/
abbrev Turn := Moment × Action

namespace Action

/-- The protocol after an action. -/
def perform (now : Moment) (r : Recovery) : Action → Recovery
  | start trigger operator => (r.start now trigger operator).state
  | begin id => (r.begin now id).state
  | commit t verdict => (r.commit now t.id t.stage verdict).state
  | abort id reason => (r.abort now id reason).state
  | call c => { r with service := c.perform now r.service }

/-- The advances under way after an action. -/
def tickets (now : Moment) (r : Race) : Action → List Ticket
  | begin id =>
    match (r.recovery.begin now id).answer with
    | .check stage => ⟨id, stage⟩ :: r.tickets
    | .refused => r.tickets
  | commit t _ => r.tickets.erase t
  | _ => r.tickets

/-- The advance that an action ends with success. -/
def won? (now : Moment) (r : Recovery) : Action → Option Ticket
  | commit t verdict => if (r.commit now t.id t.stage verdict).answer then some t else none
  | _ => none

/-- Only an advance under way can be ended. -/
def isPossible (r : Race) : Action → Bool
  | commit t _ => r.tickets.contains t
  | _ => true

end Action

namespace Race

/-- A protocol without a run. -/
def new (now : Moment) (service : Service) (config : RecoveryConfig) (ids : RunIds) : Race :=
  ⟨.new service config ids, [], now.steady⟩

/-- The race after an action, if it is possible and time does not run backwards. -/
def step? (r : Race) (turn : Turn) : Option Race :=
  if r.clock ≤ turn.1.steady ∧ turn.2.isPossible r then
    some ⟨turn.2.perform turn.1 r.recovery, turn.2.tickets turn.1 r, turn.1.steady⟩
  else none

/-- The race after some actions, if all are possible. -/
def run? (r : Race) (turns : List Turn) : Option Race := turns.foldlM step? r

/-! ## Steps and runs -/

theorem step?_eq_some {r r' : Race} {turn : Turn} (h : r.step? turn = some r') :
    r.clock ≤ turn.1.steady ∧ turn.2.isPossible r = true ∧
      r'.recovery = turn.2.perform turn.1 r.recovery ∧
      r'.tickets = turn.2.tickets turn.1 r ∧ r'.clock = turn.1.steady := by
  unfold step? at h
  split at h
  · next hp =>
    cases h
    exact ⟨hp.1, hp.2, rfl, rfl, rfl⟩
  · simp at h

theorem run?_cons {r r' : Race} {turn : Turn} {turns : List Turn} :
    r.run? (turn :: turns) = some r' ↔
      ∃ m, r.step? turn = some m ∧ m.run? turns = some r' := by
  unfold run?
  rw [List.foldlM_cons]
  exact Option.bind_eq_some_iff

theorem run?_append {r r' : Race} {front back : List Turn} :
    r.run? (front ++ back) = some r' ↔
      ∃ m, r.run? front = some m ∧ m.run? back = some r' := by
  unfold run?
  rw [List.foldlM_append]
  exact Option.bind_eq_some_iff

/-- A race that has come somewhere goes on from there. -/
theorem run?_rest {r m r' : Race} {front back : List Turn} (h : r.run? (front ++ back) = some r')
    (hm : r.run? front = some m) : m.run? back = some r' := by
  obtain ⟨m', hm', hback⟩ := run?_append.mp h
  obtain rfl : m = m' := Option.some.inj (hm.symm.trans hm')
  exact hback

/-- What one step preserves, a race preserves. -/
theorem run?_induction {P : Race → Prop} {r r' : Race} {turns : List Turn}
    (h : r.run? turns = some r') (hr : P r)
    (hs : ∀ x x' turn, turn ∈ turns → P x → x.step? turn = some x' → P x') : P r' := by
  induction turns generalizing r with
  | nil =>
    cases h
    exact hr
  | cons turn turns ih =>
    obtain ⟨m, hm, hrun⟩ := run?_cons.mp h
    exact ih hrun (hs r m turn List.mem_cons_self hr hm)
      fun x x' turn' ht => hs x x' turn' (List.mem_cons_of_mem _ ht)

/-- What one action preserves of the protocol, a race preserves. -/
theorem recovery_induction {P : Recovery → Prop} {r r' : Race} {turns : List Turn}
    (h : r.run? turns = some r') (hr : P r.recovery)
    (hs : ∀ turn ∈ turns, ∀ x, P x → P (turn.2.perform turn.1 x)) : P r'.recovery := by
  refine run?_induction (P := fun x => P x.recovery) h hr ?_
  intro x x' turn ht hx hstep
  obtain ⟨-, -, he, -, -⟩ := step?_eq_some hstep
  rw [he]
  exact hs turn ht x.recovery hx

theorem clock_le_of_run? {r r' : Race} {turns : List Turn} (h : r.run? turns = some r') :
    r.clock ≤ r'.clock := by
  refine run?_induction (P := fun x => r.clock ≤ x.clock) h (Nat.le_refl _) ?_
  intro x x' turn _ hx hs
  obtain ⟨hc, -, -, -, he⟩ := step?_eq_some hs
  rw [he]
  exact Nat.le_trans hx hc

/-! ## The current run -/

/-- The number of the current run has been given out. -/
def IsIssued (r : Recovery) : Prop := ∀ run, r.run? = some run → run.id ∈ r.issued

/-- The run with this number is over, or it stands at a stage with a property. -/
def IsAt (P : Stage → Prop) (id : RunId) (r : Recovery) : Prop :=
  id ∈ r.issued ∧ ∀ run, r.run? = some run → run.id = id → P run.stage

/-- The run with this number is over: it has been superseded, given up or completed. -/
def IsPast (id : RunId) (r : Recovery) : Prop :=
  id ∈ r.issued ∧ ∀ run, r.run? = some run → run.id ≠ id

/-- A run that is started leaves the numbers that have been given before where they are. -/
theorem issued_started (r : Recovery) (service : Service) (run? : Option Run) :
    { r with service, run?, started := r.started + 1 }.issued = r.issued ++ [r.nextId] := by
  unfold issued nextId
  dsimp only
  rw [List.range_succ, List.map_append]
  rfl

/-- An action leaves the run alone, starts a new one, moves it on by one stage after a successful
advance, or ends it: by giving it up, or by a successful advance from the last stage. -/
theorem perform_cases (now : Moment) (r : Recovery) (a : Action) :
    (a.won? now r = none ∧ (a.perform now r).run? = r.run? ∧
      (a.perform now r).issued = r.issued) ∨
    (a.won? now r = none ∧ (a.perform now r).issued = r.issued ++ [r.nextId] ∧
      ∃ trigger operator,
        (a.perform now r).run? = some (fresh now trigger operator r.nextId)) ∨
    (∃ run next, r.run? = some run ∧ run.stage.next = some next ∧
      a.won? now r = some ⟨run.id, run.stage⟩ ∧
      (a.perform now r).run? = some (moved now run next) ∧
      (a.perform now r).issued = r.issued) ∨
    (∃ run, r.run? = some run ∧ (a.perform now r).run? = none ∧
      (a.perform now r).issued = r.issued ∧
      (a.won? now r = none ∨ (run.stage = .ready ∧ a.won? now r = some ⟨run.id, .ready⟩))) := by
  cases a with
  | start trigger operator =>
    rw [Action.perform]
    rcases r.start_cases now trigger operator with ⟨-, hs | hs⟩ | ⟨-, -, hs⟩
    · rw [hs]
      exact Or.inl ⟨rfl, rfl, rfl⟩
    · rw [hs]
      exact Or.inl ⟨rfl, rfl, rfl⟩
    · right; left
      rw [hs]
      exact ⟨rfl, issued_started r _ _, trigger, operator, rfl⟩
  | begin id =>
    rw [Action.perform, (r.begin_cases now id).1]
    exact Or.inl ⟨rfl, rfl, rfl⟩
  | commit t verdict =>
    rw [Action.won?, Action.perform]
    rcases r.commit_cases now t.id t.stage verdict with
      ⟨ha, hs⟩ | ⟨-, ha, -, -, run, hr, hid, hst, ⟨next, hn, hs⟩ | ⟨hready, -, hs⟩⟩
    · left
      rw [ha]
      rcases hs with hs | hs <;> rw [hs] <;> exact ⟨rfl, rfl, rfl⟩
    · right; right; left
      rw [ha, hs]
      refine ⟨run, next, hr, by rw [hst, hn], ?_, rfl, rfl⟩
      rw [hid, hst]
      rfl
    · right; right; right
      rw [ha, hs]
      refine ⟨run, hr, rfl, rfl, Or.inr ⟨by rw [hst, hready], ?_⟩⟩
      rw [hid, ← hready]
      rfl
  | abort id reason =>
    rw [Action.perform]
    rcases r.abort_cases now id reason with ⟨-, -, hs⟩ | ⟨run, hr, -, -, hs⟩
    · rw [hs]
      exact Or.inl ⟨rfl, rfl, rfl⟩
    · right; right; right
      rw [hs]
      exact ⟨run, hr, rfl, rfl, Or.inl rfl⟩
  | call c => exact Or.inl ⟨rfl, rfl, rfl⟩

theorem isIssued_perform (now : Moment) {r : Recovery} (h : IsIssued r) (a : Action) :
    IsIssued (a.perform now r) := by
  intro run' hr'
  rcases perform_cases now r a with
    ⟨-, hr, hs⟩ | ⟨-, hs, trigger, operator, hr⟩ | ⟨run, next, hrun, -, -, hr, hs⟩ |
      ⟨run, -, hr, -⟩
  · rw [hs]
    exact h run' (by rw [← hr, hr'])
  · obtain rfl := Option.some.inj (hr.symm.trans hr')
    rw [hs]
    exact List.mem_append_right _ List.mem_cons_self
  · obtain rfl := Option.some.inj (hr.symm.trans hr')
    rw [hs]
    exact h run hrun
  · simp [hr] at hr'

theorem isIssued_new (now : Moment) (service : Service) (config : RecoveryConfig)
    (ids : RunIds) : IsIssued (new now service config ids).recovery := by
  intro run he
  cases he

theorem isIssued_run? {now : Moment} {service : Service} {config : RecoveryConfig}
    {ids : RunIds} {r : Race} {turns : List Turn}
    (h : (new now service config ids).run? turns = some r) : IsIssued r.recovery := by
  refine recovery_induction h (isIssued_new now service config ids) ?_
  intro turn _ x hx
  exact isIssued_perform turn.1 hx turn.2

/-- What holds of a run's stage and of all that follow it goes on holding. -/
theorem isAt_perform {P : Stage → Prop} (hP : ∀ s next, s.next = some next → P s → P next)
    (now : Moment) {id : RunId} {r : Recovery} (h : IsAt P id r) (a : Action) :
    IsAt P id (a.perform now r) := by
  obtain ⟨hid, hat⟩ := h
  rcases perform_cases now r a with
    ⟨-, hr, hs⟩ | ⟨-, hs, trigger, operator, hr⟩ | ⟨run, next, hrun, hn, -, hr, hs⟩ |
      ⟨run, -, hr, hs, -⟩
  · unfold IsAt
    rw [hr, hs]
    exact ⟨hid, hat⟩
  · refine ⟨by rw [hs]; exact List.mem_append_left _ hid, ?_⟩
    rintro run' hr' rfl
    obtain rfl := Option.some.inj (hr.symm.trans hr')
    -- the new run has a number that has not been given out before
    exact absurd hid (nextId_not_mem_issued r)
  · refine ⟨by rw [hs]; exact hid, ?_⟩
    intro run' hr' he
    obtain rfl := Option.some.inj (hr.symm.trans hr')
    exact hP _ _ hn (hat run hrun he)
  · refine ⟨by rw [hs]; exact hid, ?_⟩
    intro run' hr'
    simp [hr] at hr'

theorem isAt_run? {P : Stage → Prop} (hP : ∀ s next, s.next = some next → P s → P next)
    {id : RunId} {r r' : Race} {turns : List Turn} (h : r.run? turns = some r')
    (hr : IsAt P id r.recovery) : IsAt P id r'.recovery := by
  refine recovery_induction h hr ?_
  intro turn _ x hx
  exact isAt_perform hP turn.1 hx turn.2

/-- A run that is over stays so. -/
theorem isPast_run? {id : RunId} {r r' : Race} {turns : List Turn}
    (h : r.run? turns = some r') (hp : IsPast id r.recovery) : IsPast id r'.recovery :=
  isAt_run? (P := fun _ => False) (fun _ _ _ hs => hs) h hp

/-- Once given out, a number stays so. -/
theorem mem_issued_of_run? {id : RunId} {r r' : Race} {turns : List Turn}
    (h : r.run? turns = some r') (hid : id ∈ r.recovery.issued) : id ∈ r'.recovery.issued := by
  refine recovery_induction (P := fun x => id ∈ x.issued) h hid ?_
  intro turn _ x hx
  rcases perform_cases turn.1 x turn.2 with
    ⟨-, -, hs⟩ | ⟨-, hs, -⟩ | ⟨-, -, -, -, -, -, hs⟩ | ⟨-, -, -, hs, -⟩
  · rwa [hs]
  · rw [hs]
    exact List.mem_append_left _ hx
  · rwa [hs]
  · rwa [hs]

/-! ## Tickets -/

/-- Every advance under way was begun before, while its run stood at its stage. -/
theorem begun_of_mem_tickets {t : Ticket} {turns : List Turn} {r r' : Race}
    (h : r.run? turns = some r') (ht : t ∈ r'.tickets) :
    t ∈ r.tickets ∨ ∃ front now back x, turns = front ++ (now, .begin t.id) :: back ∧
      r.run? front = some x ∧ (x.recovery.begin now t.id).answer = .check t.stage := by
  induction turns generalizing r with
  | nil =>
    cases h
    exact Or.inl ht
  | cons turn turns ih =>
    obtain ⟨m, hm, hrun⟩ := run?_cons.mp h
    rcases ih hrun with hmem | ⟨front, now, back, x, rfl, hx, ha⟩
    · obtain ⟨-, -, -, he, -⟩ := step?_eq_some hm
      rw [he] at hmem
      obtain ⟨now, a⟩ := turn
      cases a with
      | begin id =>
        change t ∈ Action.tickets now r (.begin id) at hmem
        rw [Action.tickets] at hmem
        split at hmem
        · next stage ha =>
          rcases List.mem_cons.mp hmem with rfl | hmem
          · exact Or.inr ⟨[], now, turns, r, rfl, rfl, ha⟩
          · exact Or.inl hmem
        · exact Or.inl hmem
      | commit t' verdict => exact Or.inl (List.mem_of_mem_erase hmem)
      | start trigger operator => exact Or.inl hmem
      | abort id reason => exact Or.inl hmem
      | call c => exact Or.inl hmem
    · exact Or.inr ⟨turn :: front, now, back, x, rfl, run?_cons.mpr ⟨m, hm, hx⟩, ha⟩

end Race

end Failsafe.Recovery
