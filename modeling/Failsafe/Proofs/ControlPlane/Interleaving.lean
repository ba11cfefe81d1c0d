import Failsafe.ControlPlane
import Failsafe.Proofs.Service.Postures
/-
  Reports and drives that overlap.

  A report or a drive takes one lock at a time: that of a breaker, to record a probe or to read a
  level, that of the state service, or that of the recovery protocol, which calls the service while
  it holds its own. A `Task` is what such a call has still to do, and `Task.step` is what it does
  under its next lock. In a `Traffic` any number of tasks take their steps in any order. A task
  that is left alone ends as the call does that it comes from (`leads_reportFailure`,
  `leads_reportSuccess`, `leads_drive`).
-/

namespace Failsafe.ControlPlane

/-- What a report or a drive answers. -/
inductive Reply where
  | reported (o : Option Outcome)
  | driven (r : Option (RunId × Bool))

/-- What a call under way has still to do; each constructor stands in front of a lock. -/
inductive Task where
  /-- records a failure with the breaker -/
  | failing (d : Dependency)
  /-- records a success with the breaker -/
  | succeeding (d : Dependency)
  /-- submits an event; the outcome of a success is followed up -/
  | telling (follow : Bool) (e : Event)
  /-- reads the levels of the dependencies ahead, some others having been found failing; with none
  ahead, submits the event or looks at the mode that is held -/
  | asking (follow : Bool) (e : Event) (ahead found : List Dependency)
  /-- looks whether a run is current -/
  | following (o : Outcome)
  /-- starts a run -/
  | starting (o : Outcome)
  /-- looks for the current run -/
  | driving
  /-- looks for the stage of the run -/
  | opening (id : RunId)
  /-- reads the levels of the dependencies ahead; with none ahead, moves the run on -/
  | checking (id : RunId) (stage : Stage) (ahead : List Dependency)
  | done (r : Reply)

/-- Starts a recovery without an operator. -/
def started (now : Moment) (p : ControlPlane) : Step ControlPlane Unit :=
  let begun := p.onRecovery (·.start now .auto none)
  match begun.answer with
  | .ok _ => ⟨(), begun.state, begun.signals⟩
  | .error e => ⟨(), begun.state, begun.signals ++
      [record .warn ("Could not start automatic recovery: " ++ e.toError.message) []]⟩

theorem state_started (now : Moment) (p : ControlPlane) :
    (p.started now).state = (p.onRecovery (·.start now .auto none)).state := by
  unfold started
  dsimp only
  split <;> rfl

namespace Task

/-- What is left after the service has decided on a change of level. -/
def settled (follow : Bool) (o : Outcome) : Task :=
  match follow, o.transition? with
  | true, some t =>
    if t.toMode ≠ .recovering then .done (.reported (some o))
    else if t.fromMode ≠ .recovering then .starting o
    else .following o
  | _, _ => .done (.reported (some o))

/-- What is left after a probe has been recorded. -/
def recorded (follow : Bool) : Option Event → Task
  | none => .done (.reported none)
  | some e =>
    if e.reason = .allHealthy then .asking follow e Dependency.all [] else .telling follow e

/-- What a task does under its next lock, and what is left of it then. -/
def step (now : Moment) (p : ControlPlane) : Task → Step ControlPlane Task
  | .failing d =>
    let noted := p.onBreaker d (·.recordFailure now)
    ⟨recorded false noted.answer, noted.state, noted.signals ++ noted.answer.toList.map announce⟩
  | .succeeding d =>
    let noted := p.onBreaker d (·.recordSuccess now)
    ⟨recorded true noted.answer, noted.state, noted.signals ++ noted.answer.toList.map announce⟩
  | .telling follow e => (p.submit now e).map (settled follow)
  | .asking follow e (d :: ahead) found =>
    ⟨.asking follow e ahead (if p.breakers.level d = .healthy then found else found ++ [d]), p, []⟩
  | .asking follow e [] [] => (p.submit now e).map (settled follow)
  | .asking follow e [] (d :: found) =>
    ⟨settled follow (.blocked p.service.mode .normal), p,
      [record .info "Breaker recovered, mode held until every dependency is healthy"
        [("source", .word e.source.name), ("still_failing", .word (labels (d :: found))),
          ("mode", .word p.service.mode.name)]]⟩
  | .following o =>
    ⟨if p.recovery.run?.isNone then .starting o else .done (.reported (some o)), p, []⟩
  | .starting o => (p.started now).map fun _ => .done (.reported (some o))
  | .driving =>
    ⟨match p.driven? with
      | none => .done (.driven none)
      | some id => .opening id, p, []⟩
  | .opening id =>
    (p.onRecovery (·.begin now id)).map fun
      | .refused => .done (.driven (some (id, false)))
      | .check stage => .checking id stage (Breakers.required stage)
  | .checking id stage (d :: ahead) =>
    if p.breakers.level d = .healthy then ⟨.checking id stage ahead, p, []⟩
    else ⟨.done (.driven (some (id, false))), p, Recovery.failureSignals id stage .failed⟩
  | .checking id stage [] =>
    (p.onRecovery (·.commit now id stage .passed)).map fun moved =>
      .done (.driven (some (id, moved)))
  | .done r => ⟨.done r, p, []⟩

/-- The task, left alone, ends so. -/
inductive Leads (now : Moment) : ControlPlane → Task → Step ControlPlane Reply → Prop where
  | done (p : ControlPlane) (r : Reply) : Leads now p (.done r) ⟨r, p, []⟩
  | step {p : ControlPlane} {task : Task} {x : Step ControlPlane Reply} :
      Leads now (task.step now p).state (task.step now p).answer x →
      Leads now p task ⟨x.answer, x.state, (task.step now p).signals ++ x.signals⟩

/-! ## Tasks left alone -/

section
variable {now : Moment} {p : ControlPlane} {task : Task}

/-- A task whose next step is its last one. -/
theorem leads_last {x : Step ControlPlane Reply} (h : task.step now p = x.map .done) :
    Leads now p task x := by
  have hdone : Leads now (task.step now p).state (task.step now p).answer
      ⟨x.answer, x.state, []⟩ := by
    rw [h]
    exact .done x.state x.answer
  have hstep := Leads.step hdone
  rw [h] at hstep
  dsimp only [Step.map] at hstep
  rw [List.append_nil] at hstep
  exact hstep

/-- A task whose next step is another one's first. -/
theorem leads_next {x y : Step ControlPlane Reply} {q : ControlPlane} {t : Task}
    {l : List Signal} (h : task.step now p = ⟨t, q, l⟩) (hx : Leads now q t x)
    (hy : y = ⟨x.answer, x.state, l ++ x.signals⟩) : Leads now p task y := by
  rw [hy]
  have hstep : Leads now (task.step now p).state (task.step now p).answer x := by
    rw [h]
    exact hx
  have hleads := Leads.step hstep
  rw [h] at hleads
  exact hleads

/-- What a call does about the outcome of its event. -/
def heed (now : Moment) (follow : Bool) (o : Outcome) (p : ControlPlane) :
    Step ControlPlane Unit :=
  if follow then p.followUp now o else ⟨(), p, []⟩

theorem followUp_eq (o : Outcome) :
    p.followUp now o = if p.callsForRecovery o then p.started now else ⟨(), p, []⟩ := rfl

theorem callsForRecovery_applied (t : Transition) :
    p.callsForRecovery (.applied t)
      = if t.toMode ≠ .recovering then false
        else if t.fromMode ≠ .recovering then true
        else p.recovery.run?.isNone := by
  unfold callsForRecovery
  dsimp only [Outcome.transition?]
  by_cases hto : t.toMode = .recovering
  · by_cases hfrom : t.fromMode = .recovering <;> simp [hto, hfrom]
  · simp [hto]

theorem leads_starting (o : Outcome) :
    Leads now p (.starting o) ((p.started now).map fun _ => .reported (some o)) := leads_last rfl

/-- A run is started if there is none. -/
theorem leads_following (o : Outcome) :
    Leads now p (.following o)
      ((if p.recovery.run?.isNone then p.started now else ⟨(), p, []⟩).map
        fun _ => .reported (some o)) := by
  cases hr : p.recovery.run?.isNone with
  | true =>
    refine leads_next (t := .starting o) (q := p) (l := []) ?_ (leads_starting o) ?_
    · rw [step, hr]
      rfl
    · rw [if_pos rfl]
      rfl
  | false =>
    refine leads_last ?_
    rw [step, hr]
    rfl

/-- The outcome of an event is followed up as the call does it. -/
theorem leads_settled (follow : Bool) (o : Outcome) :
    Leads now p (settled follow o) ((heed now follow o p).map fun _ => .reported (some o)) := by
  have hkept : Leads now p (.done (.reported (some o))) ⟨.reported (some o), p, []⟩ := .done _ _
  cases follow with
  | false => exact hkept
  | true =>
    show Leads now p (settled true o) ((p.followUp now o).map fun _ => .reported (some o))
    rw [followUp_eq]
    cases o with
    | suppressed => exact hkept
    | blocked current target => exact hkept
    | applied t =>
      rw [callsForRecovery_applied]
      show Leads now p (if t.toMode ≠ .recovering then _ else if t.fromMode ≠ .recovering
        then .starting (.applied t) else .following (.applied t)) _
      by_cases hto : t.toMode = .recovering
      · rw [if_neg (not_not_intro hto), if_neg (not_not_intro hto)]
        by_cases hfrom : t.fromMode = .recovering
        · rw [if_neg (not_not_intro hfrom), if_neg (not_not_intro hfrom)]
          exact leads_following _
        · rw [if_pos hfrom, if_pos hfrom]
          exact leads_starting _
      · rw [if_pos hto, if_pos hto]
        exact hkept

/-- The levels are read one after the other, and those that are not healthy are found. -/
theorem leads_asking {follow : Bool} {e : Event} {ahead found : List Dependency}
    {x : Step ControlPlane Reply}
    (h : Leads now p
      (.asking follow e [] (found ++ ahead.filter fun d => p.breakers.level d ≠ .healthy)) x) :
    Leads now p (.asking follow e ahead found) x := by
  induction ahead generalizing found with
  | nil =>
    rw [List.filter_nil, List.append_nil] at h
    exact h
  | cons d ahead ih =>
    refine leads_next (t := .asking follow e ahead
      (if p.breakers.level d = .healthy then found else found ++ [d])) rfl (ih ?_) rfl
    by_cases hd : p.breakers.level d = .healthy
    · rw [List.filter_cons_of_neg (by simpa using hd)] at h
      rw [if_pos hd]
      exact h
    · rw [List.filter_cons_of_pos (by simpa using hd), List.append_cons] at h
      rw [if_neg hd]
      exact h

/-- With all levels read, the event is settled as the call does it. -/
theorem step_asked (follow : Bool) {e : Event} (he : e.reason = .allHealthy) :
    step now p (.asking follow e [] p.breakers.unhealthy)
      = (p.settle now e).map (settled follow) := by
  unfold settle
  cases hu : p.breakers.unhealthy with
  | nil =>
    rw [if_neg fun h => h.2 rfl]
    rfl
  | cons d found =>
    rw [if_pos ⟨he, List.cons_ne_nil d found⟩]
    rfl

/-- What the service has been told is followed up. -/
theorem leads_told {follow : Bool} {told : Step ControlPlane Outcome}
    (h : task.step now p = told.map (settled follow)) :
    let heeded := heed now follow told.answer told.state
    Leads now p task
      ⟨.reported (some told.answer), heeded.state, told.signals ++ heeded.signals⟩ :=
  leads_next h (leads_settled follow _) rfl

/-- A recorded change of level is settled as the call does it, and its outcome followed up. -/
theorem leads_recorded (follow : Bool) (e : Event) :
    let told := p.settle now e
    let heeded := heed now follow told.answer told.state
    Leads now p (recorded follow (some e))
      ⟨.reported (some told.answer), heeded.state, told.signals ++ heeded.signals⟩ := by
  by_cases he : e.reason = .allHealthy
  · rw [show recorded follow (some e) = .asking follow e Dependency.all [] from if_pos he]
    exact leads_asking (leads_told (step_asked follow he))
  · rw [show recorded follow (some e) = .telling follow e from if_neg he]
    refine leads_told ?_
    rw [settle, if_neg fun h => he h.1]
    rfl

/-- What a call does about a recorded probe. -/
def report (now : Moment) (follow : Bool) (noted : Step ControlPlane (Option Event)) :
    Step ControlPlane (Option Outcome) :=
  match noted.answer with
  | none => ⟨none, noted.state, noted.signals⟩
  | some e =>
    let told := noted.state.settle now e
    let heeded := heed now follow told.answer told.state
    ⟨some told.answer, heeded.state,
      noted.signals ++ announce e :: (told.signals ++ heeded.signals)⟩

theorem leads_noted (follow : Bool) {noted : Step ControlPlane (Option Event)}
    (h : task.step now p = ⟨recorded follow noted.answer, noted.state,
      noted.signals ++ noted.answer.toList.map announce⟩) :
    Leads now p task ((report now follow noted).map .reported) := by
  unfold report
  cases ha : noted.answer with
  | none =>
    rw [ha] at h
    refine leads_last (h.trans ?_)
    rw [Option.toList_none, List.map_nil, List.append_nil]
    rfl
  | some e =>
    rw [ha] at h
    refine leads_next h (leads_recorded follow e) ?_
    rw [Option.toList_some, List.map_singleton, List.append_assoc]
    rfl

/-- A failure that is reported with nothing else going on. -/
theorem leads_reportFailure (d : Dependency) :
    Leads now p (.failing d) ((p.reportFailure now d).map .reported) := by
  have hreport : p.reportFailure now d
      = report now false (p.onBreaker d (·.recordFailure now)) := by
    unfold reportFailure report
    dsimp only
    cases (p.onBreaker d (·.recordFailure now)).answer with
    | none => rfl
    | some e => simp [heed]
  rw [hreport]
  exact leads_noted false rfl

/-- A success that is reported with nothing else going on. -/
theorem leads_reportSuccess (d : Dependency) :
    Leads now p (.succeeding d) ((p.reportSuccess now d).map .reported) :=
  leads_noted true rfl

/-- The levels that a stage requires are read one after the other, up to one that is not
healthy. -/
theorem leads_checking (id : RunId) (stage : Stage) (ahead : List Dependency) :
    Leads now p (.checking id stage ahead)
      ((p.onRecovery (·.commit now id stage
        (if ahead.all fun d => p.breakers.level d = .healthy then .passed else .failed))).map
          fun moved => .driven (some (id, moved))) := by
  induction ahead with
  | nil => exact leads_last rfl
  | cons d ahead ih =>
    by_cases hd : p.breakers.level d = .healthy
    · rw [List.all_cons, decide_eq_true hd, Bool.true_and]
      exact leads_next (q := p) (l := []) (if_pos hd) ih rfl
    · rw [List.all_cons, decide_eq_false hd, Bool.false_and]
      exact leads_last (if_neg hd)

theorem leads_opening (id : RunId) :
    Leads now p (.opening id) ((p.advance now id p.breakers.check).map
      fun moved => .driven (some (id, moved))) := by
  unfold advance
  dsimp only
  cases ha : (p.onRecovery (·.begin now id)).answer with
  | refused =>
    refine leads_last ?_
    rw [step, Step.map, ha]
    rfl
  | check stage =>
    let opened := p.onRecovery (·.begin now id)
    refine leads_next (q := opened.state) (l := opened.signals) ?_
      (leads_checking id stage (Breakers.required stage)) rfl
    rw [step, Step.map, ha]

/-- A drive with nothing else going on. -/
theorem leads_drive : Leads now p .driving ((p.drive now).map .driven) := by
  unfold drive
  cases hr : p.driven? with
  | none =>
    refine leads_last ?_
    rw [step, hr]
    rfl
  | some id =>
    refine leads_next (q := p) (l := []) ?_ (leads_opening id) rfl
    rw [step, hr]

end

end Task

/-! ## Tasks side by side -/

/-- The control plane, and the calls that have come in, oldest first. -/
structure Traffic where
  plane : ControlPlane
  tasks : List Task

/-- A call comes in, or one that has come in takes its next step. -/
inductive Turn where
  | failure (d : Dependency)
  | success (d : Dependency)
  | drive
  | step (i : Nat)

namespace Traffic

/-- One more call has come in. -/
def join (s : Traffic) (task : Task) : Traffic := { s with tasks := s.tasks ++ [task] }

/-- A call has taken its next step, if there is such a call. -/
def proceed (now : Moment) (s : Traffic) (i : Nat) : Traffic :=
  match s.tasks[i]? with
  | some task =>
    let done := task.step now s.plane
    ⟨done.state, s.tasks.set i done.answer⟩
  | none => s

/-- The traffic after a turn. -/
def after (now : Moment) (s : Traffic) : Turn → Traffic
  | .failure d => s.join (.failing d)
  | .success d => s.join (.succeeding d)
  | .drive => s.join .driving
  | .step i => s.proceed now i

/-- The traffic after some turns, each taken at its own moment. -/
def run (s : Traffic) (turns : List (Moment × Turn)) : Traffic :=
  turns.foldl (fun s turn => s.after turn.1 turn.2) s

theorem run_cons (s : Traffic) (turn : Moment × Turn) (turns : List (Moment × Turn)) :
    run s (turn :: turns) = run (s.after turn.1 turn.2) turns := List.foldl_cons ..

theorem run_append (s : Traffic) (front back : List (Moment × Turn)) :
    run s (front ++ back) = run (run s front) back := List.foldl_append ..

theorem run_concat (s : Traffic) (turns : List (Moment × Turn)) (turn : Moment × Turn) :
    run s (turns ++ [turn]) = (run s turns).after turn.1 turn.2 := run_append s turns [turn]

end Traffic

end Failsafe.ControlPlane
