import Failsafe.ControlPlane
import Failsafe.Proofs.Recovery.Steps
/-
  Calls of the control plane, one after the other.
-/

namespace Failsafe.ControlPlane

/-- A call of the control plane. A hand-driven advance comes with the verdicts on the stages, a
flush with the reply of the sink to what it is handed. -/
inductive Call where
  | submit (e : Event)
  | reportFailure (d : Dependency)
  | reportSuccess (d : Dependency)
  | drive
  | start (trigger : Trigger) (operator : Option String)
  | advance (id : RunId) (check : Stage → Verdict)
  | abort (id : RunId) (reason : String)
  | force (mode : Mode) (ttlSeconds : Nat) (operator reason : String)
  | clear (operator : String)
  | write (e : Entry)
  | flush (reply : List Entry → Except Error Unit)

/-- The control plane and the files after a call. -/
def Call.perform (now : Moment) (s : ControlPlane × Files) : Call → ControlPlane × Files
  | .submit e => ((s.1.submit now e).state, s.2)
  | .reportFailure d => ((s.1.reportFailure now d).state, s.2)
  | .reportSuccess d => ((s.1.reportSuccess now d).state, s.2)
  | .drive => ((s.1.drive now).state, s.2)
  | .start trigger operator => ((s.1.onRecovery (·.start now trigger operator)).state, s.2)
  | .advance id check => ((s.1.advance now id check).state, s.2)
  | .abort id reason => ((s.1.onRecovery (·.abort now id reason)).state, s.2)
  | .force mode ttlSeconds operator reason =>
    ((s.1.onService (·.force now mode ttlSeconds operator reason)).state, s.2)
  | .clear operator => ((s.1.onService (·.clear now operator)).state, s.2)
  | .write e => (s.1.write now e s.2).state
  | .flush reply => (s.1.flush reply s.2).state

/-- The control plane and the files after some calls, each made at its own moment. -/
def run (s : ControlPlane × Files) (calls : List (Moment × Call)) : ControlPlane × Files :=
  calls.foldl (fun s c => c.2.perform c.1 s) s

theorem run_cons (s : ControlPlane × Files) (c : Moment × Call) (calls : List (Moment × Call)) :
    run s (c :: calls) = run (c.2.perform c.1 s) calls := List.foldl_cons ..

/-- What is assembled has healthy breakers, no run, no override and the initial mode. -/
theorem assemble_cases {now : Moment} {ids : RunIds} {settings : Settings} {files : Files}
    {p : ControlPlane} (h : (assemble now ids settings files).1 = .ok p) :
    p.breakers = .new settings.breakers ∧
      p.recovery = .new (Service.new now settings.initialMode).state settings.recovery ids := by
  unfold assemble at h
  split at h
  · simp at h
  · dsimp only at h
    split at h
    · simp at h
    · cases h
      exact ⟨rfl, rfl⟩

/-! ## What a call does -/

section
variable (now : Moment) (p : ControlPlane)

/-- A change of level is submitted, unless it is held back because some breaker is not healthy. -/
theorem settle_cases (e : Event) :
    ((p.settle now e).state = p ∧ (p.settle now e).answer = .blocked p.service.mode .normal) ∨
      p.settle now e = p.submit now e := by
  unfold settle
  split
  · exact Or.inl ⟨rfl, rfl⟩
  · exact Or.inr rfl

/-- A run is started if the outcome calls for it; otherwise nothing happens. -/
theorem followUp_cases (o : Outcome) :
    (p.callsForRecovery o = true ∧
      (p.followUp now o).state = (p.onRecovery (·.start now .auto none)).state) ∨
    (p.callsForRecovery o = false ∧ (p.followUp now o).state = p) := by
  unfold followUp
  split
  · next hc =>
    dsimp only
    split <;> exact Or.inl ⟨hc, rfl⟩
  · next hc => exact Or.inr ⟨Bool.eq_false_iff.mpr hc, rfl⟩

/-- A failure goes to the breaker, and a change of level that comes of it is settled. -/
theorem reportFailure_cases (d : Dependency) :
    let noted := p.onBreaker d (·.recordFailure now)
    (noted.answer = none ∧ (p.reportFailure now d).state = noted.state) ∨
    ∃ e, noted.answer = some e ∧
      (p.reportFailure now d).state = (noted.state.settle now e).state := by
  unfold reportFailure
  dsimp only
  split
  · next ha => exact Or.inl ⟨ha, rfl⟩
  · next e ha => exact Or.inr ⟨e, ha, rfl⟩

/-- A success goes to the breaker, and a change of level that comes of it is settled and followed
up. -/
theorem reportSuccess_cases (d : Dependency) :
    let noted := p.onBreaker d (·.recordSuccess now)
    (noted.answer = none ∧ (p.reportSuccess now d).state = noted.state) ∨
    ∃ e, noted.answer = some e ∧
      let settled := noted.state.settle now e
      (p.reportSuccess now d).state = (settled.state.followUp now settled.answer).state := by
  unfold reportSuccess
  dsimp only
  split
  · next ha => exact Or.inl ⟨ha, rfl⟩
  · next e ha => exact Or.inr ⟨e, ha, rfl⟩

/-- An advance is refused before the check, or its second half decides. -/
theorem advance_cases (id : RunId) (check : Stage → Verdict) :
    (p.advance now id check).state = p ∨
    ∃ stage, (p.advance now id check).state
      = (p.onRecovery (·.commit now id stage (check stage))).state := by
  have hb : (p.onRecovery (·.begin now id)).state = p := by
    rw [onRecovery, (p.recovery.begin_cases now id).1]
  unfold advance
  dsimp only
  rw [hb]
  split
  · exact Or.inl rfl
  · next stage _ => exact Or.inr ⟨stage, rfl⟩

/-- A drive checks the stage of the current run against the breakers. -/
theorem drive_cases :
    (p.drive now).state = p ∨
    ∃ id stage, (p.drive now).state
      = (p.onRecovery (·.commit now id stage (p.breakers.check stage))).state := by
  unfold drive
  split
  · exact Or.inl rfl
  · next id _ =>
    rcases p.advance_cases now id p.breakers.check with h | ⟨stage, h⟩
    · exact Or.inl h
    · exact Or.inr ⟨id, stage, h⟩

/-- A write goes to the buffer, and is submitted if it finds no room there. -/
theorem write_cases (e : Entry) (files : Files) :
    ∃ b, (p.write now e files).state.1 = { p with buffer := b } ∨
      (p.write now e files).state.1
        = ({ p with buffer := b }.submit now (overflow now b)).state := by
  refine ⟨(p.buffer.add e files).state.1, ?_⟩
  unfold write
  dsimp only
  split
  · exact Or.inr rfl
  · exact Or.inl rfl

end

end Failsafe.ControlPlane
