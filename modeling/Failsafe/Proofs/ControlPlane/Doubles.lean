import Failsafe.Proofs.Buffer.Serving
import Failsafe.Proofs.Outline.ControlPlane
/-
  Two control planes that differ in their settings and in the files.

  Settings are only read when a control plane is assembled, and files only by the write buffer. So
  a call of two control planes that are otherwise equal, over files that serve the buffer alike,
  returns and tells the same and leaves both equal in the same sense (`concurs_call`). Only the
  cause for which a write is not logged is told as far as the files allow.
-/

namespace Failsafe

namespace ControlPlane

/-! ## What calls return -/

/-- What a call returns. -/
inductive Answer where
  | outcome (o : Outcome)
  | change (o : Option Outcome)
  | driven (r : Option (RunId × Bool))
  | started (r : Except Refusal RunId)
  | advanced (done : Bool)
  | aborted (done : Bool)
  | forced (r : Except Refusal Transition)
  | cleared (r : Except Refusal Bool)
  | written (r : Except Error Bool)
  | flushed (r : Except Error Nat)

/-- An answer in which the cause of a failed write is told in some way. -/
def Answer.withCause (tell : FileError → FileError) : Answer → Answer
  | .written r => .written (r.mapError (Error.withCause tell))
  | a => a

theorem Answer.withCause_id (a : Answer) : a.withCause id = a := by
  cases a with
  | written r =>
    cases r with
    | ok taken => rfl
    | error e => exact congrArg (fun e => written (.error e)) e.withCause_id
  | _ => rfl

/-- What a call returns. -/
def Call.answer (now : Moment) (s : ControlPlane × Files) : Call → Answer
  | .submit e => .outcome (s.1.submit now e).answer
  | .reportFailure d => .change (s.1.reportFailure now d).answer
  | .reportSuccess d => .change (s.1.reportSuccess now d).answer
  | .drive => .driven (s.1.drive now).answer
  | .start trigger operator => .started (s.1.onRecovery (·.start now trigger operator)).answer
  | .advance id check => .advanced (s.1.advance now id check).answer
  | .abort id reason => .aborted (s.1.onRecovery (·.abort now id reason)).answer
  | .force mode ttlSeconds operator reason =>
    .forced (s.1.onService (·.force now mode ttlSeconds operator reason)).answer
  | .clear operator => .cleared (s.1.onService (·.clear now operator)).answer
  | .write e => .written (s.1.write now e s.2).answer
  | .flush reply => .flushed (s.1.flush reply s.2).answer

/-- A call: what it returns, what it leaves and what it tells. -/
def Call.step (now : Moment) (s : ControlPlane × Files) (c : Call) :
    Step (ControlPlane × Files) Answer :=
  ⟨c.answer now s, c.perform now s, c.signals now s⟩

/-! ## Other settings -/

/-- The control plane as it is, under other settings. -/
def under (s : Settings) (p : ControlPlane) : ControlPlane := { p with settings := s }

/-- A step as it is, under other settings. -/
def stepUnder (s : Settings) (x : Step ControlPlane α) : Step ControlPlane α :=
  ⟨x.answer, x.state.under s, x.signals⟩

section
variable (s : Settings) (now : Moment) (p : ControlPlane)

theorem onRecovery_under (f : Recovery → Step Recovery α) :
    (p.under s).onRecovery f = stepUnder s (p.onRecovery f) := rfl

theorem onBreaker_under (d : Dependency) (f : Breaker → Step Breaker α) :
    (p.under s).onBreaker d f = stepUnder s (p.onBreaker d f) := rfl

theorem settle_under (e : Event) :
    (p.under s).settle now e = stepUnder s (p.settle now e) := by
  unfold settle
  rw [apply_ite (stepUnder s)]
  rfl

theorem followUp_under (o : Outcome) :
    (p.under s).followUp now o = stepUnder s (p.followUp now o) := by
  unfold followUp
  dsimp only
  rw [apply_ite (stepUnder s), onRecovery_under]
  cases h : (p.onRecovery (·.start now .auto none)).answer with
  | ok id =>
    simp only [stepUnder, h]
    rfl
  | error e =>
    simp only [stepUnder, h]
    rfl

theorem reportFailure_under (d : Dependency) :
    (p.under s).reportFailure now d = stepUnder s (p.reportFailure now d) := by
  unfold reportFailure
  dsimp only
  rw [onBreaker_under]
  cases h : (p.onBreaker d (·.recordFailure now)).answer with
  | none =>
    simp only [stepUnder, h]
  | some e =>
    simp only [stepUnder, h, settle_under]

theorem reportSuccess_under (d : Dependency) :
    (p.under s).reportSuccess now d = stepUnder s (p.reportSuccess now d) := by
  unfold reportSuccess
  dsimp only
  rw [onBreaker_under]
  cases h : (p.onBreaker d (·.recordSuccess now)).answer with
  | none =>
    simp only [stepUnder, h]
  | some e =>
    simp only [stepUnder, h, settle_under, followUp_under]

theorem advance_under (id : RunId) (check : Stage → Verdict) :
    (p.under s).advance now id check = stepUnder s (p.advance now id check) := by
  unfold advance
  dsimp only
  rw [onRecovery_under]
  cases h : (p.onRecovery (·.begin now id)).answer with
  | refused =>
    simp only [stepUnder, h]
  | check stage =>
    simp only [stepUnder, h, onRecovery_under]

theorem drive_under : (p.under s).drive now = stepUnder s (p.drive now) := by
  unfold drive
  rw [show (p.under s).driven? = p.driven? from rfl]
  cases p.driven? with
  | none => rfl
  | some id =>
    dsimp only
    rw [advance_under]
    rfl

/-! ## The buffer -/

theorem buffer_settle (e : Event) : (p.settle now e).state.buffer = p.buffer := by
  rcases p.settle_cases now e with ⟨h, -⟩ | h
  · rw [h]
  · rw [h]
    rfl

theorem buffer_followUp (o : Outcome) : (p.followUp now o).state.buffer = p.buffer := by
  rcases p.followUp_cases now o with ⟨-, h⟩ | ⟨-, h⟩
  · rw [h]
    rfl
  · rw [h]

theorem buffer_reportFailure (d : Dependency) :
    (p.reportFailure now d).state.buffer = p.buffer := by
  rcases p.reportFailure_cases now d with ⟨-, h⟩ | ⟨e, -, h⟩
  · rw [h]
    rfl
  · rw [h, buffer_settle]
    rfl

theorem buffer_reportSuccess (d : Dependency) :
    (p.reportSuccess now d).state.buffer = p.buffer := by
  rcases p.reportSuccess_cases now d with ⟨-, h⟩ | ⟨e, -, h⟩
  · rw [h]
    rfl
  · rw [h, buffer_followUp, buffer_settle]
    rfl

theorem buffer_advance (id : RunId) (check : Stage → Verdict) :
    (p.advance now id check).state.buffer = p.buffer := by
  rcases p.advance_cases now id check with h | ⟨stage, h⟩
  · rw [h]
  · rw [h]
    rfl

theorem buffer_drive : (p.drive now).state.buffer = p.buffer := by
  rcases p.drive_cases now with h | ⟨id, stage, h⟩
  · rw [h]
  · rw [h]
    rfl

end

/-! ## Calls -/

/-- Two steps that differ in the settings and the files alone, and in what the cause of a failed
write is, as far as that is not told. The files serve the buffer that both leave alike. -/
structure Concurs (tell : FileError → FileError) (s : Settings)
    (x x' : Step (ControlPlane × Files) Answer) : Prop where
  answer : x'.answer.withCause tell = x.answer.withCause tell
  plane : x'.state.1 = x.state.1.under s
  signals : x'.signals = x.signals
  served : x.state.1.buffer.IsServed tell x.state.2 x'.state.2

variable {tell : FileError → FileError} (now : Moment) {p : ControlPlane} {files files' : Files}
  (s : Settings)

theorem concurs_of_under {x x' : Step ControlPlane α} (f : α → Answer) (hx : x' = stepUnder s x)
    (hb : x.state.buffer = p.buffer) (h : p.buffer.IsServed tell files files') :
    Concurs tell s ⟨f x.answer, (x.state, files), x.signals⟩
      ⟨f x'.answer, (x'.state, files'), x'.signals⟩ := by
  subst hx
  exact ⟨rfl, rfl, rfl, hb ▸ h⟩

theorem concurs_write (h : p.buffer.IsServed tell files files') (e : Entry) :
    Concurs tell s ((Call.write e).step now (p, files))
      ((Call.write e).step now (p.under s, files')) := by
  obtain ⟨ha, hb, hs, hd⟩ := Buffer.agree_add h e
  unfold Call.step Call.answer Call.perform Call.signals write
  rw [show (p.under s).buffer = p.buffer from rfl]
  dsimp only
  rw [hb, hs]
  cases hx : (p.buffer.add e files).answer with
  | error f =>
    cases hx' : (p.buffer.add e files').answer with
    | error f' =>
      rw [hx, hx'] at ha
      exact ⟨congrArg Answer.written ha, rfl, rfl, hd⟩
    | ok taken' =>
      rw [hx, hx'] at ha
      cases ha
  | ok taken =>
    cases hx' : (p.buffer.add e files').answer with
    | error f' =>
      rw [hx, hx'] at ha
      cases ha
    | ok taken' =>
      rw [hx, hx'] at ha
      obtain rfl : taken' = taken := Except.ok.inj ha
      cases taken' <;> exact ⟨rfl, rfl, rfl, hd⟩

theorem concurs_flush (h : p.buffer.IsServed tell files files')
    (reply : List Entry → Except Error Unit) :
    Concurs tell s ((Call.flush reply).step now (p, files))
      ((Call.flush reply).step now (p.under s, files')) := by
  obtain ⟨ha, hb, hs, hd⟩ := Buffer.agree_flush h reply
  unfold Call.step Call.answer Call.perform Call.signals flush
  rw [show (p.under s).buffer = p.buffer from rfl]
  dsimp only
  rw [ha, hb, hs]
  exact ⟨rfl, rfl, rfl, hd⟩

theorem concurs_call (h : p.buffer.IsServed tell files files') (c : Call) :
    Concurs tell s (c.step now (p, files)) (c.step now (p.under s, files')) := by
  cases c with
  | submit e => exact concurs_of_under s Answer.outcome (onRecovery_under s p _) rfl h
  | reportFailure d =>
    exact concurs_of_under s Answer.change (reportFailure_under s now p d)
      (buffer_reportFailure now p d) h
  | reportSuccess d =>
    exact concurs_of_under s Answer.change (reportSuccess_under s now p d)
      (buffer_reportSuccess now p d) h
  | drive => exact concurs_of_under s Answer.driven (drive_under s now p) (buffer_drive now p) h
  | start trigger operator => exact concurs_of_under s Answer.started (onRecovery_under s p _) rfl h
  | advance id check =>
    exact concurs_of_under s Answer.advanced (advance_under s now p id check)
      (buffer_advance now p id check) h
  | abort id reason => exact concurs_of_under s Answer.aborted (onRecovery_under s p _) rfl h
  | force mode ttlSeconds operator reason =>
    exact concurs_of_under s Answer.forced (onRecovery_under s p _) rfl h
  | clear operator => exact concurs_of_under s Answer.cleared (onRecovery_under s p _) rfl h
  | write e => exact concurs_write now s h e
  | flush reply => exact concurs_flush now s h reply

theorem config_call (now : Moment) (s : ControlPlane × Files) (c : Call) :
    (c.perform now s).1.buffer.config = s.1.buffer.config := by
  cases c with
  | reportFailure d => exact congrArg Buffer.config (buffer_reportFailure now s.1 d)
  | reportSuccess d => exact congrArg Buffer.config (buffer_reportSuccess now s.1 d)
  | drive => exact congrArg Buffer.config (buffer_drive now s.1)
  | advance id check => exact congrArg Buffer.config (buffer_advance now s.1 id check)
  | write e =>
    have hb : (s.1.write now e s.2).state.1.buffer = (s.1.buffer.add e s.2).state.1 := by
      unfold write
      dsimp only
      split <;> rfl
    exact (congrArg Buffer.config hb).trans (Buffer.config_perform (s.1.buffer, s.2) (.add e))
  | flush reply => exact Buffer.config_perform (s.1.buffer, s.2) (.flush reply)
  | _ => rfl

end ControlPlane

end Failsafe
