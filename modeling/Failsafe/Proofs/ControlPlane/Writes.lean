import Failsafe.Proofs.Buffer.Failures
import Failsafe.Proofs.Pressure
import Failsafe.Proofs.Recovery.Refusals
/-
  What a write to the buffer does to the rest of the system.

  A write that is accepted, or that the log does not take, changes nothing outside the buffer and
  its log. One that is refused for want of room is told to the bus by one event, which is then
  submitted (`call_write_of_refused`). The calls of the buffer that fail, on whatever state the
  system is in, are gathered in `failures_spare`.
-/

namespace Failsafe

namespace Buffer

theorem isQuiet_add (e : Entry) (files : Files) (b : Buffer) :
    Signal.IsQuiet (b.add e files).signals := by
  unfold add
  dsimp only
  split
  · exact Signal.isQuiet_log _
  split
  · exact Signal.isQuiet_nil
  · exact Signal.isQuiet_log _

end Buffer

/-- The transitions that events lead to are told as changes of the mode. -/
theorem Service.kind_of_mem_offers_handle {now : Moment} {s : Service} {e told : Event}
    (h : told ∈ Signal.offers (s.handle now e).signals) : told.kind = .modeChanged := by
  have hquiet : ∀ r, told ∉ Signal.offers ((s.refresh now).signals ++ [.log r]) := by
    intro r hr
    have hq : Signal.IsQuiet ((s.refresh now).signals ++ [.log r]) :=
      Signal.isQuiet_append isQuiet_refresh (Signal.isQuiet_log r)
    rw [Signal.offers_of_isQuiet hq] at hr
    cases hr
  unfold handle at h
  dsimp only at h
  split at h
  · exact absurd h (hquiet _)
  split at h
  · exact absurd h (hquiet _)
  · rw [Signal.offers_append, Signal.offers_of_isQuiet isQuiet_refresh, List.nil_append] at h
    obtain rfl := List.mem_singleton.mp h
    exact kind_announcement _ _ _ _

namespace ControlPlane

variable {now : Moment} {p : ControlPlane} {e : Entry} {files : Files}

/-- A write that does not find the buffer full is a matter of the buffer alone. -/
theorem write_of_ne_refused (h : (p.write now e files).answer ≠ .ok false) :
    let added := p.buffer.add e files
    (p.write now e files).answer = added.answer ∧
    (p.write now e files).state = ({ p with buffer := added.state.1 }, added.state.2) ∧
    Signal.IsQuiet (p.write now e files).signals := by
  intro added
  have hq : Signal.IsQuiet added.signals := Buffer.isQuiet_add e files p.buffer
  unfold write at h ⊢
  dsimp only at h ⊢
  split
  · next ha =>
    rw [ha] at h
    exact absurd rfl h
  · exact ⟨rfl, rfl, hq⟩

/-- A write that finds the buffer full is told and submitted. -/
theorem write_of_refused (h : (p.write now e files).answer = .ok false) :
    let event := overflow now p.buffer
    (p.write now e files).state = ((p.submit now event).state, files) ∧
    ∃ l, Signal.IsQuiet l ∧
      (p.write now e files).signals = l ++ .offer event [] :: (p.submit now event).signals := by
  intro event
  have hadd : (p.buffer.add e files).answer = .ok false := by
    unfold write at h
    dsimp only at h
    split at h
    · next ha => exact ha
    · exact h
  have hstate : (p.buffer.add e files).state = (p.buffer, files) := by
    rcases Buffer.add_outcomes p.buffer e files with
      ⟨-, hs⟩ | ⟨f, left, -, ha, -⟩ | ⟨files', -, ha, -⟩
    · exact hs
    · cases hadd.symm.trans ha
    · cases hadd.symm.trans ha
  unfold write
  dsimp only
  rw [hadd, hstate]
  exact ⟨rfl, _, Buffer.isQuiet_add e files p.buffer, rfl⟩

/-- The overflow is told by one event. -/
theorem offers_write_of_refused (h : (p.write now e files).answer = .ok false) :
    (Signal.offers (p.write now e files).signals).filter (·.kind = .bufferOverflow)
      = [overflow now p.buffer] := by
  obtain ⟨-, l, hl, hs⟩ := write_of_refused h
  have hrest : (Signal.offers (p.submit now (overflow now p.buffer)).signals).filter
      (·.kind = .bufferOverflow) = [] := by
    rw [List.filter_eq_nil_iff]
    intro told htold
    have hkind : told.kind = .modeChanged := Service.kind_of_mem_offers_handle htold
    simp [hkind]
  rw [hs, Signal.offers_append, Signal.offers_of_isQuiet hl, List.nil_append]
  show List.filter _ (overflow now p.buffer :: Signal.offers _) = _
  rw [List.filter_cons, hrest]
  rfl

end ControlPlane

/-- An event that is offered is published, if nothing is to be logged of a drop. -/
theorem Surroundings.absorbOne_offer {η : Type} (now : Moment) (s : Surroundings η) (e : Event) :
    s.absorbOne now (.offer e []) = (s.publish now e).1 := by
  have hrecord : ∀ r : Surroundings η, r.record [] = r := by
    intro r
    unfold record
    rw [List.append_nil]
  unfold absorbOne
  dsimp only
  rw [hrecord]
  split <;> rfl

namespace System

variable {η : Type} {now : Moment} {w : System η} {e : Entry}

/-- An event is published before anything else is done. -/
def publish (now : Moment) (e : Event) (w : System η) : System η :=
  ⟨w.plane, (w.around.publish now e).1⟩

/-- Some records are logged before anything else is done. -/
def record (l : List Log.Record) (w : System η) : System η := ⟨w.plane, w.around.record l⟩

/-- Nothing has happened outside the buffer and the files, except that records may have been
logged. -/
structure Rests (w w' : System η) : Prop where
  /-- mode, stage, history and override are the same, and so is the run -/
  recovery : w'.plane.recovery = w.plane.recovery
  breakers : w'.plane.breakers = w.plane.breakers
  gate : w'.around.gate = w.around.gate
  pushes : w'.around.pushes = w.around.pushes
  bus : w'.around.bus? = w.around.bus?
  alarms : w'.around.alarms = w.around.alarms

theorem rests_call_write (h : (w.plane.write now e w.around.files).answer ≠ .ok false) :
    let added := w.plane.buffer.add e w.around.files
    w.Rests (w.call now (.write e)) ∧ (w.plane.write now e w.around.files).answer = added.answer ∧
      ((w.call now (.write e)).plane.buffer, (w.call now (.write e)).around.files)
        = added.state := by
  intro added
  obtain ⟨hanswer, hstate, hq⟩ := ControlPlane.write_of_ne_refused h
  let files := (w.plane.write now e w.around.files).state.2
  obtain ⟨records, hr⟩ := Surroundings.absorb_of_isQuiet now { w.around with files } hq
  have hcall : w.call now (.write e)
      = ⟨{ w.plane with buffer := added.state.1 }, { w.around with files }.record records⟩ :=
    congrArg₂ System.mk (congrArg Prod.fst hstate) hr
  rw [hcall]
  exact ⟨⟨rfl, rfl, rfl, rfl, rfl, rfl⟩, hanswer, congrArg (Prod.mk _) (congrArg Prod.snd hstate)⟩

/-- A write for which there is no room is logged, told to the bus and then submitted. -/
theorem call_write_of_refused (h : (w.plane.write now e w.around.files).answer = .ok false) :
    let event := ControlPlane.overflow now w.plane.buffer
    ∃ records, w.call now (.write e)
      = ((w.record records).publish now event).call now (.submit event) := by
  intro event
  obtain ⟨hs, l, hl, hsignals⟩ := ControlPlane.write_of_refused h
  obtain ⟨records, hr⟩ := w.around.absorb_of_isQuiet now hl
  have habsorb : w.around.absorb now (w.plane.write now e w.around.files).signals
      = (((w.around.record records).publish now event).1).absorb now
          (w.plane.submit now event).signals := by
    rw [hsignals, Surroundings.absorb, List.foldl_append, List.foldl_cons]
    show Surroundings.absorb now (Surroundings.absorbOne now (w.around.absorb now l) _) _ = _
    rw [hr, Surroundings.absorbOne_offer]
  refine ⟨records, ?_⟩
  show System.mk (w.plane.write now e w.around.files).state.1
    ({ w.around with files := (w.plane.write now e w.around.files).state.2 }.absorb now
      (w.plane.write now e w.around.files).signals) = _
  rw [hs]
  exact congrArg (System.mk _) habsorb

/-- In whatever state the system is: a call of the buffer that is refused, that fails or that has
nothing to do leaves what is held, the next number and the bytes of the log as they were; without
such calls the others get the same numbers, hand over the same batches and leave the same. (The next
number is one of 64 bits as long as no accepted write has the greatest of these.) An empty buffer
hands nothing to the sink. A write that is accepted, or that fails, changes neither the mode nor the
history, the gate or the bus; one for which there is no room is told by one event, which is then
submitted. -/
theorem failures_spare (w : System η) :
    let s := (w.plane.buffer, w.around.files)
    (∀ c : Buffer.Call, (c.reply s).isVain = true → Buffer.Spares s (c.perform s)) ∧
    (∀ calls : List Buffer.Call,
      let others := (Buffer.kept s calls).map Prod.fst
      Buffer.transcript s others = Buffer.kept s calls ∧
        Buffer.Spares (Buffer.run s others) (Buffer.run s calls)) ∧
    (∀ calls : List Buffer.Call, (Buffer.run s calls).1.nextSeq < Width.bound 64 ↔
      s.1.nextSeq < Width.bound 64 ∧ ∀ e ∈ Buffer.accepted s calls, e.IsCountable) ∧
    (w.plane.buffer.entries = [] →
      ∀ reply, (Buffer.Call.flush reply).reply s = .flushed none (.ok 0)) ∧
    ∀ (now : Moment) (e : Entry),
      let after := w.call now (.write e)
      match (w.plane.write now e w.around.files).answer with
      | .ok true => w.Rests after
      | .error _ => w.Rests after ∧ Buffer.Spares s (after.plane.buffer, after.around.files)
      | .ok false =>
        let event := ControlPlane.overflow now w.plane.buffer
        event.kind = .bufferOverflow ∧ event.reason = .databaseBufferFull ∧
        (Signal.offers (w.plane.write now e w.around.files).signals).filter
          (·.kind = .bufferOverflow) = [event] ∧
        (∃ records, after = ((w.record records).publish now event).call now (.submit event)) ∧
        after.plane.buffer = w.plane.buffer := by
  intro s
  refine ⟨fun c hc => Buffer.spares_perform hc, fun calls => Buffer.transcript_kept s calls,
    fun calls => ?_, fun hn reply => Buffer.reply_flush_of_nil hn reply, fun now e => ?_⟩
  · rw [Buffer.nextSeq_run, Buffer.foldl_seqAfter_lt_iff]
  · intro after
    split
    · next h =>
      have hne : (w.plane.write now e w.around.files).answer ≠ .ok false := by simp [h]
      exact (rests_call_write hne).1
    · next f h =>
      have hne : (w.plane.write now e w.around.files).answer ≠ .ok false := by simp [h]
      obtain ⟨hrests, hanswer, hstate⟩ := rests_call_write hne
      have hvain : ((Buffer.Call.add e).reply s).isVain = true := by
        rw [Buffer.Call.reply, ← hanswer, h]
        rfl
      refine ⟨hrests, ?_⟩
      rw [hstate]
      exact Buffer.spares_perform hvain
    · next h =>
      obtain ⟨records, hcall⟩ := call_write_of_refused h
      refine ⟨rfl, rfl, ControlPlane.offers_write_of_refused h, ⟨records, hcall⟩, ?_⟩
      rw [show after = _ from hcall]
      rfl

/-- A write of the quantity of a fill, without a number. -/
def fill (quantity : Nat) : Entry :=
  Entry.new ⟨0, .epoch⟩ "fill" "7" [("qty", .nat quantity)]

/-- A system with room for one write, which it has accepted. -/
def crowded : System Unit :=
  let now : Moment := ⟨0, .epoch⟩
  let settings := { Settings.standard with
    initialMode := .normal, buffer := ⟨1, 1000, some "w", false⟩ }
  let plane : ControlPlane :=
    { settings, breakers := .new settings.breakers
      recovery := .new (Service.new now .normal).state settings.recovery .counting
      buffer := .ofReplay settings.buffer .empty }
  call now (.write (fill 1)) ⟨plane, surroundings settings (.watch .normal) .empty⟩

/-- The second write is refused, and a database that is down turns the first one back; it stays in
the buffer, while the overflow makes the system safe. -/
theorem failures_spare_crowded :
    let now : Moment := ⟨0, .epoch⟩
    let s := (crowded.plane.buffer, crowded.around.files)
    let down : Buffer.Call := .flush fun _ => .error (.other "down")
    let after := crowded.call now (.write (fill 2))
    (crowded.plane.write now (fill 2) crowded.around.files).answer = .ok false ∧
    (down.reply s).isVain = true ∧ (down.perform s).1.entries.map Entry.key = ["fill:7:0"] ∧
    after.plane.buffer.nextSeq = 1 ∧ after.plane.service.mode = .safe := by
  intro now s down after
  have hfull : (crowded.plane.write now (fill 2) crowded.around.files).answer = .ok false := by
    decide +kernel
  have hdown : (down.reply s).isVain = true := by decide +kernel
  have hkeys : s.1.entries.map Entry.key = ["fill:7:0"] := by decide +kernel
  have hnext : s.1.nextSeq = 1 := by decide +kernel
  obtain ⟨hspares, -, -, -, hwrites⟩ := failures_spare crowded
  have hwrite := hwrites now (fill 2)
  simp only [hfull] at hwrite
  obtain ⟨-, -, -, -, hbuffer⟩ := hwrite
  refine ⟨hfull, hdown, ?_, ?_, ?_⟩
  · rw [(hspares down hdown).entries, hkeys]
  · exact (congrArg Buffer.nextSeq hbuffer).trans hnext
  · decide +kernel

end System

end Failsafe
