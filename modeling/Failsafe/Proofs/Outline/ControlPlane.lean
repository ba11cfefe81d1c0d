import Failsafe.Proofs.ControlPlane.Coverage
import Failsafe.Proofs.ControlPlane.Reach
import Failsafe.Proofs.Outline.Recovery
/-
  All that the control plane does is told by the events that it offers to the bus.

  A breaker answers an event just when its level changes, and the event tells the new one
  (`Breaker.Answers`). So the signals of every move take the outline before to the outline after
  (`tracks_move`), and all events from the assembling on give the outline as it is
  (`outline_play`).
-/

namespace Failsafe

/-! ## Breakers -/

namespace Breaker

/-- What a report leads to: nothing is offered yet, but an event is answered that tells the level,
unless the level is as it was. -/
structure Answers (b : Breaker) (x : Step Breaker (Option Event)) : Prop where
  dependency : x.state.dependency = b.dependency
  quiet : Signal.offers x.signals = []
  unchanged : x.answer = none → x.state.level = b.level
  told : ∀ e, x.answer = some e → ∀ o : Outline,
    o.note e = { o with level := Function.update o.level b.dependency x.state.level }

section
variable {b : Breaker} {x : Step Breaker (Option Event)}

theorem answers_none (hd : x.state.dependency = b.dependency) (hq : Signal.offers x.signals = [])
    (ha : x.answer = none) (hl : x.state.level = b.level) : b.Answers x where
  dependency := hd
  quiet := hq
  unchanged _ := hl
  told e he := by
    rw [ha] at he
    cases he

theorem answers_some {e : Event} (hd : x.state.dependency = b.dependency)
    (hq : Signal.offers x.signals = []) (ha : x.answer = some e)
    (ht : ∀ o : Outline, o.note e
      = { o with level := Function.update o.level b.dependency x.state.level }) :
    b.Answers x where
  dependency := hd
  quiet := hq
  unchanged hn := by
    rw [ha] at hn
    cases hn
  told e' he := by
    obtain rfl := Option.some.inj (ha.symm.trans he)
    exact ht

end

variable (now : Moment) (b : Breaker)

theorem text?_event (kind : EventKind) (severity : Severity) (reason : Reason) :
    (b.event now kind severity reason).text? "level" = some b.level.text := by
  unfold event
  simp [Event.text?_detail_of_ne]

theorem answers_recordFailure : b.Answers (b.recordFailure now) := by
  unfold recordFailure
  split
  · exact answers_none rfl rfl rfl rfl
  dsimp only
  split
  · refine answers_some rfl rfl rfl fun o => ?_
    exact o.note_of_level (Or.inr (Or.inl rfl)) rfl (text?_event now _ _ _ _)
  split
  · refine answers_some rfl rfl rfl fun o => ?_
    exact o.note_of_level (Or.inl rfl) rfl (text?_event now _ _ _ _)
  · exact answers_none rfl rfl rfl rfl

theorem answers_recordSuccess : b.Answers (b.recordSuccess now) := by
  unfold recordSuccess
  split
  · exact answers_none rfl rfl rfl rfl
  · refine answers_some rfl rfl rfl fun o => ?_
    refine o.note_of_level (Or.inr (Or.inr rfl)) rfl ?_
    rw [Event.text?_note_of_ne _ (by decide)]
    exact text?_event now _ _ _ _

end Breaker

theorem Breakers.level_set (b : Breakers) (d : Dependency) (x : Breaker) :
    (b.set d x).level = Function.update b.level d x.level := by
  funext d'
  unfold level
  by_cases h : d' = d
  · subst h
    rw [get_set_self, Function.update_self]
  · rw [get_set_of_ne b h, Function.update_of_ne h]

/-! ## The write buffer -/

namespace Wal

theorem offers_scanLines (path : String) (number : Nat) (r : Replay) (l : List Bytes) :
    Signal.offers (scanLines path number r l).2 = [] := by
  induction l generalizing number r with
  | nil => rfl
  | cons line rest ih =>
    rw [scanLines]
    split
    · rfl
    split
    · exact ih _ _
    · exact ih _ _
    · exact ih _ _

theorem offers_load (files : Files) (path : String) : Signal.offers (load files path).2 = [] := by
  unfold load
  split
  · rfl
  · rfl
  · next content _ =>
    have hs : Signal.offers (scan path content).2 = [] := offers_scanLines path 1 .empty _
    split
    · next h =>
      rw [h] at hs
      exact hs
    · next h =>
      rw [h] at hs
      rw [Signal.offers_append, hs]
      rfl

end Wal

namespace Buffer

theorem offers_add (e : Entry) (files : Files) (b : Buffer) :
    Signal.offers (b.add e files).signals = [] := by
  unfold add
  dsimp only
  split
  · rfl
  split <;> rfl

theorem offers_flush (reply : List Entry → Except Error Unit) (files : Files) (b : Buffer) :
    Signal.offers (b.flush reply files).signals = [] := by
  unfold flush
  split
  · rfl
  split
  · rfl
  split <;> rfl

theorem offers_new (config : BufferConfig) (files : Files) :
    Signal.offers (new config files).2 = [] := by
  unfold new
  split
  · rfl
  · next path _ =>
    have hl := Wal.offers_load files path
    split
    · next h =>
      rw [h] at hl
      exact hl
    · next h =>
      rw [h] at hl
      rw [Signal.offers_append, hl, List.nil_append]
      unfold restored
      split <;> split <;> rfl

end Buffer

/-! ## The control plane -/

namespace ControlPlane

/-- The outline of the control plane. -/
def outline (p : ControlPlane) : Outline where
  mode := p.service.mode
  stage := p.service.stage
  level := p.breakers.level
  run? := p.recovery.run?.map fun run => (run.id, run.stage)

/-- Every breaker knows its dependency. -/
def IsNamed (p : ControlPlane) : Prop := ∀ d, (p.breakers.get d).dependency = d

/-- The signals tell how one control plane became another, whose breakers still know their
dependencies. -/
def Tracks (p : ControlPlane) (l : List Signal) (p' : ControlPlane) : Prop :=
  p.IsNamed → p'.IsNamed ∧ p.outline.follow l = p'.outline

section
variable {now : Moment} {p : ControlPlane}

theorem tracks_quiet {l : List Signal} (hl : Signal.offers l = []) : Tracks p l p :=
  fun hn => ⟨hn, Outline.follow_of_quiet _ hl⟩

theorem tracks_append {a b : List Signal} {p' p'' : ControlPlane} (ha : Tracks p a p')
    (hb : Tracks p' b p'') : Tracks p (a ++ b) p'' := by
  intro hn
  obtain ⟨hn', ha⟩ := ha hn
  obtain ⟨hn'', hb⟩ := hb hn'
  rw [Outline.follow_append, ha, hb]
  exact ⟨hn'', rfl⟩

/-- What the recovery does, the control plane tells with it. -/
theorem tracks_recovery {l : List Signal} {r' : Recovery} (h : Recovery.Tracks p.recovery l r') :
    Tracks p l { p with recovery := r' } :=
  fun hn => ⟨hn, h p.outline⟩

/-- The write buffer is no part of the outline. -/
theorem tracks_buffer {l : List Signal} (hl : Signal.offers l = []) (b : Buffer) :
    Tracks p l { p with buffer := b } :=
  fun hn => ⟨hn, Outline.follow_of_quiet _ hl⟩

theorem tracks_submit (e : Event) : Tracks p (p.submit now e).signals (p.submit now e).state :=
  tracks_recovery (Recovery.tracks_service (Service.tracks_handle e))

theorem tracks_settle (e : Event) : Tracks p (p.settle now e).signals (p.settle now e).state := by
  unfold settle
  split
  · exact tracks_quiet rfl
  · exact tracks_submit e

theorem tracks_followUp (o : Outcome) :
    Tracks p (p.followUp now o).signals (p.followUp now o).state := by
  have hs : Tracks p (p.onRecovery (·.start now .auto none)).signals
      (p.onRecovery (·.start now .auto none)).state :=
    tracks_recovery (Recovery.tracks_start .auto none)
  unfold followUp
  split
  · dsimp only
    split
    · exact hs
    · exact tracks_append hs (tracks_quiet rfl)
  · exact tracks_quiet rfl

/-! ## Reports -/

/-- A report that changes no level goes unannounced. -/
theorem tracks_unchanged {d : Dependency} {x : Step Breaker (Option Event)}
    (h : (p.breakers.get d).Answers x) (hx : x.answer = none) :
    Tracks p x.signals { p with breakers := p.breakers.set d x.state } := by
  intro hn
  refine ⟨named_set hn (h.dependency.trans (hn d)), ?_⟩
  have hl : (p.breakers.set d x.state).level = p.breakers.level := by
    rw [Breakers.level_set, h.unchanged hx]
    exact Function.update_eq_self d _
  rw [Outline.follow_of_quiet _ h.quiet, outline, outline, hl]
  rfl

/-- A change of level is announced. -/
theorem tracks_announced {d : Dependency} {x : Step Breaker (Option Event)}
    (h : (p.breakers.get d).Answers x) {e : Event} (hx : x.answer = some e) :
    Tracks p (x.signals ++ [announce e]) { p with breakers := p.breakers.set d x.state } := by
  intro hn
  refine ⟨named_set hn (h.dependency.trans (hn d)), ?_⟩
  have ht := h.told e hx p.outline
  rw [hn d] at ht
  rw [Outline.follow_append, Outline.follow_of_quiet _ h.quiet]
  refine ht.trans ?_
  rw [outline, outline, Breakers.level_set]
  rfl

theorem tracks_reportFailure (d : Dependency) :
    Tracks p (p.reportFailure now d).signals (p.reportFailure now d).state := by
  have h := (p.breakers.get d).answers_recordFailure now
  unfold reportFailure
  dsimp only
  split
  · next hx => exact tracks_unchanged h hx
  · next e hx =>
    rw [List.append_cons]
    exact tracks_append (tracks_announced h hx) (tracks_settle e)

theorem tracks_reportSuccess (d : Dependency) :
    Tracks p (p.reportSuccess now d).signals (p.reportSuccess now d).state := by
  have h := (p.breakers.get d).answers_recordSuccess now
  unfold reportSuccess
  dsimp only
  split
  · next hx => exact tracks_unchanged h hx
  · next e hx =>
    rw [List.append_cons]
    exact tracks_append (tracks_announced h hx)
      (tracks_append (tracks_settle e) (tracks_followUp _))

/-! ## Recoveries and writes -/

theorem tracks_advance (id : RunId) (check : Stage → Verdict) :
    Tracks p (p.advance now id check).signals (p.advance now id check).state := by
  have hb : Tracks p (p.onRecovery (·.begin now id)).signals
      (p.onRecovery (·.begin now id)).state := tracks_recovery (Recovery.tracks_begin id)
  unfold advance
  dsimp only
  split
  · exact hb
  · exact tracks_append hb (tracks_recovery (Recovery.tracks_commit id _ _))

theorem tracks_drive : Tracks p (p.drive now).signals (p.drive now).state := by
  unfold drive
  split
  · exact tracks_quiet rfl
  · exact tracks_advance _ _

theorem tracks_write (e : Entry) (files : Files) :
    Tracks p (p.write now e files).signals (p.write now e files).state.1 := by
  have hb : Tracks p _ { p with buffer := (p.buffer.add e files).state.1 } :=
    tracks_buffer (Buffer.offers_add e files p.buffer) _
  unfold write
  dsimp only
  split
  · have ho : Tracks { p with buffer := (p.buffer.add e files).state.1 }
        [.offer (overflow now (p.buffer.add e files).state.1) []] _ := fun hn => ⟨hn, rfl⟩
    exact tracks_append hb (tracks_append ho (tracks_submit _))
  · exact hb

end

/-! ## Moves -/

/-- The signals of a call. -/
def Call.signals (now : Moment) (s : ControlPlane × Files) : Call → List Signal
  | .submit e => (s.1.submit now e).signals
  | .reportFailure d => (s.1.reportFailure now d).signals
  | .reportSuccess d => (s.1.reportSuccess now d).signals
  | .drive => (s.1.drive now).signals
  | .start trigger operator => (s.1.onRecovery (·.start now trigger operator)).signals
  | .advance id check => (s.1.advance now id check).signals
  | .abort id reason => (s.1.onRecovery (·.abort now id reason)).signals
  | .force mode ttlSeconds operator reason =>
    (s.1.onService (·.force now mode ttlSeconds operator reason)).signals
  | .clear operator => (s.1.onService (·.clear now operator)).signals
  | .write e => (s.1.write now e s.2).signals
  | .flush reply => (s.1.flush reply s.2).signals

namespace Move

/-- The signals of a move. -/
def signals (now : Moment) (s : ControlPlane × Files) : Move → List Signal
  | call c => c.signals now s
  | action a => a.signals now s.1.recovery

/-- The move sets the stage of the service alone. -/
def isStaging : Move → Bool
  | call _ => false
  | action a => a.isStaging

end Move

/-- All the signals of some moves, each made at its own moment. -/
def told (s : ControlPlane × Files) : List (Moment × Move) → List Signal
  | [] => []
  | m :: moves => m.2.signals m.1 s ++ told (m.2.perform m.1 s) moves

theorem tracks_call (now : Moment) (s : ControlPlane × Files) (c : Call) :
    Tracks s.1 (c.signals now s) (c.perform now s).1 := by
  cases c with
  | submit e => exact tracks_submit e
  | reportFailure d => exact tracks_reportFailure d
  | reportSuccess d => exact tracks_reportSuccess d
  | drive => exact tracks_drive
  | start trigger operator => exact tracks_recovery (Recovery.tracks_start trigger operator)
  | advance id check => exact tracks_advance id check
  | abort id reason => exact tracks_recovery (Recovery.tracks_abort id reason)
  | force mode ttlSeconds operator reason =>
    exact tracks_recovery
      (Recovery.tracks_service (Service.tracks_force mode ttlSeconds operator reason))
  | clear operator =>
    exact tracks_recovery (Recovery.tracks_service (Service.tracks_clear operator))
  | write e => exact tracks_write e s.2
  | flush reply => exact tracks_buffer (Buffer.offers_flush reply s.2 s.1.buffer) _

theorem tracks_move (now : Moment) (s : ControlPlane × Files) {m : Move}
    (h : m.isStaging = false) : Tracks s.1 (m.signals now s) (m.perform now s).1 := by
  cases m with
  | call c => exact tracks_call now s c
  | action a => exact tracks_recovery (Recovery.tracks_perform h)

theorem tracks_play (s : ControlPlane × Files) {moves : List (Moment × Move)}
    (hm : ∀ m ∈ moves, m.2.isStaging = false) : Tracks s.1 (told s moves) (play s moves).1 := by
  induction moves generalizing s with
  | nil => exact tracks_quiet rfl
  | cons m moves ih =>
    rw [told, play_cons]
    exact tracks_append (tracks_move m.1 s (hm m List.mem_cons_self))
      (ih _ fun m' hm' => hm m' (List.mem_cons_of_mem _ hm'))

/-- The control plane is assembled in silence. -/
theorem offers_assemble (now : Moment) (ids : RunIds) (settings : Settings) (files : Files) :
    Signal.offers (assemble now ids settings files).2 = [] := by
  have hb := Buffer.offers_new settings.buffer files
  unfold assemble
  split
  · rfl
  · dsimp only
    split
    · next h =>
      rw [h] at hb
      rw [Signal.offers_append, hb]
      rfl
    · next h =>
      rw [h] at hb
      rw [Signal.offers_append, Signal.offers_append, hb]
      rfl

/-- What is assembled has an outline that is known beforehand. -/
theorem outline_assemble {now : Moment} {ids : RunIds} {settings : Settings} {files : Files}
    {p : ControlPlane} (h : (assemble now ids settings files).1 = .ok p) :
    p.IsNamed ∧ p.outline = .initial settings.initialMode := by
  obtain ⟨hb, hr⟩ := assemble_cases h
  refine ⟨(isSound_assemble h).named, ?_⟩
  have hl : p.breakers.level = fun _ => .healthy := by
    funext d
    rw [hb]
    cases d <;> rfl
  rw [outline, service, hl, hr]
  rfl

/-- Reading all events that were ever offered to the bus, from the initial mode on, gives the mode
and stage, the levels of the breakers and the current run with its stage as they are, whatever
moves are made, at whatever times, except to set the stage of the service alone. -/
theorem outline_play {now : Moment} {ids : RunIds} {settings : Settings} {files : Files}
    {p : ControlPlane} (h : (assemble now ids settings files).1 = .ok p)
    {moves : List (Moment × Move)} (hm : ∀ m ∈ moves, m.2.isStaging = false) (files' : Files) :
    let p' := (play (p, files') moves).1
    (Signal.offers ((assemble now ids settings files).2 ++ told (p, files') moves)).foldl
        Outline.note (.initial settings.initialMode)
      = { mode := p'.service.mode
          stage := p'.service.stage
          level := p'.breakers.level
          run? := p'.recovery.run?.map fun run => (run.id, run.stage) } := by
  intro p'
  obtain ⟨hn, ho⟩ := outline_assemble h
  rw [← ho]
  show p.outline.follow _ = p'.outline
  rw [Outline.follow_append, Outline.follow_of_quiet _ (offers_assemble now ids settings files)]
  exact (tracks_play (p, files') hm hn).2

/-- A broker that fails and reconnects, a run that advances, market data that fail, and an
operator who halts the system. -/
def reconnectThenHalt : List (Moment × Move) :=
  [(⟨1, .epoch⟩, .call (.reportFailure .broker)), (⟨2, .epoch⟩, .call (.reportSuccess .broker)),
    (⟨3, .epoch⟩, .action (.begin ⟨1⟩)), (⟨4, .epoch⟩, .call (.reportFailure .marketData)),
    (⟨5, .epoch⟩, .action (.commit ⟨⟨1⟩, .connectBroker⟩ .passed)),
    (⟨6, .epoch⟩, .call (.force .halt 60 "ops" "drill"))]

/-- The events then tell of a halted system with unstable market data and a run that stands at its
second stage. -/
theorem outline_reconnectThenHalt :
    ∃ p, (assemble ⟨0, .epoch⟩ .counting .standard .empty).1 = .ok p ∧
      (∀ m ∈ reconnectThenHalt, m.2.isStaging = false) ∧
      let reading := (Signal.offers ((assemble ⟨0, .epoch⟩ .counting .standard .empty).2
        ++ told (p, .empty) reconnectThenHalt)).foldl Outline.note (.initial .disconnected)
      reading.mode = .halt ∧ reading.stage = none ∧ reading.level .marketData = .unstable ∧
      reading.level .broker = .healthy ∧ reading.run? = some (⟨1⟩, .catchUp) := by
  obtain ⟨p, hp⟩ : ∃ p, (assemble ⟨0, .epoch⟩ .counting .standard .empty).1 = .ok p := ⟨_, rfl⟩
  have hw : ∀ m ∈ reconnectThenHalt, m.2.isStaging = false := by decide
  have ho := outline_play hp hw .empty
  refine ⟨p, hp, hw, ?_⟩
  cases hp
  exact ⟨congrArg Outline.mode ho, congrArg Outline.stage ho,
    congrFun (congrArg Outline.level ho) .marketData,
    congrFun (congrArg Outline.level ho) .broker, congrArg Outline.run? ho⟩

end ControlPlane

end Failsafe
