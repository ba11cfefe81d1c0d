import Failsafe.Proofs.Bus.Turns
import Failsafe.Proofs.ControlPlane.Doubles
import Failsafe.Proofs.Surroundings
/-
  Pressure on the bus reaches no control decision.

  Two systems get the same calls at the same moments. Their settings differ in the section of the
  bus, and between the calls anything may be done to either bus: it is subscribed to, started,
  stopped, filled, drained or lost, and dropped events go to fallback logs that may not be
  writable. Every call then returns the same in both, and leaves the same breakers, mode, stage,
  override, history, run and write buffer, and the same pushes to the gate (`sights_of_bus`).

  Decisions do not look at what becomes of their signals, so the only way from a bus to a decision
  is through the files: a dropped event makes the directories above the fallback log, also if the
  log cannot be opened then, and these may be above the log of the write buffer too. That decides
  nothing (`appendMaking_sameWay`), but the cause for which a write is not logged may be another one
  if the path of the log leads back up behind a name (`sights_ne_of_detour`).
-/

namespace Failsafe

/-! ## Systems -/

/-- The control plane together with what surrounds it. -/
structure System (η : Type) where
  plane : ControlPlane
  around : Surroundings η

/-- What may be done to a bus between the calls of the control plane, by those who publish and
subscribe, by those who start and stop it and by its dispatcher. -/
inductive Aside (η : Type) where
  | publish (now : Moment) (e : Event)
  | subscribe (s : Subscriber η)
  | start
  | stop
  /-- the dispatcher takes the next event -/
  | take
  /-- the next subscriber has had the event -/
  | handle (h : Handling)
  /-- the dispatcher is through with the event -/
  | finish
  | crash (reason : String)
  /-- a subscriber logs something -/
  | record (l : List Log.Record)

namespace Aside

variable {η : Type}

/-- The surroundings after something has been done to the bus. -/
def perform (s : Surroundings η) : Aside η → Surroundings η
  | publish now e => (s.publish now e).1
  | subscribe x => s.onBus (·.subscribe x)
  | start => s.onBus Bus.start
  | stop => s.onBus Bus.stop
  | take => s.onBus fun bus => (bus.take?.getD bus, [])
  | handle h => s.onBus (Bus.handled h)
  | finish => s.onBus Bus.delivered
  | crash reason => s.onBus fun bus => (bus.crash reason, [])
  | record l => s.record l

/-- Nothing of this touches files other than the fallback log. -/
theorem leaves_perform (s : Surroundings η) (a : Aside η) : s.Leaves (a.perform s) := by
  cases a with
  | publish now e => exact Surroundings.leaves_publish now e
  | subscribe x => exact Surroundings.leaves_onBus (f := fun bus => bus.subscribe x) fun _ => rfl
  | start => exact Surroundings.leaves_onBus Bus.config_start
  | stop => exact Surroundings.leaves_onBus Bus.config_stop
  | take =>
    exact Surroundings.leaves_onBus (f := fun bus => (bus.take?.getD bus, [])) Bus.config_take
  | handle h => exact Surroundings.leaves_onBus fun bus => bus.config_handled h
  | finish => exact Surroundings.leaves_onBus Bus.config_delivered
  | crash reason =>
    exact Surroundings.leaves_onBus (f := fun bus => (bus.crash reason, [])) fun _ => rfl
  | record l => exact Surroundings.leaves_of_eq rfl rfl

/-- Nothing of this reaches the gate. -/
theorem gate_perform (s : Surroundings η) (a : Aside η) :
    (a.perform s).gate = s.gate ∧ (a.perform s).pushes = s.pushes := by
  cases a with
  | publish now e => exact s.publish_gate now e
  | record l => exact ⟨rfl, rfl⟩
  | _ =>
    unfold perform Surroundings.onBus
    dsimp only
    split <;> exact ⟨rfl, rfl⟩

end Aside

/-- One thing that happens in a system. -/
inductive Deed (η : Type) where
  | call (now : Moment) (c : ControlPlane.Call)
  | aside (a : Aside η)

/-- The calls among the things that happen, each with its moment. -/
def Deed.calls (l : List (Deed η)) : List (Moment × ControlPlane.Call) :=
  l.filterMap fun | call now c => some (now, c) | aside _ => none

/-- What a call returns, and what is seen of a system right after it. -/
structure Sight where
  answer : ControlPlane.Answer
  breakers : Breakers
  /-- the run together with the mode, stage, override and history of the service -/
  recovery : Recovery
  buffer : Buffer
  gate : Gate
  pushes : List Posture

/-- What is seen of a call, where the cause of a failed write is told in some way. -/
def Sight.withCause (tell : FileError → FileError) (x : Sight) : Sight :=
  { x with answer := x.answer.withCause tell }

theorem Sight.withCause_id : withCause id = id := by
  funext x
  show { x with answer := x.answer.withCause id } = x
  rw [ControlPlane.Answer.withCause_id]

namespace System

variable {η η' : Type}

/-- What surrounds a control plane before it is assembled. -/
def surroundings (settings : Settings) (gate : Gate) (files : Files) : Surroundings η :=
  { gate, bus? := some (ControlPlane.newBus settings), files, log := [], pushes := []
    alarms := [] }

/-- Builds a system from settings, over some files. -/
def assemble (now : Moment) (ids : RunIds) (settings : Settings) (gate : Gate) (files : Files) :
    Except Error (System η) :=
  let (assembled, signals) := ControlPlane.assemble now ids settings files
  assembled.map fun plane => ⟨plane, (surroundings settings gate files).absorb now signals⟩

/-- The system after a call, whose signals have been carried out. -/
def call (now : Moment) (c : ControlPlane.Call) (w : System η) : System η :=
  let done := c.step now (w.plane, w.around.files)
  ⟨done.state.1, { w.around with files := done.state.2 }.absorb now done.signals⟩

/-- What is seen of a call. -/
def sight (now : Moment) (c : ControlPlane.Call) (w : System η) : Sight :=
  let after := w.call now c
  { answer := (c.step now (w.plane, w.around.files)).answer
    breakers := after.plane.breakers
    recovery := after.plane.recovery
    buffer := after.plane.buffer
    gate := after.around.gate
    pushes := after.around.pushes }

/-- The system after something has been done to its bus. -/
def onBus (a : Aside η) (w : System η) : System η := ⟨w.plane, a.perform w.around⟩

/-- What is seen of the calls among the things that happen, one after the other. -/
def sights (w : System η) : List (Deed η) → List Sight
  | [] => []
  | .call now c :: l => w.sight now c :: sights (w.call now c) l
  | .aside a :: l => sights (w.onBus a) l

/-- The fallback log of the bus is out of the way of the log of the buffer. -/
def IsGuarded (w : System η) : Prop :=
  ∀ path, w.plane.buffer.config.wal = some path →
    ∀ log, w.around.fallback? = some log → Files.IsApart path log

/-- Two systems that no call can tell apart, as far as causes are told. -/
structure Alike (tell : FileError → FileError) (w : System η) (w' : System η') : Prop where
  plane : ∃ s, w'.plane = w.plane.under s
  gate : w'.around.gate = w.around.gate
  pushes : w'.around.pushes = w.around.pushes
  served : w.plane.buffer.IsServed tell w.around.files w'.around.files
  guarded : w.IsGuarded
  guarded' : w'.IsGuarded

variable {tell : FileError → FileError} {w : System η} {w' : System η'}

theorem alike_symm (h : Alike tell w w') : Alike tell w' w := by
  obtain ⟨s, hs⟩ := h.plane
  refine ⟨⟨w.plane.settings, by rw [hs]; rfl⟩, h.gate.symm, h.pushes.symm, ?_, h.guarded',
    h.guarded⟩
  rw [hs]
  exact Buffer.isServed_symm h.served

/-- What leaves the files alone in both systems, and the same gate, neither notices. -/
theorem alike_leaves (h : Alike tell w w') {r : Surroundings η} {r' : Surroundings η'}
    (hl : w.around.Leaves r) (hl' : w'.around.Leaves r') (hg : r'.gate = r.gate)
    (hp : r'.pushes = r.pushes) : Alike tell ⟨w.plane, r⟩ ⟨w'.plane, r'⟩ where
  plane := h.plane
  gate := hg
  pushes := hp
  served := by
    obtain ⟨s, hs⟩ := h.plane
    have hd := Buffer.isServed_of_sameWay h.served (hl.tree h.served.tree) hl.directory
      fun path hw => hl.way path (h.guarded path hw)
    refine Buffer.isServed_symm (Buffer.isServed_of_sameWay (Buffer.isServed_symm hd)
      (hl'.tree h.served.tree') hl'.directory fun path hw => hl'.way path (h.guarded' path ?_))
    rw [hs]
    exact hw
  guarded path hw log hlog := h.guarded path hw log (hl.fallback.symm.trans hlog)
  guarded' path hw log hlog := h.guarded' path hw log (hl'.fallback.symm.trans hlog)

theorem alike_onBus (h : Alike tell w w') (a : Aside η) : Alike tell (w.onBus a) w' := by
  obtain ⟨hg, hp⟩ := a.gate_perform w.around
  exact alike_leaves h (a.leaves_perform w.around) (Surroundings.leaves_of_eq rfl rfl)
    (h.gate.trans hg.symm) (h.pushes.trans hp.symm)

/-- Signals with the same pushes go unnoticed when they are carried out in both systems. -/
theorem alike_absorb (h : Alike tell w w') (now : Moment) {l l' : List Signal}
    (hl : Signal.pushes l' = Signal.pushes l) :
    Alike tell ⟨w.plane, w.around.absorb now l⟩ ⟨w'.plane, w'.around.absorb now l'⟩ := by
  obtain ⟨hg, hp⟩ := w.around.absorb_gate now l
  obtain ⟨hg', hp'⟩ := w'.around.absorb_gate now l'
  refine alike_leaves h (Surroundings.leaves_absorb now l) (Surroundings.leaves_absorb now l') ?_ ?_
  · rw [hg, hg', hl, h.gate]
  · rw [hp, hp', hl, h.pushes]

/-- A call is seen in the same way in both systems, and leaves them alike. -/
theorem alike_call (h : Alike tell w w') (now : Moment) (c : ControlPlane.Call) :
    Alike tell (w.call now c) (w'.call now c) ∧
      (w'.sight now c).withCause tell = (w.sight now c).withCause tell := by
  obtain ⟨s, hs⟩ := h.plane
  have hc := ControlPlane.concurs_call now s h.served c
  rw [← hs] at hc
  have hconfig := ControlPlane.config_call now (w.plane, w.around.files) c
  have hconfig' := ControlPlane.config_call now (w'.plane, w'.around.files) c
  have hdone : Alike tell
      ⟨(c.step now (w.plane, w.around.files)).state.1,
        { w.around with files := (c.step now (w.plane, w.around.files)).state.2 }⟩
      ⟨(c.step now (w'.plane, w'.around.files)).state.1,
        { w'.around with files := (c.step now (w'.plane, w'.around.files)).state.2 }⟩ :=
    { plane := ⟨s, hc.plane⟩
      gate := h.gate
      pushes := h.pushes
      served := hc.served
      guarded := fun path hw => h.guarded path (hconfig ▸ hw)
      guarded' := fun path hw => h.guarded' path (hconfig' ▸ hw) }
  have ha : Alike tell (w.call now c) (w'.call now c) :=
    alike_absorb hdone now (congrArg Signal.pushes hc.signals)
  refine ⟨ha, ?_⟩
  obtain ⟨s', hs'⟩ := ha.plane
  unfold sight Sight.withCause
  dsimp only
  rw [hc.answer, hs', ha.gate, ha.pushes]
  rfl

/-! ## Runs -/

theorem sights_of_calls_nil {l : List (Deed η)} (h : Deed.calls l = []) (w : System η) :
    w.sights l = [] := by
  induction l generalizing w with
  | nil => rfl
  | cons d l ih =>
    cases d with
    | call now c => cases h
    | aside a => exact ih h _

/-- With the same calls, whatever else happens, the same is seen of systems that are alike. -/
theorem sights_of_alike {l : List (Deed η)} {r : List (Deed η')} (hc : Deed.calls l = Deed.calls r)
    (h : Alike tell w w') :
    (w'.sights r).map (Sight.withCause tell) = (w.sights l).map (Sight.withCause tell) := by
  induction l generalizing w w' r with
  | nil => rw [sights_of_calls_nil hc.symm w', sights]
  | cons d l ih =>
    cases d with
    | aside a => exact ih hc (alike_onBus h a)
    | call now c =>
      -- what happens in the other system up to the same call
      induction r generalizing w' with
      | nil => cases hc
      | cons d' r ihr =>
        cases d' with
        | aside a => exact ihr (alike_symm (alike_onBus (alike_symm h) a)) hc
        | call now' c' =>
          obtain ⟨hd, hrest⟩ := List.cons.inj hc
          obtain ⟨rfl, rfl⟩ := Prod.mk.inj hd
          obtain ⟨ha, hs⟩ := alike_call h now c
          rw [sights, sights, List.map_cons, List.map_cons, hs, ih hrest ha]

/-! ## Assembling -/

section
variable {now : Moment} {ids : RunIds} {s : Settings} {bus : BusConfig} {gate : Gate}
  {files files' : Files}

theorem alike_assemble (η η' : Type) (hs : s.check = .ok ()) (hb : { s with bus }.check = .ok ())
    (ht : files.IsTree) (ht' : files'.IsTree)
    (hg : ∀ path, s.buffer.wal = some path → FileError.IsFair tell path)
    (hsame : ∀ path, s.buffer.wal = some path →
      ∀ p ∈ Place.passed path, files.get? p = files'.get? p)
    (hlog : ∀ path, s.buffer.wal = some path → ∀ log, s.bus.fallbackLog = some log →
      Files.IsApart path log)
    (hlog' : ∀ path, s.buffer.wal = some path → ∀ log, bus.fallbackLog = some log →
      Files.IsApart path log) :
    (∃ e, (assemble now ids s gate files : Except Error (System η)) = .error e ∧
      (assemble now ids { s with bus } gate files' : Except Error (System η')) = .error e) ∨
    ∃ (w : System η) (w' : System η'), assemble now ids s gate files = .ok w ∧
      assemble now ids { s with bus } gate files' = .ok w' ∧ Alike tell w w' := by
  unfold assemble ControlPlane.assemble
  rw [hs, hb]
  dsimp only
  rw [Buffer.new_congr hsame]
  cases hn : Buffer.new s.buffer files with
  | mk restored signals =>
    cases restored with
    | error e => exact Or.inl ⟨_, rfl, rfl⟩
    | ok b =>
      right
      have hrestored : (Buffer.new s.buffer files).1 = .ok b := by rw [hn]
      have hconfig := Buffer.config_of_new hrestored
      have hstart : ∀ p : ControlPlane, p.buffer = b →
          Alike tell ⟨p, (surroundings s gate files : Surroundings η)⟩
            ⟨p.under { s with bus },
              (surroundings { s with bus } gate files' : Surroundings η')⟩ := by
        rintro p rfl
        refine ⟨⟨_, rfl⟩, rfl, rfl, Buffer.isServed_new ht ht' hg hsame hrestored, ?_, ?_⟩
        · intro path (hw : p.buffer.config.wal = some path)
          rw [hconfig] at hw
          exact hlog path hw
        · intro path (hw : p.buffer.config.wal = some path)
          rw [hconfig] at hw
          exact hlog' path hw
      refine ⟨_, _, rfl, rfl, alike_absorb (hstart _ rfl) now ?_⟩
      simp only [Signal.pushes_append]
      rfl

/-! ## Pressure -/

/-- What is seen is the same, as far as causes are told that the path of the log leaves open. -/
theorem sights_of_isFair (hs : s.check = .ok ()) (hb : { s with bus }.check = .ok ())
    (ht : files.IsTree) (ht' : files'.IsTree)
    (hg : ∀ path, s.buffer.wal = some path → FileError.IsFair tell path)
    (hsame : ∀ path, s.buffer.wal = some path →
      ∀ p ∈ Place.passed path, files.get? p = files'.get? p)
    (hlog : ∀ path, s.buffer.wal = some path → ∀ log, s.bus.fallbackLog = some log →
      Files.IsApart path log)
    (hlog' : ∀ path, s.buffer.wal = some path → ∀ log, bus.fallbackLog = some log →
      Files.IsApart path log)
    {l : List (Deed η)} {r : List (Deed η')} (hc : Deed.calls l = Deed.calls r) :
    (assemble now ids s gate files).map (fun w => (w.sights l).map (Sight.withCause tell))
      = (assemble now ids { s with bus } gate files').map
          (fun w => (w.sights r).map (Sight.withCause tell)) := by
  rcases alike_assemble η η' hs hb ht ht' hg hsame hlog hlog' with
    ⟨e, he, he'⟩ | ⟨w, w', hw, hw', ha⟩
  · rw [he, he']
    rfl
  · rw [hw, hw', Except.map, Except.map, sights_of_alike hc ha]

/-- Whatever a bus is set to and whatever is done to it, the calls return the same and leave the
same breakers, recovery and write buffer, and the same gate. Neither of the fallback logs and the
log of the buffer is on the way to the other, and at first the files are the same on the way to the
log of the buffer. The only thing that may differ is the cause that a failed write is returned with
where a file stands in the place of a directory, and this only if the path of the log leads back up
behind a name. -/
theorem sights_of_bus (hs : s.check = .ok ()) (hb : { s with bus }.check = .ok ())
    (ht : files.IsTree) (ht' : files'.IsTree)
    (hsame : ∀ path, s.buffer.wal = some path →
      ∀ p ∈ Place.passed path, files.get? p = files'.get? p)
    (hlog : ∀ path, s.buffer.wal = some path → ∀ log, s.bus.fallbackLog = some log →
      Files.IsApart path log)
    (hlog' : ∀ path, s.buffer.wal = some path → ∀ log, bus.fallbackLog = some log →
      Files.IsApart path log)
    {l : List (Deed η)} {r : List (Deed η')} (hc : Deed.calls l = Deed.calls r) :
    (assemble now ids s gate files).map (fun w => (w.sights l).map (Sight.withCause FileError.gist))
      = (assemble now ids { s with bus } gate files').map
          (fun w => (w.sights r).map (Sight.withCause FileError.gist)) ∧
    ((∀ path, s.buffer.wal = some path → Path.IsDirect path) →
      (assemble now ids s gate files).map (·.sights l)
        = (assemble now ids { s with bus } gate files').map (·.sights r)) := by
  refine ⟨sights_of_isFair hs hb ht ht' (fun path _ => FileError.isFair_gist path) hsame hlog
    hlog' hc, fun hdirect => ?_⟩
  have hall : (assemble now ids s gate files).map (fun w => (w.sights l).map (Sight.withCause id))
      = (assemble now ids { s with bus } gate files').map
          (fun w => (w.sights r).map (Sight.withCause id)) :=
    sights_of_isFair hs hb ht ht' (fun path hw => FileError.isFair_id (hdirect path hw)) hsame
      hlog hlog' hc
  simpa only [Sight.withCause_id, List.map_id] using hall

end

/-- A broker that fails once, and a write after it. -/
def sampleDeeds : List (Deed Unit) :=
  [.call ⟨0, .epoch⟩ (.reportFailure .broker),
    .call ⟨0, .epoch⟩ (.write ((Entry.new ⟨0, .epoch⟩ "fill" "7" [("px", .nat 5)]).withSeq 3))]

/-- A bus with room for some events, and a fallback log in a directory. -/
def sampleBus (queueSize : Nat) : BusConfig :=
  { BusConfig.standard with queueSize, fallbackLog := some "a/log" }

/-- Settings under which a single failure of the broker trips its breaker, so that two events are
offered to the bus. -/
def tripAtOnce (wal : String) (queueSize : Nat) : Settings :=
  { Settings.standard with
    initialMode := .normal
    breakers := { Settings.standardBreakers with broker := ⟨1, 60⟩ }
    bus := sampleBus queueSize
    buffer := { BufferConfig.standard with wal := some wal } }

/-- The system with such settings over some files. -/
def opened (wal : String) (queueSize : Nat) (files : Files) : Except Error (System Unit) :=
  assemble ⟨0, .epoch⟩ .counting (tripAtOnce wal queueSize) .idle files

/-- One file. -/
def oneFile : Files := Files.empty.put ["file"] (.file [])

theorem isTree_oneFile : oneFile.IsTree := by
  refine Files.isTree_put Files.isTree_empty (by decide) ?_ _
  rintro q name hq
  cases q with
  | nil => rfl
  | cons first rest => simp at hq

/-- A bus without room for the second event makes the directory that the log of the buffer is to be
in, or that its path leads through. In the first case nobody notices, in the second only who looks
at the cause of the failed write. -/
theorem sights_of_narrow_bus :
    (opened "a/w" 10 .empty).map (·.sights sampleDeeds)
      = (opened "a/w" 1 .empty).map (·.sights (.aside .start :: sampleDeeds)) ∧
    (opened "a/../file/b/w" 10 oneFile).map
        (fun w => (w.sights sampleDeeds).map (Sight.withCause FileError.gist))
      = (opened "a/../file/b/w" 1 oneFile).map
          (fun w => (w.sights sampleDeeds).map (Sight.withCause FileError.gist)) := by
  have hapart : ∀ wal, Files.IsApart wal "a/log" → ∀ queueSize path,
      (tripAtOnce wal 10).buffer.wal = some path →
      ∀ log, (sampleBus queueSize).fallbackLog = some log → Files.IsApart path log := by
    rintro wal ha queueSize path hp log hl
    obtain rfl := Option.some.inj hp
    obtain rfl := Option.some.inj hl
    exact ha
  have hplain := hapart "a/w" ⟨by decide +kernel, by decide +kernel⟩
  have hdetour := hapart "a/../file/b/w" ⟨by decide +kernel, by decide +kernel⟩
  constructor
  · refine (sights_of_bus rfl rfl Files.isTree_empty Files.isTree_empty (fun _ _ _ _ => rfl)
      (hplain 10) (hplain 1) (l := sampleDeeds) (r := .aside .start :: sampleDeeds) rfl).2 ?_
    rintro path hp
    obtain rfl := Option.some.inj hp
    decide +kernel
  · exact (sights_of_bus rfl rfl isTree_oneFile isTree_oneFile (fun _ _ _ _ => rfl) (hdetour 10)
      (hdetour 1) (l := sampleDeeds) (r := sampleDeeds) rfl).1

/-- Why a write has failed. -/
def writeFault? (x : Sight) : Option FileError :=
  match x.answer with
  | .written (.error (.io f)) => some f
  | _ => none

/-- A path that leads through a directory and out of it again is followed further once the
directory is there: what is in the way is then noticed at another step. -/
theorem sights_ne_of_detour :
    (∀ queueSize, (tripAtOnce "a/../file/b/w" (queueSize + 1)).check = .ok ()) ∧
      Files.IsApart "a/../file/b/w" "a/log" ∧ oneFile.IsTree ∧
      (opened "a/../file/b/w" 10 oneFile).map (·.sights sampleDeeds)
        ≠ (opened "a/../file/b/w" 1 oneFile).map (·.sights sampleDeeds) := by
  refine ⟨fun _ => rfl, ⟨by decide +kernel, by decide +kernel⟩, isTree_oneFile, fun h => ?_⟩
  have hf := congrArg (fun x => x.toOption.map fun l => l.map writeFault?) h
  have hwide : ((opened "a/../file/b/w" 10 oneFile).map (·.sights sampleDeeds)).toOption.map
      (fun l => l.map writeFault?) = some [none, some .alreadyExists] := by decide +kernel
  have hnarrow : ((opened "a/../file/b/w" 1 oneFile).map (·.sights sampleDeeds)).toOption.map
      (fun l => l.map writeFault?) = some [none, some .notDirectory] := by decide +kernel
  rw [hwide, hnarrow] at hf
  cases hf

end System

end Failsafe
