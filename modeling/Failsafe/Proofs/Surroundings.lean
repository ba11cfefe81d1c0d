import Failsafe.Surroundings
import Failsafe.Proofs.Service.Postures
import Failsafe.Proofs.Tree
/-
  What becomes of the gate and of the files.

  Of all signals only pushes reach the gate. So what is pushed decides what the gate shows, and the
  pushes so far are those of the signals so far. The files are reached by dropped events alone,
  through the fallback log, which leaves the way to other files as it is (`leaves_absorb`).
-/

namespace Failsafe

namespace Gate

/-- The gate after some pushes. -/
def pushAll (g : Gate) (l : List Posture) : Gate := l.foldl (fun g p => (g.push p).1) g

theorem pushAll_append (g : Gate) (l l' : List Posture) :
    g.pushAll (l ++ l') = (g.pushAll l).pushAll l' := List.foldl_append

/-- A gate that is watched shows what was pushed last. -/
theorem current?_pushAll (g : Gate) (l : List Posture) :
    (g.pushAll l).current? = g.current?.map fun p => (p :: l).getLast (List.cons_ne_nil p l) := by
  induction l generalizing g with
  | nil => cases g <;> rfl
  | cons q l ih =>
    show ((g.push q).1.pushAll l).current? = _
    rw [ih]
    cases g with
    | idle => rfl
    | watched p version => rfl

end Gate

namespace Bus

variable {η : Type} (b : Bus η)

theorem writeFallback_of_none (h : b.config.fallbackLog = none) (now : Moment) (e : Event)
    (files : Files) : (b.writeFallback now e files).1 = files := by
  unfold writeFallback
  rw [h]

/-- The files after a drop are what the append to the fallback log leaves, done or not. -/
theorem files_writeFallback {path : String} (h : b.config.fallbackLog = some path) (now : Moment)
    (e : Event) (files : Files) : (b.writeFallback now e files).1
      = (files.appendMaking path (Bytes.encode (fallbackLine now e).toList)).files := by
  unfold writeFallback
  rw [h]
  dsimp only
  split <;> next ha => rw [ha]; rfl

end Bus

namespace Surroundings

variable {η : Type} (now : Moment) (s : Surroundings η)

theorem publish_gate (e : Event) :
    (s.publish now e).1.gate = s.gate ∧ (s.publish now e).1.pushes = s.pushes := by
  unfold publish
  split <;> exact ⟨rfl, rfl⟩

/-- One signal reaches the gate if it is a push. -/
theorem absorbOne_gate (x : Signal) :
    (s.absorbOne now x).gate = s.gate.pushAll (Signal.pushes [x]) ∧
      (s.absorbOne now x).pushes = s.pushes ++ Signal.pushes [x] := by
  cases x with
  | log r => exact ⟨rfl, (List.append_nil _).symm⟩
  | push p => exact ⟨rfl, rfl⟩
  | offer e ifDropped =>
    obtain ⟨hg, hp⟩ := publish_gate now s e
    unfold absorbOne
    dsimp only
    split
    · exact ⟨hg, hp.trans (List.append_nil _).symm⟩
    · exact ⟨hg, hp.trans (List.append_nil _).symm⟩

/-- Signals change the gate by their pushes alone. -/
theorem absorb_gate (l : List Signal) :
    (s.absorb now l).gate = s.gate.pushAll (Signal.pushes l) ∧
      (s.absorb now l).pushes = s.pushes ++ Signal.pushes l := by
  induction l generalizing s with
  | nil => exact ⟨rfl, (List.append_nil _).symm⟩
  | cons x l ih =>
    obtain ⟨hg, hp⟩ := absorbOne_gate now s x
    obtain ⟨hg', hp'⟩ := ih (s.absorbOne now x)
    have hx : Signal.pushes (x :: l) = Signal.pushes [x] ++ Signal.pushes l :=
      Signal.pushes_append [x] l
    constructor
    · rw [hx, Gate.pushAll_append, ← hg]
      exact hg'
    · rw [hx, ← List.append_assoc, ← hp]
      exact hp'

/-! ## The files -/

/-- The path of the fallback log, if the bus has one. -/
def fallback? : Option String := s.bus?.bind fun bus => bus.config.fallbackLog

/-- Nothing happens to the files but to the fallback log, whose path stays the same, and to the
directories above it. -/
structure Leaves (s s' : Surroundings η) : Prop where
  fallback : s'.fallback? = s.fallback?
  tree : s.files.IsTree → s'.files.IsTree
  directory : ∀ p, s.files.get? p = some .directory → s'.files.get? p = some .directory
  way : ∀ path, (∀ log, s.fallback? = some log → Files.IsApart path log) →
    Files.SameWay path s.files s'.files

variable {s}

theorem leaves_of_eq {s' : Surroundings η} (hb : s'.fallback? = s.fallback?)
    (hf : s'.files = s.files) : Leaves s s' where
  fallback := hb
  tree h := hf ▸ h
  directory _ h := hf ▸ h
  way path _ := hf ▸ Files.sameWay_refl path s'.files

theorem leaves_trans {s' s'' : Surroundings η} (h : Leaves s s') (h' : Leaves s' s'') :
    Leaves s s'' where
  fallback := h'.fallback.trans h.fallback
  tree ht := h'.tree (h.tree ht)
  directory p hd := h'.directory p (h.directory p hd)
  way path hp := Files.sameWay_trans (h.way path hp)
    (h'.way path fun log hl => hp log (h.fallback.symm.trans hl))

/-- What is done to a bus that keeps its configuration. -/
theorem leaves_onBus {f : Bus η → Bus η × List Log.Record} (hf : ∀ b, (f b).1.config = b.config) :
    Leaves s (s.onBus f) := by
  unfold onBus
  split
  · exact leaves_of_eq rfl rfl
  · next bus hb =>
    refine leaves_of_eq ?_ rfl
    rw [fallback?, fallback?, hb]
    exact congrArg BusConfig.fallbackLog (hf bus)

/-- A drop leaves of the files what the append to the fallback log leaves. -/
theorem leaves_of_drop {s' : Surroundings η} {bus : Bus η} (hb : s.bus? = some bus) (e : Event)
    (hs : s'.fallback? = bus.config.fallbackLog)
    (hf : s'.files = (bus.writeFallback now e s.files).1) : Leaves s s' := by
  have hl : s.fallback? = bus.config.fallbackLog := by
    rw [fallback?, hb]
    rfl
  cases hlog : bus.config.fallbackLog with
  | none =>
    have hleft := hf.trans (bus.writeFallback_of_none hlog now e s.files)
    exact leaves_of_eq (hs.trans hl.symm) hleft
  | some log =>
    have hleft := hf.trans (bus.files_writeFallback hlog now e s.files)
    refine ⟨hs.trans hl.symm, fun ht => ?_, fun p hd => ?_, fun path hp => ?_⟩
    · rw [hleft]
      exact Files.isTree_appendMaking ht log _
    · rw [hleft]
      exact Files.directory_appendMaking hd log _
    · rw [hleft]
      exact Files.sameWay_appendMaking (hp log (hl.trans hlog)) s.files _

theorem leaves_publish (e : Event) : Leaves s (s.publish now e).1 := by
  unfold publish
  split
  · exact leaves_of_eq rfl rfl
  next bus hb =>
  unfold Bus.publish
  split
  · refine leaves_of_eq ?_ rfl
    rw [fallback?, fallback?, hb]
    rfl
  · exact leaves_of_drop now hb e rfl rfl

theorem leaves_absorbOne (x : Signal) : Leaves s (s.absorbOne now x) := by
  cases x with
  | log r => exact leaves_of_eq rfl rfl
  | push p => exact leaves_of_eq rfl rfl
  | offer e ifDropped =>
    have hp := leaves_publish now (s := s) e
    unfold absorbOne
    dsimp only
    split
    · exact leaves_trans hp (leaves_of_eq rfl rfl)
    · exact hp

theorem leaves_absorb (l : List Signal) : Leaves s (s.absorb now l) := by
  induction l generalizing s with
  | nil => exact leaves_of_eq rfl rfl
  | cons x l ih => exact leaves_trans (leaves_absorbOne now x) ih

end Surroundings

end Failsafe
