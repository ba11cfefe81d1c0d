import Failsafe.Proofs.Service.Calls
/-
  The gate is never behind the state service.

  A reply is what a call of the service answers; `run` makes calls one after the other and keeps
  their replies and signals. A call that makes a transition or sets a stage pushes the mode and
  stage that it leaves, once, and no other call pushes anything (`tells_step`). A stage is present
  exactly while the mode is `recovering`, whoever sets mode and stage (`isStaged_stageIn`). So after
  any calls the gate was last told the mode and stage as they are (`posture_run`).
-/

namespace Failsafe

/-- The same step with another form of its answer. -/
def Step.map (f : α → β) (x : Step σ α) : Step σ β := ⟨f x.answer, x.state, x.signals⟩

/-- A stage is present just while a recovery is in progress. -/
def Posture.IsStaged (p : Posture) : Prop := p.2.isSome = true ↔ p.1 = .recovering

theorem Signal.pushes_append (a b : List Signal) :
    Signal.pushes (a ++ b) = Signal.pushes a ++ Signal.pushes b := List.filterMap_append

namespace Service

/-- The mode and stage. -/
def posture (s : Service) : Posture := (s.mode, s.stage)

/-- What a call of the state service answers. -/
inductive Reply where
  | outcome (o : Outcome)
  | forced (r : Except Refusal Transition)
  | cleared (r : Except Refusal Bool)
  | staged (r : Except Refusal Unit)
  /-- whether the transition that the recovery protocol asks for was made -/
  | made (b : Bool)
  /-- whether an override is in force -/
  | pinned (b : Bool)
  | seen (v : Snapshot)

namespace Reply

/-- A transition was made. -/
def isTransition : Reply → Bool
  | outcome o => o.isApplied
  | forced (.ok _) => true
  | made b => b
  | _ => false

/-- The stage of a recovery was set. -/
def isStaging : Reply → Bool
  | staged (.ok _) => true
  | _ => false

/-- A transition was made or a stage was set. -/
def isChange (r : Reply) : Bool := r.isTransition || r.isStaging

end Reply

/-- A call with its reply and signals. -/
def Call.step (now : Moment) (s : Service) : Call → Step Service Reply
  | .handle e => (s.handle now e).map .outcome
  | .force mode ttlSeconds operator reason =>
    (s.force now mode ttlSeconds operator reason).map .forced
  | .clear operator => (s.clear now operator).map .cleared
  | .setStage stage => (s.setStage stage).map .staged
  | .moveStage source target => (s.moveStage source target).map .staged
  | .complete => (s.complete now).map .made
  | .transition mode stage reason source => (s.transition now mode stage reason source).map .made
  | .refresh => (s.refresh now).map .pinned
  | .snapshot => (s.snapshot now).map .seen

/-- Calls one after the other, each at its own moment: their replies, the service after them and
all their signals. -/
def run (s : Service) : List (Moment × Call) → Step Service (List Reply)
  | [] => ⟨[], s, []⟩
  | c :: calls =>
    let first := c.2.step c.1 s
    let rest := run first.state calls
    ⟨first.answer :: rest.answer, rest.state, first.signals ++ rest.signals⟩

/-! ## One call -/

section
variable (now : Moment) (s : Service)

@[simp] theorem pushes_refresh : Signal.pushes (s.refresh now).signals = [] := by
  unfold refresh
  split
  · rfl
  · split <;> rfl

@[simp] theorem posture_refresh : (s.refresh now).state.posture = s.posture := by
  rw [posture, refresh_mode, refresh_stage, posture]

theorem isStaged_stageIn (mode : Mode) (stage : Option Stage) :
    Posture.IsStaged (mode, stageIn mode stage) := by
  unfold Posture.IsStaged stageIn
  split
  · next h => exact ⟨fun _ => h, fun _ => rfl⟩
  · next h => simpa using h

/-- What a step tells the gate: the mode and stage after it if it changed them, or nothing, and
then they are as they were. -/
structure Tells {α : Type} (s : Service) (x : Step Service α) (changes : Bool) : Prop where
  pushed : Signal.pushes x.signals = if changes then [x.state.posture] else []
  unchanged : changes = false → x.state.posture = s.posture
  staged : Posture.IsStaged s.posture → Posture.IsStaged x.state.posture

variable {now s}

/-- A step that pushes nothing leaves mode and stage alone. -/
theorem tells_nothing {α : Type} {x : Step Service α} (hp : Signal.pushes x.signals = [])
    (hs : x.state.posture = s.posture) : Tells s x false :=
  ⟨hp, fun _ => hs, fun h => by rw [hs]; exact h⟩

/-- A step that pushes the mode and stage after it keeps the gate informed. -/
theorem tells_posture {α : Type} {x : Step Service α}
    (hp : Signal.pushes x.signals = [x.state.posture]) (hs : Posture.IsStaged x.state.posture) :
    Tells s x true :=
  ⟨hp, fun h => Bool.noConfusion h, fun _ => hs⟩

theorem tells_map {α β : Type} {f : α → β} {x : Step Service α} {changes : Bool}
    (h : Tells s x changes) : Tells s (x.map f) changes :=
  ⟨h.pushed, h.unchanged, h.staged⟩

theorem tells_refresh : Tells s (s.refresh now) false :=
  tells_nothing (pushes_refresh now s) (posture_refresh now s)

/-- A call that is turned down has at most forgotten an override. -/
theorem tells_refused {α : Type} {a : α} {l : List Signal} (hl : Signal.pushes l = []) :
    Tells s ⟨a, (s.refresh now).state, (s.refresh now).signals ++ l⟩ false := by
  refine tells_nothing ?_ (posture_refresh now s)
  rw [Signal.pushes_append, pushes_refresh, hl]
  rfl

/-- A transition is pushed. -/
theorem tells_apply {α : Type} {a : α} {r : Request} (hr : Posture.IsStaged (r.mode, r.stage)) :
    Tells s ⟨a, ((s.refresh now).state.apply now r).state,
      (s.refresh now).signals ++ ((s.refresh now).state.apply now r).signals⟩ true := by
  refine tells_posture ?_ hr
  rw [Signal.pushes_append, pushes_refresh]
  rfl

theorem tells_handle (e : Event) :
    Tells s (s.handle now e) (s.handle now e).answer.isApplied := by
  unfold handle
  dsimp only
  split
  · exact tells_refused rfl
  split
  · exact tells_refused rfl
  · exact tells_apply (isStaged_stageIn _ _)

theorem tells_force (mode : Mode) (ttlSeconds : Nat) (operator reason : String) :
    Tells s (s.force now mode ttlSeconds operator reason)
      (Reply.forced (s.force now mode ttlSeconds operator reason).answer).isTransition := by
  unfold force
  split
  · exact tells_nothing rfl rfl
  split
  · exact tells_nothing rfl rfl
  split
  · exact tells_nothing rfl rfl
  · refine tells_posture ?_ (isStaged_stageIn _ _)
    -- the override that is replaced is only logged
    cases s.override? <;> rfl

theorem tells_clear (operator : String) : Tells s (s.clear now operator) false := by
  unfold clear
  split
  · exact tells_nothing rfl rfl
  · dsimp only
    split
    · refine tells_nothing ?_ (posture_refresh now s)
      rw [Signal.pushes_append, pushes_refresh]
      rfl
    · exact tells_nothing (pushes_refresh now s) (posture_refresh now s)

theorem tells_setStage (stage : Stage) :
    Tells s (s.setStage stage) (Reply.staged (s.setStage stage).answer).isStaging := by
  unfold setStage
  split
  · exact tells_nothing rfl rfl
  · next hm =>
    rw [Decidable.not_not] at hm
    exact tells_posture rfl ⟨fun _ => hm, fun _ => rfl⟩

theorem tells_moveStage (source target : Stage) :
    Tells s (s.moveStage source target)
      (Reply.staged (s.moveStage source target).answer).isStaging := by
  unfold moveStage
  split
  · exact tells_nothing rfl rfl
  · next h =>
    rw [not_or, Decidable.not_not] at h
    exact tells_posture rfl ⟨fun _ => h.1, fun _ => rfl⟩

theorem tells_complete : Tells s (s.complete now) (s.complete now).answer := by
  unfold complete
  dsimp only
  split
  · exact tells_refused rfl
  split
  · exact tells_refused rfl
  · exact tells_apply (isStaged_stageIn .normal none)

theorem tells_transition (mode : Mode) (stage : Option Stage) (reason : Reason)
    (source : Source) :
    Tells s (s.transition now mode stage reason source)
      (s.transition now mode stage reason source).answer := by
  unfold transition
  dsimp only
  split
  · exact tells_refused rfl
  · exact tells_apply (isStaged_stageIn _ _)

/-- Just the calls that make a transition or set a stage are pushed. -/
theorem tells_step (c : Call) : Tells s (c.step now s) (c.step now s).answer.isChange := by
  cases c with
  | handle e =>
    show Tells s _ (_ || false)
    rw [Bool.or_false]
    exact tells_map (tells_handle e)
  | force mode ttlSeconds operator reason =>
    show Tells s _ (_ || false)
    rw [Bool.or_false]
    exact tells_map (tells_force mode ttlSeconds operator reason)
  | clear operator => exact tells_map (tells_clear operator)
  | setStage stage => exact tells_map (tells_setStage stage)
  | moveStage source target => exact tells_map (tells_moveStage source target)
  | complete =>
    show Tells s _ (_ || false)
    rw [Bool.or_false]
    exact tells_map tells_complete
  | transition mode stage reason source =>
    show Tells s _ (_ || false)
    rw [Bool.or_false]
    exact tells_map (tells_transition mode stage reason source)
  | refresh => exact tells_map tells_refresh
  | snapshot => exact tells_nothing (pushes_refresh now s) (posture_refresh now s)

end

/-! ## Many calls -/

/-- The calls among the replies that make a transition or set a stage, each counted once. -/
theorem countP_isChange (l : List Reply) :
    l.countP Reply.isChange = l.countP Reply.isTransition + l.countP Reply.isStaging := by
  induction l with
  | nil => rfl
  | cons r l ih =>
    rw [List.countP_cons, List.countP_cons, List.countP_cons, ih, Reply.isChange]
    have hr : r.isTransition = false ∨ r.isStaging = false := by
      cases r with
      | staged r => exact Or.inl rfl
      | _ => exact Or.inr rfl
    rcases hr with h | h
    · rw [h, Bool.false_or]
      simp only [Bool.false_eq_true, if_false]
      omega
    · rw [h, Bool.or_false]
      simp only [Bool.false_eq_true, if_false]
      omega

/-- What any calls push: one posture for each change, each with a stage just while a recovery is
in progress, and the last of them is the one that they leave. -/
theorem pushes_run (s : Service) (hs : Posture.IsStaged s.posture) (calls : List (Moment × Call)) :
    Posture.IsStaged (s.run calls).state.posture ∧
    (s.posture :: Signal.pushes (s.run calls).signals).getLast? = some (s.run calls).state.posture ∧
    (∀ p ∈ Signal.pushes (s.run calls).signals, Posture.IsStaged p) ∧
    (Signal.pushes (s.run calls).signals).length = (s.run calls).answer.countP Reply.isChange := by
  induction calls generalizing s with
  | nil => exact ⟨hs, rfl, by simp [run, Signal.pushes], rfl⟩
  | cons c calls ih =>
    have ht : Tells s (c.2.step c.1 s) (c.2.step c.1 s).answer.isChange := tells_step c.2
    obtain ⟨hstaged, hlast, hall, hcount⟩ := ih (c.2.step c.1 s).state (ht.staged hs)
    unfold run
    dsimp only
    rw [Signal.pushes_append, ht.pushed, List.countP_cons]
    cases hc : (c.2.step c.1 s).answer.isChange with
    | false =>
      rw [ht.unchanged hc] at hlast
      simp only [Bool.false_eq_true, if_false, List.nil_append, Nat.add_zero]
      exact ⟨hstaged, hlast, hall, hcount⟩
    | true =>
      simp only [if_true, List.singleton_append]
      refine ⟨hstaged, ?_, ?_, ?_⟩
      · rw [List.getLast?_cons_cons]
        exact hlast
      · intro p hp
        rcases List.mem_cons.mp hp with rfl | hp
        · exact ht.staged hs
        · exact hall p hp
      · rw [List.length_cons, hcount]

/-- From its creation on, whatever is called, a stage is present just while the mode is
`recovering`; the gate was last told the mode and stage as they are, was never told anything else
than such a pair, and was told once at the creation and once for each transition and each stage
that was set. -/
theorem posture_run (now : Moment) (mode : Mode) (calls : List (Moment × Call)) :
    let opened := Service.new now mode
    let done := opened.state.run calls
    let pushes := Signal.pushes (opened.signals ++ done.signals)
    (done.state.stage.isSome = true ↔ done.state.mode = .recovering) ∧
    pushes.getLast? = some (done.state.mode, done.state.stage) ∧
    (∀ p ∈ pushes, p.2.isSome = true ↔ p.1 = .recovering) ∧
    pushes.length
      = 1 + done.answer.countP Reply.isTransition + done.answer.countP Reply.isStaging ∧
    ∀ (now' : Moment) (c : Call), Signal.pushes (c.step now' done.state).signals
      = if (c.step now' done.state).answer.isTransition || (c.step now' done.state).answer.isStaging
        then [((c.step now' done.state).state.mode, (c.step now' done.state).state.stage)]
        else [] := by
  intro opened done pushes
  have hnew : Posture.IsStaged opened.state.posture := isStaged_stageIn mode none
  obtain ⟨hstaged, hlast, hall, hcount⟩ := pushes_run opened.state hnew calls
  have hp : pushes = opened.state.posture :: Signal.pushes done.signals :=
    Signal.pushes_append _ _
  refine ⟨hstaged, ?_, ?_, ?_, fun now' c => (tells_step c).pushed⟩
  · rw [hp]
    exact hlast
  · intro p hm
    rw [hp] at hm
    rcases List.mem_cons.mp hm with rfl | hm
    · exact hnew
    · exact hall p hm
  · have hc : (Signal.pushes done.signals).length
        = done.answer.countP Reply.isTransition + done.answer.countP Reply.isStaging :=
      hcount.trans (countP_isChange _)
    rw [hp, List.length_cons, hc]
    omega

end Service

end Failsafe
