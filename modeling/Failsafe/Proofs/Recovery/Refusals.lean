import Failsafe.Surroundings
import Failsafe.Proofs.Outline.Recovery
import Failsafe.Proofs.Service.Overrides
/-
  What is refused leaves no trace.

  A call of the state service, or an action of the recovery protocol, that is turned down at any of
  its checks changes nothing, except that an override whose time had passed may have been forgotten
  on the way (`Service.Keeps`), and sends nothing but log records (`Signal.IsQuiet`). This holds for
  each half of an advance by itself, so also for an advance that fails after others have acted
  between its halves. All refusals are gathered in `spares_of_isVain`.
-/

namespace Failsafe

/-! ## Signals that only log -/

namespace Signal

/-- Nothing is pushed to the gate and nothing is offered to the bus. -/
def IsQuiet (l : List Signal) : Prop := ∀ x ∈ l, ∃ r, x = .log r

theorem isQuiet_nil : IsQuiet [] := fun _ hx => nomatch hx

theorem isQuiet_log (r : Log.Record) : IsQuiet [.log r] := by
  intro x hx
  exact ⟨r, List.mem_singleton.mp hx⟩

theorem isQuiet_append {a b : List Signal} (ha : IsQuiet a) (hb : IsQuiet b) :
    IsQuiet (a ++ b) := by
  intro x hx
  rcases List.mem_append.mp hx with hx | hx
  · exact ha x hx
  · exact hb x hx

theorem pushes_of_isQuiet {l : List Signal} (h : IsQuiet l) : pushes l = [] := by
  refine List.filterMap_eq_nil_iff.mpr fun x hx => ?_
  obtain ⟨r, rfl⟩ := h x hx
  rfl

theorem offers_of_isQuiet {l : List Signal} (h : IsQuiet l) : offers l = [] := by
  refine List.filterMap_eq_nil_iff.mpr fun x hx => ?_
  obtain ⟨r, rfl⟩ := h x hx
  rfl

end Signal

/-- Outside the log such signals change nothing. -/
theorem Surroundings.absorb_of_isQuiet {η : Type} (now : Moment) (w : Surroundings η)
    {l : List Signal} (h : Signal.IsQuiet l) : ∃ records, w.absorb now l = w.record records := by
  induction l generalizing w with
  | nil =>
    refine ⟨[], ?_⟩
    unfold absorb record
    rw [List.foldl_nil, List.append_nil]
  | cons x l ih =>
    obtain ⟨r, rfl⟩ := h x List.mem_cons_self
    obtain ⟨records, hl⟩ := ih (w.record [r]) fun y hy => h y (List.mem_cons_of_mem _ hy)
    refine ⟨r :: records, ?_⟩
    show (w.record [r]).absorb now l = _
    rw [hl]
    unfold record
    rw [List.append_assoc]
    rfl

/-! ## The state service -/

namespace Service

/-- Nothing has changed, except that an override whose time had passed may be forgotten. -/
def Keeps (now : Moment) (s s' : Service) : Prop :=
  s' = s ∨ ∃ o, s.override? = some o ∧ o.isExpired now.steady = true ∧ s' = s.released

/-- The call was turned down, or there was nothing for it to end. -/
def Reply.isRefusal : Reply → Bool
  | outcome o => !o.isApplied
  | forced (.error _) | cleared (.error _) | cleared (.ok false) | staged (.error _) => true
  | made b => !b
  | _ => false

/-- A step that comes to nothing. -/
structure Spares {α : Type} (now : Moment) (s : Service) (x : Step Service α) : Prop where
  state : Keeps now s x.state
  quiet : Signal.IsQuiet x.signals

section
variable {now : Moment} {s : Service}

theorem keeps_refresh : Keeps now s (s.refresh now).state := by
  unfold refresh
  cases ho : s.override? with
  | none => exact Or.inl rfl
  | some o =>
    dsimp only
    split
    · next he => exact Or.inr ⟨o, ho, he, rfl⟩
    · exact Or.inl rfl

theorem isQuiet_refresh : Signal.IsQuiet (s.refresh now).signals := by
  unfold refresh
  split
  · exact Signal.isQuiet_nil
  · split
    · exact Signal.isQuiet_log _
    · exact Signal.isQuiet_nil

theorem spares_map {α β : Type} {f : α → β} {x : Step Service α} (h : Spares now s x) :
    Spares now s (x.map f) := ⟨h.state, h.quiet⟩

/-- Turned down before anything was looked at. -/
theorem spares_self {α : Type} (a : α) : Spares now s ⟨a, s, []⟩ :=
  ⟨Or.inl rfl, Signal.isQuiet_nil⟩

/-- Turned down with a log record, once it was known whether an override is in force. -/
theorem spares_refused {α : Type} (a : α) (r : Log.Record) :
    Spares now s ⟨a, (s.refresh now).state, (s.refresh now).signals ++ [.log r]⟩ :=
  ⟨keeps_refresh, Signal.isQuiet_append isQuiet_refresh (Signal.isQuiet_log r)⟩

theorem spares_handle {e : Event} (h : (s.handle now e).answer.isApplied = false) :
    Spares now s (s.handle now e) := by
  unfold handle at h ⊢
  dsimp only at h ⊢
  split
  · exact spares_refused _ _
  · next hf =>
    rw [if_neg hf] at h
    split
    · exact spares_refused _ _
    · next hb =>
      rw [if_neg hb] at h
      cases h

theorem spares_force {mode : Mode} {ttlSeconds : Nat} {operator reason : String} {f : Refusal}
    (h : (s.force now mode ttlSeconds operator reason).answer = .error f) :
    Spares now s (s.force now mode ttlSeconds operator reason) := by
  unfold force at h ⊢
  split
  · exact spares_self _
  split
  · exact spares_self _
  split
  · exact spares_self _
  · next ho hr ht =>
    rw [if_neg ho, if_neg hr, if_neg ht] at h
    cases h

theorem spares_clear {operator : String} (h : (s.clear now operator).answer ≠ .ok true) :
    Spares now s (s.clear now operator) := by
  unfold clear at h ⊢
  split
  · exact spares_self _
  · next ho =>
    rw [if_neg ho] at h
    dsimp only at h ⊢
    split
    · next ha ho' =>
      rw [ha, ho'] at h
      exact absurd rfl h
    · exact ⟨keeps_refresh, isQuiet_refresh⟩

theorem spares_setStage {stage : Stage} {f : Refusal}
    (h : (s.setStage stage).answer = .error f) : Spares now s (s.setStage stage) := by
  unfold setStage at h ⊢
  split
  · exact spares_self _
  · next hm =>
    rw [if_neg hm] at h
    cases h

theorem spares_moveStage {source target : Stage} {f : Refusal}
    (h : (s.moveStage source target).answer = .error f) :
    Spares now s (s.moveStage source target) := by
  unfold moveStage at h ⊢
  split
  · exact spares_self _
  · next hm =>
    rw [if_neg hm] at h
    cases h

theorem spares_complete (h : (s.complete now).answer = false) :
    Spares now s (s.complete now) := by
  unfold complete at h ⊢
  dsimp only at h ⊢
  split
  · exact spares_refused _ _
  · next hf =>
    rw [if_neg hf] at h
    split
    · exact spares_refused _ _
    · next hm =>
      rw [if_neg hm] at h
      cases h

theorem spares_transition {mode : Mode} {stage : Option Stage} {reason : Reason} {source : Source}
    (h : (s.transition now mode stage reason source).answer = false) :
    Spares now s (s.transition now mode stage reason source) := by
  unfold transition at h ⊢
  dsimp only at h ⊢
  split
  · exact spares_refused _ _
  · next hf =>
    rw [if_neg hf] at h
    cases h

/-- A call that is turned down comes to nothing. -/
theorem spares_step {c : Call} (h : (c.step now s).answer.isRefusal = true) :
    Spares now s (c.step now s) := by
  cases c with
  | handle e =>
    rw [Call.step, Step.map, Reply.isRefusal, Bool.not_eq_true'] at h
    exact spares_map (spares_handle h)
  | force mode ttlSeconds operator reason =>
    cases ha : (s.force now mode ttlSeconds operator reason).answer with
    | error f => exact spares_map (spares_force ha)
    | ok t =>
      rw [Call.step, Step.map, ha] at h
      cases h
  | clear operator =>
    refine spares_map (spares_clear fun ha => ?_)
    rw [Call.step, Step.map, ha] at h
    cases h
  | setStage stage =>
    cases ha : (s.setStage stage).answer with
    | error f => exact spares_map (spares_setStage ha)
    | ok u =>
      rw [Call.step, Step.map, ha] at h
      cases h
  | moveStage source target =>
    cases ha : (s.moveStage source target).answer with
    | error f => exact spares_map (spares_moveStage ha)
    | ok u =>
      rw [Call.step, Step.map, ha] at h
      cases h
  | complete =>
    rw [Call.step, Step.map, Reply.isRefusal, Bool.not_eq_true'] at h
    exact spares_map (spares_complete h)
  | transition mode stage reason source =>
    rw [Call.step, Step.map, Reply.isRefusal, Bool.not_eq_true'] at h
    exact spares_map (spares_transition h)
  | refresh => cases h
  | snapshot => cases h

end

end Service

/-! ## The recovery protocol -/

namespace Recovery

open Service (Keeps)

/-- The action is turned down, or is the first half of an advance, which only looks. -/
def Action.isVain (now : Moment) (r : Recovery) : Action → Bool
  | start trigger operator =>
    match (r.start now trigger operator).answer with
    | .error _ => true
    | .ok _ => false
  | begin _ => true
  | commit t verdict => !(r.commit now t.id t.stage verdict).answer
  | abort id reason => !(r.abort now id reason).answer
  | call c => (c.step now r.service).answer.isRefusal

/-- A step of the protocol that comes to nothing. -/
structure Spares {α : Type} (now : Moment) (r : Recovery) (x : Step Recovery α) : Prop where
  state : ∃ s, x.state = { r with service := s } ∧ Keeps now r.service s
  quiet : Signal.IsQuiet x.signals

section
variable {now : Moment} {r : Recovery}

/-- Turned down before the service was asked. -/
theorem spares_self {α : Type} (a : α) {l : List Signal} (hl : Signal.IsQuiet l) :
    Spares now r ⟨a, r, l⟩ :=
  ⟨⟨r.service, rfl, Or.inl rfl⟩, hl⟩

/-- Turned down by the service. -/
theorem spares_service {α β : Type} (a : α) {x : Step Service β}
    (h : Service.Spares now r.service x) :
    Spares now r ⟨a, { r with service := x.state }, x.signals⟩ :=
  ⟨⟨x.state, rfl, h.state⟩, h.quiet⟩

theorem spares_start {trigger : Trigger} {operator : Option String} {f : Refusal}
    (h : (r.start now trigger operator).answer = .error f) :
    Spares now r (r.start now trigger operator) := by
  unfold start at h ⊢
  split
  · exact spares_self _ Signal.isQuiet_nil
  · next ho =>
    rw [if_neg ho] at h
    dsimp only at h ⊢
    split
    · next ha => exact spares_service _ (Service.spares_transition (by simpa using ha))
    · next ha =>
      rw [if_neg ha] at h
      cases h

/-- The first half of an advance comes to nothing, whatever it finds. -/
theorem spares_begin (id : RunId) : Spares now r (r.begin now id) := by
  unfold begin
  split
  · exact spares_self _ (Signal.isQuiet_log _)
  split
  · exact spares_self _ (Signal.isQuiet_log _)
  split
  · exact spares_self _ (Signal.isQuiet_log _)
  · exact spares_self _ Signal.isQuiet_nil

theorem spares_moveOn {run : Run} {next : Stage} (h : (r.moveOn now run next).answer = false) :
    Spares now r (r.moveOn now run next) := by
  unfold moveOn at h ⊢
  dsimp only at h ⊢
  cases ha : (r.service.moveStage run.stage next).answer with
  | error f =>
    have hs : Service.Spares now r.service (r.service.moveStage run.stage next) :=
      Service.spares_moveStage ha
    exact ⟨⟨_, rfl, hs.state⟩, Signal.isQuiet_append hs.quiet (Signal.isQuiet_log _)⟩
  | ok u =>
    rw [ha] at h
    cases h

theorem spares_finish {run : Run} (h : (r.finish now run).answer = false) :
    Spares now r (r.finish now run) := by
  unfold finish at h ⊢
  dsimp only at h ⊢
  split
  · next ha => exact spares_service _ (Service.spares_complete (by simpa using ha))
  · next ha =>
    rw [if_neg ha] at h
    cases h

theorem isQuiet_failureSignals (id : RunId) (stage : Stage) (verdict : Verdict) :
    Signal.IsQuiet (failureSignals id stage verdict) := by
  cases verdict with
  | passed => exact Signal.isQuiet_nil
  | failed => exact Signal.isQuiet_log _
  | broken reason => exact Signal.isQuiet_append (Signal.isQuiet_log _) (Signal.isQuiet_log _)

/-- The second half of an advance comes to nothing when the check was not passed, the run is no
longer where it was checked, or the service does not go along. -/
theorem spares_commit {id : RunId} {stage : Stage} {verdict : Verdict}
    (h : (r.commit now id stage verdict).answer = false) :
    Spares now r (r.commit now id stage verdict) := by
  unfold commit at h ⊢
  split
  · exact spares_self _ (isQuiet_failureSignals id stage verdict)
  · next hv =>
    rw [if_neg hv] at h
    dsimp only at h ⊢
    cases hr : r.run? with
    | none => exact spares_self _ (Signal.isQuiet_log _)
    | some run =>
      rw [hr] at h
      dsimp only at h ⊢
      split
      · exact spares_self _ (Signal.isQuiet_log _)
      · next hid =>
        rw [if_neg hid] at h
        cases hn : stage.next with
        | some next =>
          rw [hn] at h
          exact spares_moveOn h
        | none =>
          rw [hn] at h
          exact spares_finish h

theorem spares_abort {id : RunId} {reason : String}
    (h : (r.abort now id reason).answer = false) : Spares now r (r.abort now id reason) := by
  unfold abort at h ⊢
  dsimp only at h ⊢
  cases hr : r.run? with
  | none => exact spares_self _ (Signal.isQuiet_log _)
  | some run =>
    rw [hr] at h
    dsimp only at h ⊢
    split
    · exact spares_self _ (Signal.isQuiet_log _)
    · next hid =>
      rw [if_neg hid] at h
      cases h

/-- An action that comes to nothing, with the signals it sends. -/
theorem spares_perform {a : Action} (h : a.isVain now r = true) :
    Spares now r ⟨(), a.perform now r, a.signals now r⟩ := by
  cases a with
  | start trigger operator =>
    cases ha : (r.start now trigger operator).answer with
    | error f => exact ⟨(spares_start ha).state, (spares_start ha).quiet⟩
    | ok id =>
      rw [Action.isVain, ha] at h
      cases h
  | begin id => exact ⟨(spares_begin id).state, (spares_begin id).quiet⟩
  | commit t verdict =>
    rw [Action.isVain, Bool.not_eq_true'] at h
    exact ⟨(spares_commit h).state, (spares_commit h).quiet⟩
  | abort id reason =>
    rw [Action.isVain, Bool.not_eq_true'] at h
    exact ⟨(spares_abort h).state, (spares_abort h).quiet⟩
  | call c =>
    have hc : Service.Spares now r.service (c.step now r.service) := Service.spares_step h
    refine ⟨⟨(c.step now r.service).state, ?_, hc.state⟩, hc.quiet⟩
    cases c <;> rfl

end

/-- An action of any kind that is turned down, and the first half of an advance, leave mode, stage,
history, run and numbering as they were, and the override too unless its time had passed; nothing is
pushed to the gate or offered to the bus, and nothing around changes but the log. -/
theorem spares_of_isVain {η : Type} {now : Moment} {r : Recovery} {a : Action}
    (h : a.isVain now r = true) (w : Surroundings η) :
    (a.perform now r = r ∨ ∃ o, r.service.override? = some o ∧ o.isExpired now.steady = true ∧
      a.perform now r = { r with service := { r.service with override? := none } }) ∧
    Signal.pushes (a.signals now r) = [] ∧ Signal.offers (a.signals now r) = [] ∧
    ∃ records, w.absorb now (a.signals now r) = w.record records := by
  obtain ⟨⟨s, hs, hk⟩, hq⟩ := spares_perform h
  refine ⟨?_, Signal.pushes_of_isQuiet hq, Signal.offers_of_isQuiet hq,
    w.absorb_of_isQuiet now hq⟩
  rcases hk with rfl | ⟨o, ho, he, rfl⟩
  · exact Or.inl hs
  · exact Or.inr ⟨o, ho, he, hs⟩

/-- A system that an operator halted for a second when it was created. -/
def halted : Recovery :=
  let now : Moment := ⟨0, .epoch⟩
  .new ((Service.new now .normal).state.force now .halt 1 "ops" "drill").state .standard .counting

/-- A late report of stale data does not move the halted system, whose override is forgotten. -/
theorem spares_halted :
    let now : Moment := ⟨2000000000, .epoch⟩
    let a : Action := .call (.handle (.health now .marketData .dataStale))
    let w : Surroundings Unit := ⟨.watch .halt, none, .empty, [], [], []⟩
    a.isVain now halted = true ∧ a.perform now halted ≠ halted ∧
    (a.perform now halted).service.mode = .halt ∧ Signal.pushes (a.signals now halted) = [] ∧
    ∃ records, w.absorb now (a.signals now halted) = w.record records := by
  intro now a w
  have hv : a.isVain now halted = true := by decide
  have hn : a.perform now halted ≠ halted := by
    intro he
    have ho : (a.perform now halted).service.override? = halted.service.override? := by rw [he]
    exact absurd ho (by decide)
  obtain ⟨hs, hp, -, hw⟩ := spares_of_isVain hv w
  refine ⟨hv, hn, ?_, hp, hw⟩
  rcases hs with hs | ⟨o, -, -, hs⟩
  · exact absurd hs hn
  · rw [hs]
    rfl

end Recovery

end Failsafe
