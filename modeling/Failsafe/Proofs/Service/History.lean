import Mathlib.Data.List.Chain
import Failsafe.Proofs.Service.Overrides
import Failsafe.Proofs.Service.Postures
/-
  The history is the chain of the modes that the system went through.

  Four calls can make a transition, and `Makes` says which one each asks for. A call that makes one
  appends its record, which leads from the mode before to the mode after, and reports it; any other
  call leaves mode and history alone (`accounts_step`). So from the creation on each record begins
  in the mode in which the one before ended, the last ends in the present mode, and their times
  never run backwards (`isChronicle_run`).
-/

namespace Failsafe.Service

/-- The transition that an operator's command asks for. -/
def commanded (mode : Mode) (ttlSeconds : Nat) (operator : String) (s : Service) : Request :=
  { mode, stage := stageIn mode s.stage, reason := .manualOverride, source := .operator
    kind := .manualOverride, operator := some operator, ttlSeconds := some ttlSeconds }

/-- A call asks for a transition, from the state in which it finds the service. -/
inductive Makes (s : Service) : Call → Request → Prop
  /-- an event lowers the severity only along a recovery path -/
  | event (e : Event)
      (h : s.mode.permits e.reason.target = true ∨ e.reason.isRecoveryPath = true) :
      Makes s (.handle e) (s.requested e)
  | command (mode : Mode) (ttlSeconds : Nat) (operator reason : String) :
      Makes s (.force mode ttlSeconds operator reason) (s.commanded mode ttlSeconds operator)
  | completion (h : s.mode = .recovering) :
      Makes s .complete
        { mode := .normal, stage := none, reason := .allHealthy, source := .recovery }
  | protocol (mode : Mode) (stage : Option Stage) (reason : Reason) (source : Source) :
      Makes s (.transition mode stage reason source)
        { mode, stage := stageIn mode (stage.or s.stage), reason, source }

/-- The transition that a reply reports. -/
def Reply.transition? : Reply → Option Transition
  | outcome o => o.transition?
  | forced (.ok t) => some t
  | _ => none

/-- Mode and history after a transition, or after none. -/
def Records (now : Moment) (s s' : Service) : Option Request → Prop
  | some r => s'.history = s.history ++ [(s.apply now r).answer] ∧ s'.mode = r.mode ∧
      s'.created = s.created
  | none => s'.history = s.history ∧ s'.mode = s.mode ∧ s'.created = s.created

/-- A call makes a transition or none, records it and reports it. -/
structure Accounts (now : Moment) (s : Service) (c : Call) (r? : Option Request) : Prop where
  records : Records now s (c.step now s).state r?
  makes : ∀ r, r? = some r → s.Makes c r
  counted : (c.step now s).answer.isTransition = r?.isSome
  reported : ∀ t, (c.step now s).answer.transition? = some t →
    ∃ r, r? = some r ∧ t = (s.apply now r).answer

/-! ## One call -/

section
variable {now : Moment} {s s' : Service}

theorem records_refresh (h : s' = (s.refresh now).state) : Records now s s' none := by
  rcases refresh_cases now s with ⟨-, hs⟩ | ⟨-, hs⟩
  · rw [h, hs]
    exact ⟨rfl, rfl, rfl⟩
  · rw [h, hs]
    exact ⟨rfl, rfl, rfl⟩

theorem records_apply {r : Request} (h : s' = ((s.refresh now).state.apply now r).state) :
    Records now s s' (some r) := by
  rcases refresh_cases now s with ⟨-, hs⟩ | ⟨-, hs⟩
  · rw [h, hs]
    exact ⟨rfl, rfl, rfl⟩
  · rw [h, hs]
    exact ⟨rfl, rfl, rfl⟩

/-- A call that makes no transition and reports none. -/
theorem accounts_none {c : Call} (hr : Records now s (c.step now s).state none)
    (hc : (c.step now s).answer.isTransition = false)
    (ht : (c.step now s).answer.transition? = none) : Accounts now s c none where
  records := hr
  makes _ h := by cases h
  counted := hc
  reported t h := by
    rw [ht] at h
    cases h

theorem answer_apply_refresh (now : Moment) (s : Service) (r : Request) :
    ((s.refresh now).state.apply now r).answer = (s.apply now r).answer := by
  rcases refresh_cases now s with ⟨-, h⟩ | ⟨-, h⟩
  · rw [h]
  · rw [h]
    rfl

theorem accounts_handle (now : Moment) (s : Service) (e : Event) :
    ∃ r?, Accounts now s (.handle e) r? := by
  rcases handle_cases now s e with ⟨-, ha, hs⟩ | ⟨-, -, -, ha, hs⟩ | ⟨-, hp, ha, hs⟩
  · refine ⟨none, accounts_none (records_refresh hs) ?_ ?_⟩
    · rw [Call.step, Step.map, ha]
      rfl
    · rw [Call.step, Step.map, ha]
      rfl
  · refine ⟨none, accounts_none (records_refresh hs) ?_ ?_⟩
    · rw [Call.step, Step.map, ha]
      rfl
    · rw [Call.step, Step.map, ha]
      rfl
  · refine ⟨some (s.requested e), records_apply hs, ?_, ?_, ?_⟩
    · rintro r ⟨⟩
      exact .event e hp
    · rw [Call.step, Step.map, ha]
      rfl
    · intro t ht
      rw [Call.step, Step.map, ha, answer_apply_refresh] at ht
      exact ⟨_, rfl, (Option.some.inj ht).symm⟩

theorem force_makes (now : Moment) (s : Service) (mode : Mode) (ttlSeconds : Nat)
    (operator reason : String) :
    ((∃ f, (s.force now mode ttlSeconds operator reason).answer = .error f) ∧
      (s.force now mode ttlSeconds operator reason).state = s) ∨
    ((s.force now mode ttlSeconds operator reason).answer
        = .ok (s.apply now (s.commanded mode ttlSeconds operator)).answer ∧
      ∃ o, (s.force now mode ttlSeconds operator reason).state
        = { (s.apply now (s.commanded mode ttlSeconds operator)).state with override? := o }) := by
  unfold force
  split
  · exact Or.inl ⟨⟨_, rfl⟩, rfl⟩
  split
  · exact Or.inl ⟨⟨_, rfl⟩, rfl⟩
  split
  · exact Or.inl ⟨⟨_, rfl⟩, rfl⟩
  · exact Or.inr ⟨rfl, _, rfl⟩

theorem accounts_force (now : Moment) (s : Service) (mode : Mode) (ttlSeconds : Nat)
    (operator reason : String) :
    ∃ r?, Accounts now s (.force mode ttlSeconds operator reason) r? := by
  rcases force_makes now s mode ttlSeconds operator reason with ⟨⟨f, ha⟩, hs⟩ | ⟨ha, o, hs⟩
  · refine ⟨none, accounts_none ?_ ?_ ?_⟩
    · rw [Call.step, Step.map, hs]
      exact ⟨rfl, rfl, rfl⟩
    · rw [Call.step, Step.map, ha]
      rfl
    · rw [Call.step, Step.map, ha]
      rfl
  · refine ⟨some (s.commanded mode ttlSeconds operator), ?_, ?_, ?_, ?_⟩
    · rw [Call.step, Step.map, hs]
      exact ⟨rfl, rfl, rfl⟩
    · rintro r ⟨⟩
      exact .command mode ttlSeconds operator reason
    · rw [Call.step, Step.map, ha]
      rfl
    · intro t ht
      rw [Call.step, Step.map, ha] at ht
      exact ⟨_, rfl, (Option.some.inj ht).symm⟩

/-- Just the calls that make a transition record one, and that one. -/
theorem accounts_step (now : Moment) (s : Service) (c : Call) : ∃ r?, Accounts now s c r? := by
  cases c with
  | handle e => exact accounts_handle now s e
  | force mode ttlSeconds operator reason =>
    exact accounts_force now s mode ttlSeconds operator reason
  | clear operator =>
    refine ⟨none, accounts_none ?_ rfl rfl⟩
    rcases clear_cases now s operator with hs | hs
    · rw [Call.step, Step.map, hs]
      exact ⟨rfl, rfl, rfl⟩
    · rw [Call.step, Step.map, hs]
      exact ⟨rfl, rfl, rfl⟩
  | setStage stage =>
    refine ⟨none, accounts_none ?_ rfl rfl⟩
    rw [Call.step, Step.map, setStage]
    split <;> exact ⟨rfl, rfl, rfl⟩
  | moveStage source target =>
    refine ⟨none, accounts_none ?_ rfl rfl⟩
    rw [Call.step, Step.map, moveStage]
    split <;> exact ⟨rfl, rfl, rfl⟩
  | complete =>
    rcases complete_cases now s with ⟨ha, hs⟩ | ⟨-, hm, -, ha, hs⟩
    · refine ⟨none, accounts_none (records_refresh hs) ?_ rfl⟩
      rw [Call.step, Step.map, ha]
      rfl
    · refine ⟨some _, records_apply hs, ?_, ?_, ?_⟩
      · rintro r ⟨⟩
        exact .completion hm
      · rw [Call.step, Step.map, ha]
        rfl
      · intro t ht
        cases ht
  | transition mode stage reason source =>
    rcases transition_cases now s mode stage reason source with ⟨-, ha, hs⟩ | ⟨-, ha, hs⟩
    · refine ⟨none, accounts_none (records_refresh hs) ?_ rfl⟩
      rw [Call.step, Step.map, ha]
      rfl
    · refine ⟨some _, records_apply hs, ?_, ?_, ?_⟩
      · rintro r ⟨⟩
        exact .protocol mode stage reason source
      · rw [Call.step, Step.map, ha]
        rfl
      · intro t ht
        cases ht
  | refresh => exact ⟨none, accounts_none (records_refresh rfl) rfl rfl⟩
  | snapshot => exact ⟨none, accounts_none (records_refresh rfl) rfl rfl⟩

/-- Just an operator's record names the operator and the time. -/
theorem operator_of_makes {c : Call} {r : Request} (h : s.Makes c r) :
    r.operator.isSome = c.isForce ∧ r.ttlSeconds.isSome = c.isForce := by
  cases h <;> exact ⟨rfl, rfl⟩

/-! ## Many calls -/

/-- Until a moment the history has led from the first mode to the present one, record by record,
and not backwards in time. -/
structure IsChronicle (first : Mode) (start clock : Nanos) (s : Service) : Prop where
  created : s.created = start
  begins : ∀ t ∈ s.history.head?, t.fromMode = first
  linked : s.history.IsChain fun t t' => t'.fromMode = t.toMode
  ends : s.mode = (s.history.getLast?.map Transition.toMode).getD first
  ordered : s.history.Pairwise fun t t' => t.elapsedMs ≤ t'.elapsedMs
  past : ∀ t ∈ s.history, t.elapsedMs ≤ Nanos.millis (clock - start)

theorem isChronicle_new (now : Moment) (mode : Mode) :
    IsChronicle mode now.steady now.steady (Service.new now mode).state where
  created := rfl
  begins t ht := by cases ht
  linked := .nil
  ends := rfl
  ordered := .nil
  past t ht := by cases ht

theorem millis_mono {m n : Nanos} (h : m ≤ n) : Nanos.millis m ≤ Nanos.millis n :=
  Nat.div_le_div_right h

/-- As long as mode and history stay, time may pass. -/
theorem isChronicle_of_eq {first : Mode} {start clock clock' : Nanos}
    (h : s.IsChronicle first start clock) (hc : clock ≤ clock') (hh : s'.history = s.history)
    (hm : s'.mode = s.mode) (hcreated : s'.created = s.created) :
    s'.IsChronicle first start clock' := by
  refine ⟨by rw [hcreated, h.created], ?_, ?_, ?_, ?_, ?_⟩
  · rw [hh]
    exact h.begins
  · rw [hh]
    exact h.linked
  · rw [hh, hm]
    exact h.ends
  · rw [hh]
    exact h.ordered
  · rw [hh]
    exact fun t ht =>
      Nat.le_trans (h.past t ht) (millis_mono (Nat.sub_le_sub_right hc start))

/-- One more record begins in the present mode and is no older than the others. -/
theorem isChronicle_append {first : Mode} {start clock clock' : Nanos} {t : Transition}
    (h : s.IsChronicle first start clock) (hc : clock ≤ clock') (hf : t.fromMode = s.mode)
    (he : t.elapsedMs = Nanos.millis (clock' - start)) (hh : s'.history = s.history ++ [t])
    (hm : s'.mode = t.toMode) (hcreated : s'.created = s.created) :
    s'.IsChronicle first start clock' := by
  have hpast : ∀ x ∈ s.history, x.elapsedMs ≤ Nanos.millis (clock' - start) := fun x hx =>
    Nat.le_trans (h.past x hx) (millis_mono (Nat.sub_le_sub_right hc start))
  refine ⟨by rw [hcreated, h.created], ?_, ?_, ?_, ?_, ?_⟩
  · intro x hx
    rw [hh, List.head?_append] at hx
    cases hhead : s.history.head? with
    | some y =>
      rw [hhead] at hx
      exact h.begins x (by rw [hhead]; exact hx)
    | none =>
      -- the first record of all
      have hends := h.ends
      rw [List.head?_eq_none_iff] at hhead
      rw [hhead] at hx hends
      obtain rfl := Option.some.inj hx
      exact hf.trans hends
  · rw [hh, List.isChain_append]
    refine ⟨h.linked, .singleton _, ?_⟩
    intro x hx y hy
    obtain rfl := Option.some.inj hy
    have hends := h.ends
    rw [Option.mem_def.mp hx] at hends
    exact hf.trans hends
  · rw [hh, hm, List.getLast?_concat]
    rfl
  · rw [hh, List.pairwise_append]
    refine ⟨h.ordered, List.pairwise_singleton .., ?_⟩
    intro x hx y hy
    rw [List.mem_singleton.mp hy, he]
    exact hpast x hx
  · intro x hx
    rw [hh] at hx
    rcases List.mem_append.mp hx with hx | hx
    · exact hpast x hx
    · rw [List.mem_singleton.mp hx, he]

theorem isChronicle_records {first : Mode} {start clock : Nanos} {r? : Option Request}
    (h : s.IsChronicle first start clock) (hr : Records now s s' r?)
    (hc : clock ≤ now.steady) (hb : Nanos.millis (now.steady - start) < Width.bound 64) :
    s'.IsChronicle first start now.steady := by
  cases r? with
  | none =>
    obtain ⟨hh, hm, hcreated⟩ := hr
    exact isChronicle_of_eq h hc hh hm hcreated
  | some r =>
    obtain ⟨hh, hm, hcreated⟩ := hr
    refine isChronicle_append h hc rfl ?_ hh hm hcreated
    show Nanos.millis (now.steady - s.created) % Width.bound 64 = _
    rw [h.created, Nat.mod_eq_of_lt hb]

theorem isChronicle_run {first : Mode} {start clock : Nanos} (h : s.IsChronicle first start clock)
    {calls : List (Moment × Call)}
    (hc : (clock :: calls.map fun c => c.1.steady).IsChain (· ≤ ·))
    (hb : ∀ c ∈ calls, Nanos.millis (c.1.steady - start) < Width.bound 64) :
    ∃ clock', (s.run calls).state.IsChronicle first start clock' := by
  induction calls generalizing s clock with
  | nil => exact ⟨clock, h⟩
  | cons c calls ih =>
    rw [List.map_cons, List.isChain_cons_cons] at hc
    obtain ⟨r?, ha⟩ := accounts_step c.1 s c.2
    have hnext := isChronicle_records h ha.records hc.1 (hb c List.mem_cons_self)
    exact ih hnext hc.2 fun c' hc' => hb c' (List.mem_cons_of_mem _ hc')

/-- From the creation on, with calls at times that do not run backwards and fit into the records:
the first record begins in the first mode, each other one in the mode in which the one before it
ended, and the present mode is the one in which the last ended, or the first one without any. The
times of the records do not decrease. Whatever is called next, the history grows by one record, the
reported one, if a transition is reported, and stays as it is otherwise; just a record of a forced
mode names an operator, and just such a record names a time. -/
theorem chronicle_run (now : Moment) (mode : Mode) {calls : List (Moment × Call)}
    (hc : (now.steady :: calls.map fun c => c.1.steady).IsChain (· ≤ ·))
    (hb : ∀ c ∈ calls, Nanos.millis (c.1.steady - now.steady) < Width.bound 64) :
    let s := ((Service.new now mode).state.run calls).state
    (∀ t ∈ s.history.head?, t.fromMode = mode) ∧
    (s.history.IsChain fun t t' => t'.fromMode = t.toMode) ∧
    s.mode = (s.history.getLast?.map Transition.toMode).getD mode ∧
    (s.history.Pairwise fun t t' => t.elapsedMs ≤ t'.elapsedMs) ∧
    ∀ (now' : Moment) (c : Call),
      if (c.step now' s).answer.isTransition then
        ∃ t, (c.step now' s).state.history = s.history ++ [t] ∧
          (∀ t', (c.step now' s).answer.transition? = some t' → t' = t) ∧
          t.operator.isSome = c.isForce ∧ t.ttlSeconds.isSome = c.isForce
      else (c.step now' s).state.history = s.history := by
  intro s
  obtain ⟨clock, hs⟩ := isChronicle_run (isChronicle_new now mode) hc hb
  refine ⟨hs.begins, hs.linked, hs.ends, hs.ordered, ?_⟩
  intro now' c
  obtain ⟨r?, ha⟩ := accounts_step now' s c
  rw [ha.counted]
  cases r? with
  | none => exact ha.records.1
  | some r =>
    obtain ⟨hop, httl⟩ := operator_of_makes (ha.makes r rfl)
    refine ⟨(s.apply now' r).answer, ha.records.1, ?_, hop, httl⟩
    intro t' ht
    obtain ⟨r', he, rfl⟩ := ha.reported t' ht
    obtain rfl := Option.some.inj he
    rfl

/-- Stale data, an operator who holds `degraded` for a minute, stale data again in vain, and once
more after the minute. -/
def staleAroundOverride : List (Moment × Call) :=
  [(⟨1000000, .epoch⟩, .handle (.health ⟨0, .epoch⟩ .marketData .dataStale)),
    (⟨2000000, .epoch⟩, .force .degraded 60 "ops" "drill"),
    (⟨2000000, .epoch⟩, .handle (.health ⟨0, .epoch⟩ .marketData .dataStale)),
    (⟨90000000000, .epoch⟩, .handle (.health ⟨0, .epoch⟩ .marketData .dataStale))]

/-- Three records are left, which lead from `normal` to `safe`. -/
theorem chronicle_staleAroundOverride :
    (0 :: staleAroundOverride.map fun c => c.1.steady).IsChain (· ≤ ·) ∧
    (∀ c ∈ staleAroundOverride, Nanos.millis (c.1.steady - 0) < Width.bound 64) ∧
    let s := ((Service.new ⟨0, .epoch⟩ .normal).state.run staleAroundOverride).state
    s.mode = .safe ∧ s.history.map Transition.elapsedMs = [1, 2, 90000] ∧
    (s.history.IsChain fun t t' => t'.fromMode = t.toMode) := by
  have hc : (0 :: staleAroundOverride.map fun c => c.1.steady).IsChain (· ≤ ·) := by decide
  have hb : ∀ c ∈ staleAroundOverride, Nanos.millis (c.1.steady - 0) < Width.bound 64 := by decide
  obtain ⟨-, hlinked, hends, -, -⟩ := chronicle_run ⟨0, .epoch⟩ .normal hc hb
  refine ⟨hc, hb, ?_, ?_, hlinked⟩
  · rw [hends]
    rfl
  · rfl

end

end Failsafe.Service
