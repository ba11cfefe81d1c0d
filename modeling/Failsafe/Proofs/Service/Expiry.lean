import Mathlib.Logic.Function.Iterate
import Failsafe.Proofs.Service.Postures
/-
  When an expired override is forgotten cannot be observed.

  The service forgets an override only when a call looks at it, reads among them. `Watched` is a
  service with a clock that drops an override at the first instant at which more than its time has
  elapsed; its calls (`Call.prompt`) look at no time. The two are held together by `current`, the
  service without an override that is over: every call answers and does on a service what the
  prompt call does on the current one (`mirrors_step`), and waiting leads from the current service
  to the later current one (`wait_current`). A read leaves the current service as it is, so reads
  put in between change nothing that is found out later on (`mirrors_padded`).
-/

namespace Failsafe

namespace Signal

/-- What signals do besides being logged. -/
def effects (l : List Signal) : List Signal := l.filter fun | log _ => false | _ => true

theorem effects_append (a b : List Signal) : effects (a ++ b) = effects a ++ effects b :=
  List.filter_append a b

theorem pushes_effects (l : List Signal) : pushes (effects l) = pushes l := by
  induction l with
  | nil => rfl
  | cons x l ih => cases x <;> simpa [pushes, effects] using ih

end Signal

/-- No more than the override's time has elapsed. -/
def Override.holds (o : Override) (t : Nanos) : Bool := t - o.start ≤ o.ttl

theorem Override.isExpired_eq (o : Override) (t : Nanos) : o.isExpired t = !o.holds t := by
  unfold isExpired holds
  rw [← decide_not, decide_eq_decide]
  exact Nat.not_le.symm

/-- What was over stays over. -/
theorem Override.holds_of_le {o : Override} {t t' : Nanos} (hle : t ≤ t')
    (h : o.holds t' = true) : o.holds t = true := by
  have hlate : t' - o.start ≤ o.ttl := of_decide_eq_true h
  exact decide_eq_true (Nat.le_trans (Nat.sub_le_sub_right hle o.start) hlate)

namespace Service

/-! ## Queries -/

/-- A call of the service, or a look at what it keeps. -/
inductive Query where
  | call (c : Call)
  | mode
  | stage
  | history

/-- What a query finds out. -/
inductive Finding where
  | reply (r : Reply)
  | mode (m : Mode)
  | stage (st : Option Stage)
  | history (l : List Transition)

/-- The query asks for nothing to be changed. -/
def Query.isRead : Query → Bool
  | .call .refresh | .call .snapshot | .mode | .stage | .history => true
  | .call _ => false

/-- A query with its finding and signals. -/
def Query.step (now : Moment) (s : Service) : Query → Step Service Finding
  | .call c => (c.step now s).map .reply
  | .mode => ⟨.mode s.mode, s, []⟩
  | .stage => ⟨.stage s.stage, s, []⟩
  | .history => ⟨.history s.history, s, []⟩

/-- A query at its moment. -/
structure Asked where
  now : Moment
  query : Query
  /-- the query has been put in between others -/
  isExtra : Bool

/-- What was found out, each finding with its query. -/
abbrev Findings := List (Asked × Finding)

/-- Queries one after the other: their findings, the service after them and all their signals. -/
def consult (s : Service) : List Asked → Step Service Findings
  | [] => ⟨[], s, []⟩
  | a :: l =>
    let first := a.query.step a.now s
    let rest := consult first.state l
    ⟨(a, first.answer) :: rest.answer, rest.state, first.signals ++ rest.signals⟩

/-! ## A service that drops overrides in time -/

/-- The service without an override that is over. -/
def current (t : Nanos) (s : Service) : Service :=
  { s with override? := s.override?.filter (·.holds t) }

/-- A call of a service that holds an override only as long as it is in force. -/
def Call.prompt (now : Moment) (s : Service) : Call → Step Service Reply
  | .handle e =>
    if s.override?.isSome then ⟨.outcome .suppressed, s, []⟩
    else if !s.mode.permits e.reason.target && !e.reason.isRecoveryPath then
      ⟨.outcome (.blocked s.mode e.reason.target), s, []⟩
    else (s.apply now (s.requested e)).map fun t => .outcome (.applied t)
  | .clear operator =>
    if Text.isBlank operator then ⟨.cleared (.error .emptyOperator), s, []⟩
    else ⟨.cleared (.ok s.override?.isSome), { s with override? := none }, []⟩
  | .complete =>
    if s.override?.isSome then ⟨.made false, s, []⟩
    else if s.mode ≠ .recovering ∨ s.stage ≠ some .ready then ⟨.made false, s, []⟩
    else (s.apply now
      { mode := .normal, stage := none, reason := .allHealthy, source := .recovery }).map
        fun _ => .made true
  | .transition mode stage reason source =>
    if s.override?.isSome then ⟨.made false, s, []⟩
    else (s.apply now { mode, stage := stageIn mode (stage.or s.stage), reason, source }).map
      fun _ => .made true
  | .refresh => ⟨.pinned s.override?.isSome, s, []⟩
  | .snapshot =>
    { answer := .seen
        { mode := s.mode, stage := s.stage, transitions := s.history.length
          override? := s.override?.map fun o =>
            { mode := o.mode, operator := o.operator, reason := o.reason
              remaining := o.ttl - (now.steady - o.start) } }
      state := s
      signals := [] }
  | .force mode ttlSeconds operator reason =>
    (Call.force mode ttlSeconds operator reason).step now s
  | .setStage stage => (Call.setStage stage).step now s
  | .moveStage source target => (Call.moveStage source target).step now s

/-- A query of such a service. -/
def Query.prompt (now : Moment) (s : Service) : Query → Step Service Finding
  | .call c => (c.prompt now s).map .reply
  | .mode => ⟨.mode s.mode, s, []⟩
  | .stage => ⟨.stage s.stage, s, []⟩
  | .history => ⟨.history s.history, s, []⟩

/-- A service and the clock that it watches. -/
structure Watched where
  service : Service
  clock : Nanos

namespace Watched

/-- The next instant: an override is dropped if more than its time has elapsed now. -/
def tick (w : Watched) : Watched :=
  { service := w.service.current (w.clock + 1), clock := w.clock + 1 }

/-- Instants pass until the clock shows `t`. -/
def wait (t : Nanos) (w : Watched) : Watched := tick^[t - w.clock] w

/-- Queries one after the other, each once its moment has come. -/
def consult (w : Watched) : List Asked → Step Watched Findings
  | [] => ⟨[], w, []⟩
  | a :: l =>
    let ready := w.wait a.now.steady
    let first := a.query.prompt a.now ready.service
    let rest := consult ⟨first.state, ready.clock⟩ l
    ⟨(a, first.answer) :: rest.answer, rest.state, first.signals ++ rest.signals⟩

end Watched

/-! ## The current service -/

theorem current_eq_self {t : Nanos} {s : Service}
    (h : s.override?.filter (·.holds t) = s.override?) : s.current t = s := by
  unfold current
  rw [h]

@[simp] theorem current_mode (t : Nanos) (s : Service) : (s.current t).mode = s.mode := rfl

@[simp] theorem current_stage (t : Nanos) (s : Service) : (s.current t).stage = s.stage := rfl

@[simp] theorem current_history (t : Nanos) (s : Service) :
    (s.current t).history = s.history := rfl

theorem filter_holds_of_le {t t' : Nanos} (hle : t ≤ t') (o? : Option Override) :
    (o?.filter (·.holds t)).filter (·.holds t') = o?.filter (·.holds t') := by
  rw [Option.filter_filter]
  congr 1
  funext o
  cases h : o.holds t' with
  | false => exact Bool.and_false _
  | true => rw [Override.holds_of_le hle h, Bool.and_self]

/-- What is current later on does not depend on what was dropped before. -/
theorem current_current {t t' : Nanos} (hle : t ≤ t') (s : Service) :
    (s.current t).current t' = s.current t' := by
  have hdrop := filter_holds_of_le hle s.override?
  unfold current
  rw [hdrop]

/-- Looking for an override leaves the current service. -/
theorem refresh_eq (now : Moment) (s : Service) :
    ∃ l, Signal.effects l = [] ∧
      s.refresh now = ⟨(s.current now.steady).override?.isSome, s.current now.steady, l⟩ := by
  cases ho : s.override? with
  | none =>
    have hs : s.current now.steady = s := current_eq_self (by rw [ho]; rfl)
    refine ⟨[], rfl, ?_⟩
    rw [refresh_of_none now ho, hs, ho]
    rfl
  | some o =>
    unfold refresh current
    rw [ho]
    simp only [Option.filter_some, o.isExpired_eq now.steady]
    cases o.holds now.steady with
    | true =>
      refine ⟨[], rfl, ?_⟩
      simp [← ho, Option.isSome_of_eq_some ho]
    | false => exact ⟨_, rfl, rfl⟩

/-- Two steps answer the same and do the same; the first leaves a service that is, at a time, the
one that the second leaves. -/
structure Mirrors {α : Type} (t : Nanos) (x y : Step Service α) : Prop where
  answer : x.answer = y.answer
  state : x.state.current t = y.state
  effects : Signal.effects x.signals = Signal.effects y.signals

theorem mirrors_map {α β : Type} (f : α → β) {t : Nanos} {x y : Step Service α}
    (h : Mirrors t x y) : Mirrors t (x.map f) (y.map f) :=
  ⟨congrArg f h.answer, h.state, h.effects⟩

section
variable (now : Moment) (s : Service)

/-- The current service does not change by being looked at once more. -/
theorem filter_current :
    (s.current now.steady).override?.filter (·.holds now.steady)
      = (s.current now.steady).override? := by
  have h := current_current (Nat.le_refl now.steady) s
  exact congrArg override? h

/-- A call that does nothing but look for an override. -/
theorem mirrors_looked {α : Type} (a : α) {l l' : List Signal} (hl : Signal.effects l = [])
    (hl' : Signal.effects l' = []) :
    Mirrors now.steady ⟨a, s.current now.steady, l ++ l'⟩ ⟨a, s.current now.steady, []⟩ := by
  refine ⟨rfl, current_current (Nat.le_refl _) s, ?_⟩
  show Signal.effects (l ++ l') = []
  rw [Signal.effects_append, hl, hl', List.append_nil]

/-- A transition is made on the current service. -/
theorem mirrors_applied {α : Type} (r : Request) (f : Transition → α) {l : List Signal}
    (hl : Signal.effects l = []) :
    let made := (s.current now.steady).apply now r
    Mirrors now.steady ⟨f made.answer, made.state, l ++ made.signals⟩ (made.map f) := by
  intro made
  refine ⟨rfl, current_eq_self (filter_current now s), ?_⟩
  show Signal.effects (l ++ made.signals) = Signal.effects made.signals
  rw [Signal.effects_append, hl, List.nil_append]

theorem mirrors_handle (e : Event) :
    Mirrors now.steady ((Call.handle e).step now s)
      ((Call.handle e).prompt now (s.current now.steady)) := by
  obtain ⟨l, hl, hr⟩ := refresh_eq now s
  unfold Call.step Call.prompt handle
  rw [hr]
  dsimp only
  split
  · exact mirrors_looked now s _ hl rfl
  split
  · exact mirrors_looked now s _ hl rfl
  · exact mirrors_applied now s _ (fun t => Reply.outcome (.applied t)) hl

theorem mirrors_complete :
    Mirrors now.steady (Call.complete.step now s)
      (Call.complete.prompt now (s.current now.steady)) := by
  obtain ⟨l, hl, hr⟩ := refresh_eq now s
  unfold Call.step Call.prompt complete
  rw [hr]
  dsimp only
  split
  · exact mirrors_looked now s _ hl rfl
  split
  · exact mirrors_looked now s _ hl rfl
  · exact mirrors_applied now s _ (fun _ => Reply.made true) hl

theorem mirrors_transition (mode : Mode) (stage : Option Stage) (reason : Reason)
    (source : Source) :
    Mirrors now.steady ((Call.transition mode stage reason source).step now s)
      ((Call.transition mode stage reason source).prompt now (s.current now.steady)) := by
  obtain ⟨l, hl, hr⟩ := refresh_eq now s
  unfold Call.step Call.prompt transition
  rw [hr]
  dsimp only
  split
  · exact mirrors_looked now s _ hl rfl
  · exact mirrors_applied now s _ (fun _ => Reply.made true) hl

theorem mirrors_clear (operator : String) :
    Mirrors now.steady ((Call.clear operator).step now s)
      ((Call.clear operator).prompt now (s.current now.steady)) := by
  obtain ⟨l, hl, hr⟩ := refresh_eq now s
  by_cases hb : Text.isBlank operator = true
  · simp only [Call.step, Call.prompt, clear, if_pos hb]
    exact ⟨rfl, rfl, rfl⟩
  · simp only [Call.step, Call.prompt, clear, if_neg hb, hr]
    cases ho : (s.current now.steady).override? with
    | none =>
      have hself : { s.current now.steady with override? := none } = s.current now.steady := by
        rw [← ho]
      rw [hself]
      exact ⟨rfl, current_current (Nat.le_refl _) s, hl⟩
    | some o =>
      refine ⟨rfl, rfl, ?_⟩
      show Signal.effects (l ++ [_]) = []
      rw [Signal.effects_append, hl]
      rfl

/-- An override that is set is in force at once. -/
theorem mirrors_force (mode : Mode) (ttlSeconds : Nat) (operator reason : String) :
    Mirrors now.steady ((Call.force mode ttlSeconds operator reason).step now s)
      ((Call.force mode ttlSeconds operator reason).prompt now (s.current now.steady)) := by
  have hstart : (Override.mk mode (Nanos.ofSeconds ttlSeconds) operator reason
      now.steady).holds now.steady = true := by
    simp [Override.holds]
  simp only [Call.step, Call.prompt, force]
  split
  · exact ⟨rfl, rfl, rfl⟩
  split
  · exact ⟨rfl, rfl, rfl⟩
  split
  · exact ⟨rfl, rfl, rfl⟩
  · refine ⟨rfl, current_eq_self ?_, ?_⟩
    · simp [Step.map, hstart]
    · -- which override is replaced is only logged
      simp only [Step.map, Signal.effects_append]
      congr 2
      cases s.override? <;> cases (s.current now.steady).override? <;> rfl

theorem mirrors_setStage (stage : Stage) :
    Mirrors now.steady ((Call.setStage stage).step now s)
      ((Call.setStage stage).prompt now (s.current now.steady)) := by
  have hmode : (s.current now.steady).mode = s.mode := rfl
  unfold Call.prompt Call.step setStage
  dsimp only
  by_cases hm : s.mode = .recovering
  · rw [if_neg (not_not_intro hm), if_neg (not_not_intro (hmode.trans hm))]
    exact ⟨rfl, rfl, rfl⟩
  · rw [if_pos hm, if_pos (hmode.trans_ne hm)]
    exact ⟨rfl, rfl, rfl⟩

theorem mirrors_moveStage (source target : Stage) :
    Mirrors now.steady ((Call.moveStage source target).step now s)
      ((Call.moveStage source target).prompt now (s.current now.steady)) := by
  have hstands : ((s.current now.steady).mode ≠ .recovering ∨
      (s.current now.steady).stage ≠ some source) ↔
      (s.mode ≠ .recovering ∨ s.stage ≠ some source) := Iff.rfl
  unfold Call.prompt Call.step moveStage
  dsimp only
  by_cases hm : s.mode ≠ .recovering ∨ s.stage ≠ some source
  · rw [if_pos hm, if_pos (hstands.mpr hm)]
    exact ⟨rfl, rfl, rfl⟩
  · rw [if_neg hm, if_neg (mt hstands.mp hm)]
    exact ⟨rfl, rfl, rfl⟩

/-- A call does on any service what the prompt one does on the current service. -/
theorem mirrors_step (c : Call) :
    Mirrors now.steady (c.step now s) (c.prompt now (s.current now.steady)) := by
  cases c with
  | handle e => exact mirrors_handle now s e
  | force mode ttlSeconds operator reason =>
    exact mirrors_force now s mode ttlSeconds operator reason
  | clear operator => exact mirrors_clear now s operator
  | setStage stage => exact mirrors_setStage now s stage
  | moveStage source target => exact mirrors_moveStage now s source target
  | complete => exact mirrors_complete now s
  | transition mode stage reason source => exact mirrors_transition now s mode stage reason source
  | refresh =>
    obtain ⟨l, hl, hr⟩ := refresh_eq now s
    simp only [Call.step, Call.prompt, hr]
    exact ⟨rfl, current_current (Nat.le_refl _) s, hl⟩
  | snapshot =>
    obtain ⟨l, hl, hr⟩ := refresh_eq now s
    simp only [Call.step, Call.prompt, snapshot, hr]
    exact ⟨rfl, current_current (Nat.le_refl _) s, hl⟩

theorem mirrors_query (q : Query) :
    Mirrors now.steady (q.step now s) (q.prompt now (s.current now.steady)) := by
  cases q with
  | call c => exact mirrors_map Finding.reply (mirrors_step now s c)
  | mode => exact ⟨rfl, rfl, rfl⟩
  | stage => exact ⟨rfl, rfl, rfl⟩
  | history => exact ⟨rfl, rfl, rfl⟩

/-- A read changes nothing and has no effects. -/
theorem prompt_read {q : Query} (h : q.isRead = true) :
    (q.prompt now s).state = s ∧ Signal.effects (q.prompt now s).signals = [] := by
  cases q with
  | call c =>
    cases c with
    | refresh => exact ⟨rfl, rfl⟩
    | snapshot => exact ⟨rfl, rfl⟩
    | _ => cases h
  | mode => exact ⟨rfl, rfl⟩
  | stage => exact ⟨rfl, rfl⟩
  | history => exact ⟨rfl, rfl⟩

end

/-! ## Waiting -/

/-- Instant by instant a watched service comes to the later current one. -/
theorem wait_current (s : Service) {t t' : Nanos} (hle : t ≤ t') :
    (Watched.mk (s.current t) t).wait t' = ⟨s.current t', t'⟩ := by
  unfold Watched.wait
  obtain ⟨n, rfl⟩ := Nat.exists_eq_add_of_le hle
  rw [Nat.add_sub_cancel_left]
  induction n with
  | zero => rfl
  | succ n ih =>
    rw [Function.iterate_succ_apply', ih (Nat.le_add_right t n)]
    unfold Watched.tick
    dsimp only
    rw [current_current (Nat.le_succ (t + n)) s]
    rfl

/-! ## Runs -/

/-- No query is asked before `t`, nor before the one in front of it. -/
def InOrder (t : Nanos) (l : List Asked) : Prop :=
  (t :: l.map (·.now.steady)).Pairwise (· ≤ ·)

theorem inOrder_cons {t : Nanos} {a : Asked} {l : List Asked} (h : InOrder t (a :: l)) :
    t ≤ a.now.steady ∧ InOrder a.now.steady l := by
  obtain ⟨hfirst, hrest⟩ := List.pairwise_cons.mp h
  exact ⟨hfirst _ List.mem_cons_self, hrest⟩

theorem inOrder_zero {t : Nanos} {l : List Asked} (h : InOrder t l) : InOrder 0 l :=
  List.pairwise_cons.mpr ⟨fun t _ => Nat.zero_le t, (List.pairwise_cons.mp h).2⟩

/-- Two services in the same mode and stage and with the same history, after the same effects. -/
structure LooksLike (s : Service) (l : List Signal) (s' : Service) (l' : List Signal) :
    Prop where
  mode : s.mode = s'.mode
  stage : s.stage = s'.stage
  history : s.history = s'.history
  pushes : Signal.pushes l = Signal.pushes l'
  effects : Signal.effects l = Signal.effects l'

theorem looksLike_of_current {t t' : Nanos} {s s' : Service} {l l' : List Signal}
    (hs : s.current t = s'.current t') (hl : Signal.effects l = Signal.effects l') :
    LooksLike s l s' l' where
  mode := by simpa using congrArg Service.mode hs
  stage := by simpa using congrArg Service.stage hs
  history := by simpa using congrArg Service.history hs
  pushes := by rw [← Signal.pushes_effects l, hl, Signal.pushes_effects l']
  effects := hl

/-- The service and the one that watches the clock stay together. -/
theorem watched_consult (s : Service) {t : Nanos} {l : List Asked} (h : InOrder t l) :
    let done := s.consult l
    let eager := (Watched.mk (s.current t) t).consult l
    done.answer = eager.answer ∧ eager.state.service = done.state.current eager.state.clock ∧
    Signal.effects done.signals = Signal.effects eager.signals := by
  induction l generalizing s t with
  | nil => exact ⟨rfl, rfl, rfl⟩
  | cons a l ih =>
    obtain ⟨hle, hrest⟩ := inOrder_cons h
    obtain ⟨hanswer, hstate, heffects⟩ := mirrors_query a.now s a.query
    have hwait := wait_current s hle
    have hnext := ih (a.query.step a.now s).state hrest
    rw [hstate] at hnext
    obtain ⟨hanswers, hdone, hall⟩ := hnext
    unfold consult Watched.consult
    rw [hwait]
    refine ⟨?_, hdone, ?_⟩
    · exact congrArg₂ (fun f fs => (a, f) :: fs) hanswer hanswers
    · show Signal.effects (_ ++ _) = Signal.effects (_ ++ _)
      rw [Signal.effects_append, Signal.effects_append, heffects, hall]

/-- Reads put in between change nothing for services that are the same at present. -/
theorem mirrors_padded {s s' : Service} {t : Nanos} {l : List Asked} (h : InOrder t l)
    (hread : ∀ a ∈ l, a.isExtra = true → a.query.isRead = true)
    (hs : s.current t = s'.current t) :
    let done := s.consult l
    let plain := s'.consult (l.filter fun a => !a.isExtra)
    done.answer.filter (fun x => !x.1.isExtra) = plain.answer ∧
    (∃ t', done.state.current t' = plain.state.current t') ∧
    Signal.effects done.signals = Signal.effects plain.signals := by
  induction l generalizing s s' t with
  | nil => exact ⟨rfl, ⟨t, hs⟩, rfl⟩
  | cons a l ih =>
    obtain ⟨hle, hrest⟩ := inOrder_cons h
    have hread' : ∀ b ∈ l, b.isExtra = true → b.query.isRead = true :=
      fun b hb => hread b (List.mem_cons_of_mem a hb)
    have hnow : s.current a.now.steady = s'.current a.now.steady := by
      rw [← current_current hle s, hs, current_current hle s']
    obtain ⟨hanswer, hstate, heffects⟩ := mirrors_query a.now s a.query
    cases hextra : a.isExtra with
    | true =>
      have hq : a.query.isRead = true := hread a List.mem_cons_self hextra
      obtain ⟨hstill, hnone⟩ := prompt_read a.now (s.current a.now.steady) hq
      have hnext : (a.query.step a.now s).state.current a.now.steady
          = s'.current a.now.steady := by
        rw [hstate, hstill, hnow]
      obtain ⟨hanswers, hdone, hall⟩ := ih hrest hread' hnext
      simp only [List.filter_cons, hextra, Bool.not_true, Bool.false_eq_true, if_false]
      refine ⟨?_, hdone, ?_⟩
      · simpa [consult, List.filter_cons, hextra] using hanswers
      · rw [consult, Signal.effects_append, heffects, hnone, List.nil_append, hall]
    | false =>
      obtain ⟨hanswer', hstate', heffects'⟩ := mirrors_query a.now s' a.query
      rw [← hnow] at hanswer' hstate' heffects'
      have hnext : (a.query.step a.now s).state.current a.now.steady
          = (a.query.step a.now s').state.current a.now.steady := by
        rw [hstate, hstate']
      obtain ⟨hanswers, hdone, hall⟩ := ih hrest hread' hnext
      simp only [List.filter_cons, hextra, Bool.not_false, if_true]
      refine ⟨?_, hdone, ?_⟩
      · simpa [consult, List.filter_cons, hextra, hanswer, hanswer'] using hanswers
      · rw [consult, consult, Signal.effects_append, Signal.effects_append, heffects, heffects',
          hall]

/-! ## The override that is shown -/

/-- The override that has been set and not been ended, according to what was found out last. -/
def impose (o? : Option Override) (x : Asked × Finding) : Option Override :=
  match x.1.query, x.2 with
  | .call (.force mode ttlSeconds operator reason), .reply (.forced (.ok _)) =>
    some ⟨mode, Nanos.ofSeconds ttlSeconds, operator, reason, x.1.now.steady⟩
  | .call (.clear _), .reply (.cleared (.ok true)) => none
  | _, _ => o?

/-- The override that operators have set and not ended, according to what they were told. -/
def imposed (l : Findings) : Option Override := l.foldl impose none

/-- A finding settles which override there is, or says nothing about it. -/
theorem impose_cases (x : Asked × Finding) :
    (∃ r : Option Override, r.filter (·.holds x.1.now.steady) = r ∧ ∀ o?, impose o? x = r) ∨
    ∀ o?, impose o? x = o? := by
  unfold impose
  split
  · refine Or.inl ⟨_, ?_, fun _ => rfl⟩
    simp [Override.holds]
  · exact Or.inl ⟨none, rfl, fun _ => rfl⟩
  · exact Or.inr fun _ => rfl

/-- Only a command that is obeyed sets or ends an override that is in force. -/
theorem prompt_override (a : Asked) (s : Service) :
    (a.query.prompt a.now s).state.override?
      = impose s.override? (a, (a.query.prompt a.now s).answer) := by
  obtain ⟨now, q, isExtra⟩ := a
  cases q with
  | call c =>
    cases c with
    | force mode ttlSeconds operator reason =>
      simp only [Query.prompt, Call.prompt, Call.step, force]
      split
      · rfl
      split
      · rfl
      split
      · rfl
      · rfl
    | clear operator =>
      simp only [Query.prompt, Call.prompt]
      split
      · rfl
      · cases ho : s.override? with
        | none => rfl
        | some o => rfl
    | handle e =>
      simp only [Query.prompt, Call.prompt]
      split
      · rfl
      split
      · rfl
      · rfl
    | setStage stage =>
      simp only [Query.prompt, Call.prompt, Call.step, setStage]
      split
      · rfl
      · rfl
    | moveStage source target =>
      simp only [Query.prompt, Call.prompt, Call.step, moveStage]
      split
      · rfl
      · rfl
    | complete =>
      simp only [Query.prompt, Call.prompt]
      split
      · rfl
      split
      · rfl
      · rfl
    | transition mode stage reason source =>
      simp only [Query.prompt, Call.prompt]
      split
      · rfl
      · rfl
    | refresh => rfl
    | snapshot => rfl
  | mode => rfl
  | stage => rfl
  | history => rfl

/-- What operators were told determines the override at every later time. -/
theorem override_consult {s : Service} (o? : Option Override) {t : Nanos} {l : List Asked}
    (h : InOrder t l) (hs : (s.current t).override? = o?.filter (·.holds t)) {now : Nanos}
    (ht : t ≤ now) (hnow : ∀ a ∈ l, a.now.steady ≤ now) :
    ((s.consult l).state.current now).override?
      = ((s.consult l).answer.foldl impose o?).filter (·.holds now) := by
  induction l generalizing s o? t with
  | nil =>
    have hlate := congrArg (Option.filter (·.holds now)) hs
    rw [filter_holds_of_le ht o?] at hlate
    rw [← current_current ht]
    exact hlate
  | cons a l ih =>
    obtain ⟨hle, hrest⟩ := inOrder_cons h
    obtain ⟨hanswer, hstate, -⟩ := mirrors_query a.now s a.query
    have hbefore : (s.current a.now.steady).override? = o?.filter (·.holds a.now.steady) := by
      rw [← current_current hle s, ← filter_holds_of_le hle o?, ← hs]
      rfl
    have hafter := prompt_override a (s.current a.now.steady)
    rw [← hstate, ← hanswer, hbefore] at hafter
    have hnext : ((a.query.step a.now s).state.current a.now.steady).override?
        = (impose o? (a, (a.query.step a.now s).answer)).filter (·.holds a.now.steady) := by
      rw [hafter]
      rcases impose_cases (a, (a.query.step a.now s).answer) with ⟨r, hr, hall⟩ | hall
      · rw [hall, hall, hr]
      · rw [hall, hall]
    exact ih _ hrest hnext (hnow a List.mem_cons_self)
      fun b hb => hnow b (List.mem_cons_of_mem a hb)

/-- Reads, whenever they are put in between, change nothing that the calls of the service answer,
and no mode, stage, history or effect; and all that is found out is what a service answers that
drops an override at the first instant at which more than its time has elapsed. An override is
shown just as long as no more than its time has elapsed, with the rest of this time. -/
theorem expiry_unobservable (start : Moment) (first : Mode) (l : List Asked)
    (hread : ∀ a ∈ l, a.isExtra = true → a.query.isRead = true)
    (htimes : (start.steady :: l.map (·.now.steady)).Pairwise (· ≤ ·)) :
    let opened := (Service.new start first).state
    let done := opened.consult l
    let plain := opened.consult (l.filter fun a => !a.isExtra)
    let eager := (Watched.mk opened start.steady).consult l
    (done.answer.filter (fun x => !x.1.isExtra) = plain.answer ∧
      LooksLike done.state done.signals plain.state plain.signals) ∧
    (done.answer = eager.answer ∧
      LooksLike done.state done.signals eager.state.service eager.signals) ∧
    ∀ now : Moment, (∀ a ∈ l, a.now.steady ≤ now.steady) →
      (done.state.snapshot now).answer.override?
        = ((imposed done.answer).filter fun o => now.steady - o.start ≤ o.ttl).map fun o =>
          ⟨o.mode, o.operator, o.reason, o.ttl - (now.steady - o.start)⟩ := by
  intro opened done plain eager
  obtain ⟨hanswer, ⟨t', hdone⟩, heffects⟩ := mirrors_padded (s := opened) htimes hread rfl
  obtain ⟨heager, hservice, heagerly⟩ := watched_consult opened htimes
  refine ⟨⟨hanswer, looksLike_of_current hdone heffects⟩, ⟨heager, ?_⟩, ?_⟩
  · have hsame : done.state.current eager.state.clock
        = eager.state.service.current eager.state.clock := by
      have hcurrent : eager.state.service = done.state.current eager.state.clock := hservice
      rw [hcurrent, current_current (Nat.le_refl _)]
    exact looksLike_of_current hsame heagerly
  · intro now hnow
    have hover := override_consult (s := opened) none (inOrder_zero htimes) rfl
      (Nat.zero_le now.steady) hnow
    obtain ⟨l', -, hr⟩ := refresh_eq now done.state
    unfold snapshot
    rw [hr]
    exact congrArg (Option.map _) hover

/-- An operator pins the mode for one second. Just at its end an alarm is ignored, and obeyed one
nanosecond later; monitors look at the service before both, and the override is ended too late. -/
def watchedSecond : List Asked :=
  [⟨⟨0, .epoch⟩, .call (.force .degraded 1 "ops" "drill"), false⟩,
    ⟨⟨1000000000, .epoch⟩, .call .refresh, true⟩,
    ⟨⟨1000000000, .epoch⟩, .call (.handle (.health ⟨0, .epoch⟩ .risk .riskBreachHard)), false⟩,
    ⟨⟨1000000001, .epoch⟩, .call .snapshot, true⟩,
    ⟨⟨1000000001, .epoch⟩, .mode, true⟩,
    ⟨⟨1000000001, .epoch⟩, .call (.handle (.health ⟨0, .epoch⟩ .risk .riskBreachHard)), false⟩,
    ⟨⟨1000000001, .epoch⟩, .call (.clear "ops"), false⟩]

/-- Whether the monitors look or not, the system is halted in the end, as if the override had been
forgotten at once; at the end of its second it is still shown, and one nanosecond later no more. -/
theorem expiry_unobservable_second :
    let opened := (Service.new ⟨0, .epoch⟩ .normal).state
    let pinned := opened.consult (watchedSecond.take 3)
    let done := opened.consult watchedSecond
    (∀ a ∈ watchedSecond, a.isExtra = true → a.query.isRead = true) ∧
    ((0 :: watchedSecond.map (·.now.steady)).Pairwise (· ≤ ·)) ∧
    done.answer = ((Watched.mk opened 0).consult watchedSecond).answer ∧
    done.state.mode = .halt ∧
    (pinned.state.snapshot ⟨1000000000, .epoch⟩).answer.override?
      = some ⟨.degraded, "ops", "drill", 0⟩ ∧
    (pinned.state.snapshot ⟨1000000001, .epoch⟩).answer.override? = none := by
  intro opened pinned done
  have hread : ∀ a ∈ watchedSecond, a.isExtra = true → a.query.isRead = true := by
    intro a ha hextra
    simp only [watchedSecond, List.mem_cons, List.not_mem_nil, or_false] at ha
    rcases ha with rfl | rfl | rfl | rfl | rfl | rfl | rfl
    all_goals first | rfl | cases hextra
  have htimes : (0 :: watchedSecond.map (·.now.steady)).Pairwise (· ≤ ·) := by decide
  obtain ⟨-, ⟨heager, -⟩, -⟩ := expiry_unobservable ⟨0, .epoch⟩ .normal watchedSecond hread htimes
  obtain ⟨-, -, hshown⟩ := expiry_unobservable ⟨0, .epoch⟩ .normal (watchedSecond.take 3)
    (fun a ha => hread a (List.mem_of_mem_take ha)) (by decide)
  refine ⟨hread, htimes, heager, rfl, ?_, ?_⟩
  · exact hshown ⟨1000000000, .epoch⟩ (by decide)
  · exact hshown ⟨1000000001, .epoch⟩ (by decide)

end Service

end Failsafe
