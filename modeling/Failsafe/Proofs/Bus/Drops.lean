import Failsafe.Proofs.Appending
import Failsafe.Proofs.Pressure
import Failsafe.Proofs.Timestamp
/-
  Every event that the bus drops leaves its traces, and nothing else does.

  The traces are the count of dropped events, the lines of the fallback log and the calls of the
  emergency callback. Publishing adds to all of them or to none (`publish_traces`), and nothing else
  that is done to a bus adds to any (`traces_of_none`). So after any run they are those of the
  events whose publishing was answered with `false`, in order (`traces_run`): a log that cannot be
  written keeps no callback from being called, and neither does one that panicked earlier.
-/

namespace Failsafe

/-! ## The line about a dropped event -/

namespace Bus

/-- What the line about a dropped event says. -/
def words (d : Moment × Event) : List String :=
  [d.1.wall.display, "QueueFull", "source=" ++ d.2.source.name, "event_type=" ++ d.2.kind.name,
    "reason_code=" ++ d.2.reason.name, "severity=" ++ d.2.severity.name]

/-- The line about a dropped event, without the line feed. -/
def account (d : Moment × Event) : List Char := (String.intercalate " " (words d)).toList

/-- The lines about some dropped events. -/
def accounts (l : List (Moment × Event)) : Bytes :=
  l.flatMap fun d => Bytes.encode (fallbackLine d.1 d.2).toList

theorem toList_fallbackLine (now : Moment) (e : Event) :
    (fallbackLine now e).toList = account (now, e) ++ ['\n'] := by
  simp [fallbackLine, account, words]

theorem lineFeed_not_mem_padded (w n : Nat) : '\n' ∉ Timestamp.padded w n := by
  intro h
  have hdigit := Timestamp.isDigit_of_mem_padded h
  exact absurd hdigit (by decide)

theorem lineFeed_not_mem_display (t : Timestamp) : '\n' ∉ t.display.toList := by
  have hyear : '\n' ∉ Timestamp.writeYear t.date.year := by
    unfold Timestamp.writeYear
    split
    · exact lineFeed_not_mem_padded _ _
    · split <;> simp [lineFeed_not_mem_padded]
  have hfraction : '\n' ∉ Timestamp.writeFraction t.nanos := by
    unfold Timestamp.writeFraction
    split
    · simp
    split
    · simp [lineFeed_not_mem_padded]
    split
    · simp [lineFeed_not_mem_padded]
    · simp [lineFeed_not_mem_padded]
  unfold Timestamp.display Timestamp.writeLocal
  simp [hyear, hfraction, lineFeed_not_mem_padded]

theorem lineFeed_not_mem_account (d : Moment × Event) : '\n' ∉ account d := by
  have hdisplay := lineFeed_not_mem_display d.1.wall
  have hsource : '\n' ∉ d.2.source.name.toList := by cases d.2.source <;> decide
  have hkind : '\n' ∉ d.2.kind.name.toList := by cases d.2.kind <;> decide
  have hreason : '\n' ∉ d.2.reason.name.toList := by cases d.2.reason <;> decide
  have hseverity : '\n' ∉ d.2.severity.name.toList := by cases d.2.severity <;> decide
  simp [account, words, hdisplay, hsource, hkind, hreason, hseverity]

/-! ## One publishing -/

/-- What a bus keeps unless it drops an event: its settings, its having a callback, and the count
of dropped events. -/
structure Keeps {η : Type} (b b' : Bus η) : Prop where
  config : b'.config = b.config
  armed : b'.emergency.isSome = b.emergency.isSome
  dropped : b'.stats.dropped = b.stats.dropped

/-- The events given to the callback when some events are dropped. -/
def alarming (config : BusConfig) (armed : Bool) (l : List Event) : List Event :=
  if armed then l.filter fun e => e.kind ∈ config.mustDeliver else []

section
variable {η : Type} (b : Bus η)

theorem keeps_start : b.Keeps b.start.1 := by
  unfold start
  split <;> exact ⟨rfl, rfl, rfl⟩

theorem keeps_stop : b.Keeps b.stop.1 := by
  unfold stop
  split
  · split <;> exact ⟨rfl, rfl, rfl⟩
  · exact ⟨rfl, rfl, rfl⟩
  · exact ⟨rfl, rfl, rfl⟩

theorem keeps_take : b.Keeps (b.take?.getD b) := by
  cases h : b.take? with
  | none => exact ⟨rfl, rfl, rfl⟩
  | some b' =>
    obtain ⟨-, e, rest, -, rfl⟩ := b.take?_eq_some h
    exact ⟨rfl, rfl, rfl⟩

theorem keeps_handled (h : Handling) : b.Keeps (b.handled h).1 := by
  rcases b.handled_cases h with ⟨-, hb⟩ | ⟨e, s, rest, -, -, hb⟩
  · rw [hb]
    exact ⟨rfl, rfl, rfl⟩
  · rw [hb]
    exact ⟨rfl, rfl, rfl⟩

theorem keeps_delivered : b.Keeps b.delivered.1 := by
  unfold delivered
  split
  · dsimp only
    split <;> exact ⟨rfl, rfl, rfl⟩
  · exact ⟨rfl, rfl, rfl⟩

/-- The callback is called for an event whose kind must be delivered, if there is one. -/
theorem alarm_raiseAlarm (e : Event) :
    (b.raiseAlarm e).1.toList = alarming b.config b.emergency.isSome [e] := by
  have hmust : b.isMustDeliver e.kind = decide (e.kind ∈ b.config.mustDeliver) :=
    List.contains_eq_mem ..
  unfold raiseAlarm alarming
  rw [hmust]
  by_cases hm : e.kind ∈ b.config.mustDeliver
  · cases b.emergency with
    | none => simp [hm]
    | some call => simp [hm]
  · simp [hm]

/-- An event that is accepted leaves no trace, and one that is dropped leaves all of them: neither
the log nor the callback depends on what became of the other. -/
theorem publish_traces (now : Moment) (e : Event) (files : Files) :
    let p := b.publish now e files
    (p.accepted = true ∧ b.Keeps p.bus ∧ p.files = files ∧ p.alarm?.toList = []) ∨
    (p.accepted = false ∧ p.bus.config = b.config ∧
      p.bus.emergency.isSome = b.emergency.isSome ∧
      p.bus.stats.dropped = b.stats.dropped + 1 ∧ p.files = (b.writeFallback now e files).1 ∧
      p.alarm?.toList = alarming b.config b.emergency.isSome [e]) := by
  intro p
  have halarm := alarm_raiseAlarm { b with
    stats := { b.stats with dropped := b.stats.dropped + 1 } } e
  unfold p publish
  split
  · exact Or.inl ⟨rfl, ⟨rfl, rfl, rfl⟩, rfl, rfl⟩
  · exact Or.inr ⟨rfl, rfl, rfl, rfl, rfl, halarm⟩

end

end Bus

/-! ## Runs -/

/-- One thing that happens around a bus. -/
inductive Incident (η : Type) where
  | aside (a : Aside η)
  /-- the emergency callback behaves otherwise from now on -/
  | sway (call : Event → Alarm)

namespace Incident

variable {η : Type}

/-- The surroundings after something has happened. -/
def perform (s : Surroundings η) : Incident η → Surroundings η
  | aside a => a.perform s
  | sway call => s.onBus fun bus => ({ bus with emergency := bus.emergency.map fun _ => call }, [])

/-- The event that is published, with its moment. -/
def published? : Incident η → Option (Moment × Event)
  | aside (.publish now e) => some (now, e)
  | _ => none

/-- The publishings among the things that happen, each with what it answers. -/
def verdicts (s : Surroundings η) : List (Incident η) → List ((Moment × Event) × Bool)
  | [] => []
  | i :: l =>
    (i.published?.toList.map fun d => (d, !(s.publish d.1 d.2).2)) ++ verdicts (i.perform s) l

/-- The events whose publishing was answered with `false`. -/
def lost (s : Surroundings η) (l : List (Incident η)) : List (Moment × Event) :=
  ((verdicts s l).filter fun v => !v.2).map Prod.fst

end Incident

/-- The files after some drops: a log that can be opened has a line for each of them; otherwise they
are as they were, except for directories that have been made for the log in vain. -/
inductive BusConfig.IsLogged (config : BusConfig) (files : Files) :
    List (Moment × Event) → Files → Prop
  | fresh : IsLogged config files [] files
  | without (drops : List (Moment × Event)) (hp : config.fallbackLog = none) :
      IsLogged config files drops files
  | failed {path : String} {f : FileError} {left : Files} {drops : List (Moment × Event)}
      (hp : config.fallbackLog = some path) (hf : files.appendMaking path [] = .error f left)
      (hn : drops ≠ []) : IsLogged config files drops left
  | written {path : String} {opened : Files} {drops : List (Moment × Event)} {done : Files}
      (hp : config.fallbackLog = some path) (ho : files.appendMaking path [] = .ok opened)
      (hn : drops ≠ []) (hd : Files.IsLogged opened path (Bus.accounts drops) done) :
      IsLogged config files drops done

/-- The traces of some drops. -/
structure Surroundings.Traces {η : Type} (config : BusConfig) (armed : Bool) (files : Files)
    (drops : List (Moment × Event)) (s : Surroundings η) : Prop where
  bus : ∃ bus, s.bus? = some bus ∧ bus.config = config ∧ bus.emergency.isSome = armed ∧
    bus.stats.dropped = drops.length
  files : config.IsLogged files drops s.files
  alarms : s.alarms = Bus.alarming config armed (drops.map Prod.snd)

theorem Bus.accounts_nil : accounts [] = [] := rfl

theorem Bus.accounts_concat (l : List (Moment × Event)) (now : Moment) (e : Event) :
    accounts (l ++ [(now, e)]) = accounts l ++ Bytes.encode (fallbackLine now e).toList := by
  simp [accounts]

theorem Bus.alarming_append (config : BusConfig) (armed : Bool) (l l' : List Event) :
    alarming config armed (l ++ l') = alarming config armed l ++ alarming config armed l' := by
  unfold alarming
  cases armed with
  | false => rfl
  | true => exact List.filter_append l l'

/-- One more drop is logged behind the others. -/
theorem BusConfig.isLogged_concat {η : Type} {b : Bus η} {files done : Files}
    {drops : List (Moment × Event)} (h : b.config.IsLogged files drops done) (now : Moment)
    (e : Event) :
    b.config.IsLogged files (drops ++ [(now, e)]) (b.writeFallback now e done).1 := by
  have hne : drops ++ [(now, e)] ≠ [] := by simp
  cases h with
  | fresh =>
    cases hlog : b.config.fallbackLog with
    | none =>
      rw [b.writeFallback_of_none hlog]
      exact .without _ hlog
    | some path =>
      rw [b.files_writeFallback hlog]
      cases ha : files.appendMaking path [] with
      | error f left =>
        obtain ⟨f', hf⟩ := Files.appendMaking_of_error ha
          (Bytes.encode (Bus.fallbackLine now e).toList)
        rw [hf]
        exact .failed hlog ha hne
      | ok opened =>
        obtain ⟨done', hdone, hlogged⟩ := Files.appendMaking_first ha
          (Bytes.encode (Bus.fallbackLine now e).toList)
        rw [hdone]
        refine .written hlog ha hne ?_
        rw [Bus.accounts_concat, Bus.accounts_nil, List.nil_append]
        exact hlogged
  | without _ hp =>
    rw [b.writeFallback_of_none hp]
    exact .without _ hp
  | failed hp hf _ =>
    obtain ⟨f', hagain⟩ := Files.appendMaking_again hf
      (Bytes.encode (Bus.fallbackLine now e).toList)
    rw [b.files_writeFallback hp, hagain]
    exact .failed hp hf hne
  | written hp ho _ hd =>
    obtain ⟨done', hdone, hlogged⟩ := Files.appendMaking_next hd
      (Bytes.encode (Bus.fallbackLine now e).toList)
    rw [b.files_writeFallback hp, hdone]
    refine .written hp ho hne ?_
    rw [Bus.accounts_concat]
    exact hlogged

theorem BusConfig.isLogged_of_none {config : BusConfig} {files done : Files}
    {drops : List (Moment × Event)} (h : config.IsLogged files drops done)
    (hl : config.fallbackLog = none) : done = files := by
  cases h with
  | fresh => rfl
  | without _ _ => rfl
  | failed hp _ _ => simp [hl] at hp
  | written hp _ _ _ => simp [hl] at hp

theorem BusConfig.isLogged_of_error {config : BusConfig} {files done left : Files} {path : String}
    {f : FileError} {drops : List (Moment × Event)} (h : config.IsLogged files drops done)
    (hl : config.fallbackLog = some path) (hf : files.appendMaking path [] = .error f left) :
    (drops = [] ∧ done = files) ∨ (drops ≠ [] ∧ done = left) := by
  cases h with
  | fresh => exact Or.inl ⟨rfl, rfl⟩
  | without _ hp => simp [hl] at hp
  | failed hp hf' hn =>
    obtain rfl := Option.some.inj (hl.symm.trans hp)
    cases hf.symm.trans hf'
    exact Or.inr ⟨hn, rfl⟩
  | written hp ho _ _ =>
    obtain rfl := Option.some.inj (hl.symm.trans hp)
    cases hf.symm.trans ho

theorem BusConfig.isLogged_of_ok {config : BusConfig} {files done opened : Files} {path : String}
    {drops : List (Moment × Event)} (h : config.IsLogged files drops done)
    (hl : config.fallbackLog = some path) (ho : files.appendMaking path [] = .ok opened) :
    (drops = [] ∧ done = files) ∨
      (drops ≠ [] ∧ Files.IsLogged opened path (Bus.accounts drops) done) := by
  cases h with
  | fresh => exact Or.inl ⟨rfl, rfl⟩
  | without _ hp => simp [hl] at hp
  | failed hp hf _ =>
    obtain rfl := Option.some.inj (hl.symm.trans hp)
    cases ho.symm.trans hf
  | written hp ho' hn hd =>
    obtain rfl := Option.some.inj (hl.symm.trans hp)
    obtain rfl := Files.Attempt.ok.inj (ho.symm.trans ho')
    exact Or.inr ⟨hn, hd⟩

section
variable {η : Type} {config : BusConfig} {armed : Bool} {files : Files}
  {drops : List (Moment × Event)} {s s' : Surroundings η}

/-- What keeps the bus and leaves files and alarms alone leaves the traces alone. -/
theorem Surroundings.traces_of_keeps (h : s.Traces config armed files drops)
    (hb : ∀ bus, s.bus? = some bus → ∃ bus', s'.bus? = some bus' ∧ bus.Keeps bus')
    (hf : s'.files = s.files) (ha : s'.alarms = s.alarms) :
    s'.Traces config armed files drops := by
  obtain ⟨bus, hs, hconfig, harmed, hdropped⟩ := h.bus
  obtain ⟨bus', hs', hk⟩ := hb bus hs
  refine ⟨⟨bus', hs', hk.config.trans hconfig, hk.armed.trans harmed,
    hk.dropped.trans hdropped⟩, ?_, ?_⟩
  · rw [hf]
    exact h.files
  · rw [ha]
    exact h.alarms

theorem Surroundings.traces_onBus (h : s.Traces config armed files drops)
    {f : Bus η → Bus η × List Log.Record} (hf : ∀ bus : Bus η, bus.Keeps (f bus).1) :
    (s.onBus f).Traces config armed files drops := by
  obtain ⟨bus, hs, -⟩ := h.bus
  have hdone : s.onBus f
      = { s with bus? := some (f bus).1, log := s.log ++ (f bus).2 } := by
    unfold onBus
    rw [hs]
  rw [hdone]
  refine traces_of_keeps h (fun bus' hs' => ?_) rfl rfl
  obtain rfl := Option.some.inj (hs.symm.trans hs')
  exact ⟨_, rfl, hf bus⟩

/-- An event that is published is accepted without a trace, or leaves all of them. -/
theorem Surroundings.traces_publish (h : s.Traces config armed files drops) (now : Moment)
    (e : Event) :
    ((s.publish now e).2 = false ∧ (s.publish now e).1.Traces config armed files drops) ∨
    ((s.publish now e).2 = true ∧
      (s.publish now e).1.Traces config armed files (drops ++ [(now, e)])) := by
  obtain ⟨bus, hs, rfl, rfl, hdropped⟩ := h.bus
  have hfiles := h.files
  unfold publish
  rw [hs]
  dsimp only
  rcases bus.publish_traces now e s.files with
    ⟨ha, hk, hf, hal⟩ | ⟨ha, hc, hem, hd, hf, hal⟩
  · rw [ha, hf, hal, List.append_nil]
    refine Or.inl ⟨rfl, traces_of_keeps h (fun bus' hs' => ?_) rfl rfl⟩
    obtain rfl := Option.some.inj (hs.symm.trans hs')
    exact ⟨_, rfl, hk⟩
  · rw [ha, hf, hal]
    refine Or.inr ⟨rfl, ⟨_, rfl, hc, hem, ?_⟩, BusConfig.isLogged_concat hfiles now e, ?_⟩
    · rw [hd, hdropped, List.length_append]
      rfl
    · rw [List.map_append, Bus.alarming_append, h.alarms]
      rfl

end

namespace Incident

variable {η : Type} {config : BusConfig} {armed : Bool} {files : Files}
  {drops : List (Moment × Event)} {s : Surroundings η}

theorem lost_cons (s : Surroundings η) (i : Incident η) (l : List (Incident η)) :
    lost s (i :: l) = lost s [i] ++ lost (i.perform s) l := by
  unfold lost
  rw [verdicts, verdicts, verdicts, List.append_nil, List.filter_append, List.map_append]

theorem lost_publish (s : Surroundings η) (now : Moment) (e : Event) :
    lost s [aside (.publish now e)] = if (s.publish now e).2 then [(now, e)] else [] := by
  cases h : (s.publish now e).2 with
  | false => simp [lost, verdicts, published?, h]
  | true => simp [lost, verdicts, published?, h]

theorem lost_of_none {i : Incident η} (hi : i.published? = none) : lost s [i] = [] := by
  simp [lost, verdicts, hi]

theorem eq_publish {i : Incident η} {now : Moment} {e : Event}
    (hi : i.published? = some (now, e)) : i = aside (.publish now e) := by
  unfold published? at hi
  split at hi
  · obtain ⟨rfl, rfl⟩ := Prod.mk.inj (Option.some.inj hi)
    rfl
  · cases hi

/-- Where nothing is published no trace is left. -/
theorem traces_of_none (h : s.Traces config armed files drops) {i : Incident η}
    (hi : i.published? = none) : (i.perform s).Traces config armed files drops := by
  cases i with
  | sway call =>
    exact Surroundings.traces_onBus h
      (f := fun bus => ({ bus with emergency := bus.emergency.map fun _ => call }, []))
      fun bus => ⟨rfl, Option.isSome_map, rfl⟩
  | aside a =>
    cases a with
    | publish now e => cases hi
    | subscribe x =>
      exact Surroundings.traces_onBus h (f := fun bus => bus.subscribe x)
        fun bus => ⟨rfl, rfl, rfl⟩
    | start => exact Surroundings.traces_onBus h Bus.keeps_start
    | stop => exact Surroundings.traces_onBus h Bus.keeps_stop
    | take =>
      exact Surroundings.traces_onBus h (f := fun bus => (bus.take?.getD bus, [])) Bus.keeps_take
    | handle how => exact Surroundings.traces_onBus h fun bus => bus.keeps_handled how
    | finish => exact Surroundings.traces_onBus h Bus.keeps_delivered
    | crash reason =>
      exact Surroundings.traces_onBus h (f := fun bus => (bus.crash reason, []))
        fun bus => ⟨rfl, rfl, rfl⟩
    | record l =>
      exact Surroundings.traces_of_keeps h (fun bus hb => ⟨bus, hb, rfl, rfl, rfl⟩) rfl rfl

/-- What happens leaves the traces of what is lost by it. -/
theorem traces_perform (h : s.Traces config armed files drops) (i : Incident η) :
    (i.perform s).Traces config armed files (drops ++ lost s [i]) := by
  cases hi : i.published? with
  | none =>
    rw [lost_of_none hi, List.append_nil]
    exact traces_of_none h hi
  | some d =>
    obtain ⟨now, e⟩ := d
    obtain rfl := eq_publish hi
    rw [lost_publish]
    rcases Surroundings.traces_publish h now e with ⟨ha, ht⟩ | ⟨ha, ht⟩
    · rw [ha, if_neg Bool.false_ne_true, List.append_nil]
      exact ht
    · rw [ha, if_pos rfl]
      exact ht

theorem traces_run (h : s.Traces config armed files drops) (l : List (Incident η)) :
    (l.foldl perform s).Traces config armed files (drops ++ lost s l) := by
  induction l generalizing s drops with
  | nil =>
    rw [show lost s [] = [] from rfl, List.append_nil]
    exact h
  | cons i l ih =>
    rw [List.foldl_cons, lost_cons, ← List.append_assoc]
    exact ih (traces_perform h i)

theorem published_verdicts (s : Surroundings η) (l : List (Incident η)) :
    (verdicts s l).map Prod.fst = l.filterMap published? := by
  induction l generalizing s with
  | nil => rfl
  | cons i l ih =>
    rw [verdicts, List.map_append, ih, List.map_map, List.filterMap_cons]
    cases i.published? with
    | none => rfl
    | some d => rfl

/-- The surroundings of a new bus. -/
def opening (config : BusConfig) (emergency : Option (Event → Alarm)) (gate : Gate)
    (files : Files) : Surroundings η :=
  { gate, bus? := some (.new config emergency), files, log := [], pushes := [], alarms := [] }

theorem traces_opening (config : BusConfig) (emergency : Option (Event → Alarm)) (gate : Gate)
    (files : Files) :
    (opening config emergency gate files : Surroundings η).Traces config emergency.isSome files []
    where
  bus := ⟨_, rfl, rfl, rfl, rfl⟩
  files := .fresh
  alarms := by
    unfold Bus.alarming
    split <;> rfl

/-- Whatever happens around a bus, and however its callback behaves: every event that is published
is answered. As many events are counted as dropped as were answered with `false`; each of these
has its line in the fallback log, in order, if that can be opened, and nothing else is written; if
it cannot be opened, the first drop leaves the directories that could be made for it, and no file is
written at all. The callback was called for just those among the dropped events whose kind must be
delivered, in order. -/
theorem drops_traced (config : BusConfig) (emergency : Option (Event → Alarm)) (gate : Gate)
    (files : Files) (l : List (Incident η)) :
    let new : Surroundings η := opening config emergency gate files
    let done := l.foldl perform new
    let drops := lost new l
    (verdicts new l).map Prod.fst = l.filterMap published? ∧
    (∃ bus, done.bus? = some bus ∧ bus.stats.dropped = drops.length) ∧
    done.alarms = (if emergency.isSome then
      (drops.map Prod.snd).filter fun e => e.kind ∈ config.mustDeliver else []) ∧
    (config.fallbackLog = none → done.files = files) ∧
    ∀ path, config.fallbackLog = some path →
      match files.appendMaking path [] with
      | .error _ left =>
        (drops = [] → done.files = files) ∧ (drops ≠ [] → done.files = left) ∧
        ∀ q, files.Untouched done.files q
      | .ok opened =>
        (∀ content, files.read path = .ok content → opened.contents path = content) ∧
        (drops = [] → done.files = files) ∧
        (drops ≠ [] → done.files.read path = .ok (opened.contents path
          ++ drops.flatMap fun d => Bytes.encode (Bus.account d ++ ['\n']))) ∧
        (∀ d ∈ drops, '\n' ∉ Bus.account d) ∧
        ∀ q, opened.reach path ≠ .ok q → files.Untouched done.files q := by
  intro new done drops
  have ht : done.Traces config emergency.isSome files drops :=
    traces_run (traces_opening config emergency gate files) l
  obtain ⟨bus, hbus, -, -, hdropped⟩ := ht.bus
  have hfiles := ht.files
  refine ⟨published_verdicts new l, ⟨bus, hbus, hdropped⟩, ht.alarms, fun hnone => ?_,
    fun path hpath => ?_⟩
  · exact BusConfig.isLogged_of_none hfiles hnone
  · cases ho : files.appendMaking path [] with
    | error f left =>
      dsimp only
      rcases BusConfig.isLogged_of_error hfiles hpath ho with ⟨hd, hsame⟩ | ⟨hn, hleft⟩
      · exact ⟨fun _ => hsame, fun hn => absurd hd hn, fun q content => by rw [hsame]⟩
      · refine ⟨fun hd => absurd hd hn, fun _ => hleft, fun q => ?_⟩
        rw [hleft]
        exact Files.untouched_of_gainsDirectories (Files.gainsDirectories_of_error ho) q
    | ok opened =>
      have hbefore : ∀ content, files.read path = .ok content →
          opened.contents path = content := by
        intro content hread
        have happended := Files.read_appendMaking (Or.inl ⟨content, hread⟩) ho
        rw [Files.contents_of_read happended, List.append_nil, Files.contents_of_read hread]
      have hlines : (drops.flatMap fun d => Bytes.encode (Bus.account d ++ ['\n']))
          = Bus.accounts drops := by
        simp only [Bus.accounts, Bus.toList_fallbackLine]
      dsimp only
      rw [hlines]
      rcases BusConfig.isLogged_of_ok hfiles hpath ho with ⟨hd, hsame⟩ | ⟨hn, hlogged⟩
      · exact ⟨hbefore, fun _ => hsame, fun hn => absurd hd hn,
          fun d _ => Bus.lineFeed_not_mem_account d, fun q _ content => by rw [hsame]⟩
      · exact ⟨hbefore, fun hd => absurd hd hn, fun _ => Files.read_of_isLogged hlogged,
          fun d _ => Bus.lineFeed_not_mem_account d,
          fun q hq => Files.untouched_of_isLogged ho hlogged hq⟩

/-- Room for one event, and a fallback log in a directory that is not there yet. -/
def crampedBus : BusConfig := ⟨1, some "a/log", [.breakerTripped]⟩

/-- A report that waits for the dispatcher, and three events after it. The callback panics when it
is called for the last of them. -/
def publishesBeyondRoom : List (Incident Unit) :=
  let now : Moment := ⟨0, .epoch⟩
  let trip := Event.new now .breakerTripped .marketData .critical .dataStale
  [.aside (.publish now (.health now .risk .riskBreachSoft)), .aside (.publish now trip),
    .aside (.publish now (.health now .risk .riskBreachHard)),
    .sway fun _ => ⟨[], true⟩, .aside (.publish now trip), .aside .start, .aside .take,
    .aside (.publish now trip)]

/-- Three lines are written, and the callback is called for the two trips among the events that are
dropped; the one that is published once there is room again leaves no trace. -/
theorem drops_traced_publishesBeyondRoom :
    let new : Surroundings Unit := opening crampedBus (some fun _ => ⟨[], false⟩) .idle .empty
    let done := publishesBeyondRoom.foldl perform new
    let drops := lost new publishesBeyondRoom
    drops.map (fun d => d.2.kind) = [.breakerTripped, .healthReport, .breakerTripped] ∧
    done.alarms.map Event.kind = [.breakerTripped, .breakerTripped] ∧
    ∃ opened, Files.empty.appendMaking "a/log" [] = .ok opened ∧
      done.files.read "a/log" = .ok (opened.contents "a/log"
        ++ drops.flatMap fun d => Bytes.encode (Bus.account d ++ ['\n'])) := by
  intro new done drops
  have hkinds : drops.map (fun d => d.2.kind)
      = [.breakerTripped, .healthReport, .breakerTripped] := by decide +kernel
  have hdrops : drops ≠ [] := by
    intro hnil
    rw [hnil] at hkinds
    cases hkinds
  obtain ⟨-, -, halarms, -, hlog⟩ :=
    drops_traced crampedBus (some fun _ => ⟨[], false⟩) .idle .empty publishesBeyondRoom
  have hlog := hlog "a/log" rfl
  obtain ⟨opened, ho⟩ : ∃ opened, Files.empty.appendMaking "a/log" [] = .ok opened :=
    ⟨_, by with_unfolding_all rfl⟩
  simp only [ho] at hlog
  refine ⟨hkinds, ?_, opened, ho, hlog.2.2.1 hdrops⟩
  rw [show done.alarms = _ from halarms, if_pos Option.isSome_some]
  decide +kernel

end Incident

end Failsafe
