import Failsafe.Proofs.Buffer.Failures
import Failsafe.Proofs.Buffer.Rebuilding
import Failsafe.Proofs.Table
/-
  No accepted write is lost between the buffer and the database.

  A relay is the write buffer with its log, the database behind it, and the list of all writes
  that were ever accepted. Writes come in, batches go out, and the process may end at any time,
  also in a flush between the moment at which the database has taken the batch and the moment at
  which the log is emptied; it then starts again on the same log. As long as every accepted write
  is legible, the database overlaid with what is held is the record of all accepted writes, and a
  flush that succeeds leaves the record in the database alone (`isFaithful_run`). A write that is
  not legible is lost at the next start, unless it had been recorded before and its line is skipped.
-/

namespace Failsafe

/-- The write buffer, its files, the database behind it, and all writes ever accepted, oldest
first. -/
structure Relay where
  buffer : Buffer
  files : Files
  table : Table
  accepted : List Entry

namespace Relay

/-- What happens to a relay. A flush comes with the reply of the database, which takes a batch as
a whole or not at all; a start comes with the bounds of the new buffer. -/
inductive Deed where
  | add (e : Entry)
  | flush (reply : List Entry → Except Error Unit)
  /-- the process ends and starts again -/
  | restart (limits : BufferConfig)
  /-- the process ends in a flush that the database has taken, with the log not emptied yet, and
  starts again -/
  | crash (limits : BufferConfig)

/-- The database after it was handed what is held, if anything is. -/
def handed (reply : List Entry → Except Error Unit) (s : Relay) : Table :=
  match s.buffer.batch? with
  | none => s.table
  | some batch =>
    match reply batch with
    | .ok () => s.table.write batch
    | .error _ => s.table

/-- A new buffer on the log as it stands; everything stays where there is none. -/
def restarted (limits : BufferConfig) (s : Relay) : Relay :=
  match (Buffer.new { limits with wal := s.buffer.config.wal } s.files).1 with
  | .ok b => { s with buffer := b }
  | .error _ => s

/-- The relay after a deed. -/
def Deed.perform (s : Relay) : Deed → Relay
  | .add e =>
    let added := s.buffer.add e s.files
    { s with
      buffer := added.state.1
      files := added.state.2
      accepted := match added.answer with
        | .ok true => s.accepted ++ [s.buffer.stamp e]
        | _ => s.accepted }
  | .flush reply =>
    let done := s.buffer.flush reply s.files
    { s with buffer := done.state.1, files := done.state.2, table := s.handed reply }
  | .restart limits => s.restarted limits
  | .crash limits => { s with table := s.handed fun _ => .ok () }.restarted limits

/-- The relay after some deeds. -/
def run (s : Relay) (deeds : List Deed) : Relay := deeds.foldl Deed.perform s

theorem run_cons (s : Relay) (d : Deed) (deeds : List Deed) :
    run s (d :: deeds) = run (d.perform s) deeds := List.foldl_cons ..

/-- For each key the write that was accepted last. -/
def record (s : Relay) : Table := Table.empty.write s.accepted

/-- The database overlaid with what is held. -/
def view (s : Relay) : Table := s.table.write s.buffer.entries

/-- Nothing accepted is missing, and nothing else is there. -/
def IsFaithful (s : Relay) : Prop := s.view = s.record

/-- All accepted writes are storable, and read back as they are. -/
def IsClean (s : Relay) : Prop := ∀ e ∈ s.accepted, e.isStorable = true ∧ e.isLegible = true

/-- The log is not there or has no bytes. -/
def IsSpent (path : String) (s : Relay) : Prop :=
  s.files.read path = .error .notFound ∨ s.files.read path = .ok []

/-- What holds of a relay between deeds: the log gives back what is held, no key is held twice,
nothing is left in the log of an empty buffer, and the relay is faithful. -/
structure IsSound (path : String) (s : Relay) : Prop where
  wal : s.buffer.config.wal = some path
  holds : Wal.Holds s.files path s.buffer.entries
  distinct : (s.buffer.entries.map Entry.key).Nodup
  spent : s.buffer.entries = [] → s.IsSpent path
  faithful : s.IsFaithful

/-- Nothing can be appended to the log, so nothing has ever been accepted. -/
structure IsBarred (path : String) (s : Relay) : Prop where
  wal : s.buffer.config.wal = some path
  append : ∀ e, ∃ f left, s.buffer.appendLog s.files e = .error f left
  entries : s.buffer.entries = []
  accepted : s.accepted = []
  table : s.table = .empty

/-! ## What a deed can do -/

section
variable {s : Relay}

theorem handed_cases (reply : List Entry → Except Error Unit) (s : Relay) :
    s.handed reply = s.table ∨ s.handed reply = s.table.write s.buffer.entries := by
  unfold handed Buffer.batch?
  split
  · exact Or.inl rfl
  · next batch hb =>
    split at hb
    · cases hb
    · obtain rfl := Option.some.inj hb
      split
      · exact Or.inr rfl
      · exact Or.inl rfl

/-- Handing over what is held cannot be seen from outside, as long as it stays held. -/
theorem write_handed (reply : List Entry → Except Error Unit) (s : Relay) :
    (s.handed reply).write s.buffer.entries = s.view := by
  rcases handed_cases reply s with h | h
  · rw [h, view]
  · rw [h, Table.write_write_self, view]

theorem handed_of_ok {reply : List Entry → Except Error Unit} (hr : reply s.buffer.entries = .ok ())
    (he : s.buffer.entries ≠ []) : s.handed reply = s.table.write s.buffer.entries := by
  have hb : s.buffer.batch? = some s.buffer.entries := by
    unfold Buffer.batch?
    rw [if_neg fun hn => he (List.isEmpty_iff.mp hn)]
  unfold handed
  rw [hb]
  dsimp only
  rw [hr]

/-- A write is held, logged and put on record, or nothing happens, unless directories have been
made for the log in vain. -/
theorem add_cases (s : Relay) (e : Entry) :
    ((s.buffer.add e s.files).answer ≠ .ok true ∧
      ∃ left, s.buffer.IsLeft (s.buffer.stamp e) s.files left ∧
        (Deed.add e).perform s = { s with files := left }) ∨
    ∃ files', s.buffer.appendLog s.files (s.buffer.stamp e) = .ok files' ∧
      (s.buffer.add e s.files).answer = .ok true ∧
      (Deed.add e).perform s = ⟨s.buffer.hold (s.buffer.stamp e), files', s.table,
        s.accepted ++ [s.buffer.stamp e]⟩ := by
  rw [Deed.perform]
  rcases Buffer.add_cases s.buffer e s.files with ⟨ha, left, hl, hs⟩ | ⟨files', hf, ha, hs⟩
  · left
    rw [hs]
    refine ⟨ha, left, hl, ?_⟩
    split
    · next h => exact absurd h ha
    · rfl
  · right
    rw [hs, ha]
    exact ⟨files', hf, rfl, rfl⟩

theorem accepted_restarted (limits : BufferConfig) (s : Relay) :
    (s.restarted limits).accepted = s.accepted := by
  unfold restarted
  split <;> rfl

/-- What was accepted stays on record. -/
theorem accepted_perform (s : Relay) (d : Deed) : s.accepted <+: (d.perform s).accepted := by
  cases d with
  | add e =>
    rcases add_cases s e with ⟨-, left, -, h⟩ | ⟨files', -, -, h⟩
    · rw [h]
    · rw [h]
      exact List.prefix_append _ _
  | flush reply => exact List.prefix_refl _
  | restart limits => rw [Deed.perform, accepted_restarted]
  | crash limits => rw [Deed.perform, accepted_restarted]

theorem accepted_run (s : Relay) (deeds : List Deed) : s.accepted <+: (run s deeds).accepted := by
  induction deeds generalizing s with
  | nil => exact List.prefix_refl _
  | cons d deeds ih =>
    rw [run_cons]
    exact (accepted_perform s d).trans (ih _)

theorem isClean_of_earlier {s' : Relay} (hp : s.accepted <+: s'.accepted) (h : s'.IsClean) :
    s.IsClean := fun e he => h e (hp.subset he)

/-! ## One deed -/

variable {path : String}

/-- A process that starts again holds what the log gives back. -/
theorem restarted_of_holds {l : List Entry} (hw : s.buffer.config.wal = some path)
    (h : Wal.Holds s.files path l) (limits : BufferConfig) :
    ∃ b, s.restarted limits = { s with buffer := b } ∧ b.config.wal = some path ∧
      b.entries = l := by
  have hl : { limits with wal := s.buffer.config.wal }.wal = some path := hw
  obtain ⟨b, hb, hconfig, he, -⟩ := Buffer.new_of_holds hl h
  refine ⟨b, ?_, by rw [hconfig, hl], he⟩
  unfold restarted
  rw [hb]

/-- Starting again changes nothing that can be seen. -/
theorem isSound_restarted (h : s.IsSound path) (limits : BufferConfig) :
    (s.restarted limits).IsSound path := by
  obtain ⟨b, hs, hw, he⟩ := restarted_of_holds h.wal h.holds limits
  rw [hs]
  refine ⟨hw, ?_, ?_, ?_, ?_⟩
  · show Wal.Holds s.files path b.entries
    rw [he]
    exact h.holds
  · show (b.entries.map Entry.key).Nodup
    rw [he]
    exact h.distinct
  · intro hn
    exact h.spent (he.symm.trans hn)
  · show s.table.write b.entries = s.record
    rw [he]
    exact h.faithful

/-- The database may have been handed what is held any number of times. -/
theorem isSound_handed (h : s.IsSound path) (reply : List Entry → Except Error Unit) :
    { s with table := s.handed reply }.IsSound path :=
  ⟨h.wal, h.holds, h.distinct, h.spent, (write_handed reply s).trans h.faithful⟩

/-- Directories that are made for the log in vain change nothing that can be seen. -/
theorem isSound_of_isLeft (h : s.IsSound path) {e : Entry} {left : Files}
    (hl : s.buffer.IsLeft e s.files left) : { s with files := left }.IsSound path := by
  refine ⟨h.wal, Buffer.holds_of_isLeft h.wal h.holds hl, h.distinct, fun hn => ?_, h.faithful⟩
  rcases hl with rfl | ⟨f, hf⟩
  · exact h.spent hn
  · rw [Buffer.appendLog_of_wal h.wal] at hf
    -- a log that cannot be opened has not been read
    rcases h.holds with ⟨⟨habsent, hparent⟩, -⟩ | ⟨c, hr, -, -⟩
    · exact Or.inl (Files.isAbsent_of_error habsent hparent hf).1.1
    · obtain ⟨⟨f', ht⟩, -⟩ := Files.truncate_of_error hf
      rw [(Files.truncate_of_read hr).2] at ht
      cases ht

/-- A legible write is held, logged and recorded alike. -/
theorem isSound_add (h : s.IsSound path) {e : Entry} (hc : ((Deed.add e).perform s).IsClean) :
    ((Deed.add e).perform s).IsSound path := by
  rcases add_cases s e with ⟨-, left, hl, hs⟩ | ⟨files', hf, -, hs⟩
  · rw [hs]
    exact isSound_of_isLeft h hl
  · rw [hs] at hc ⊢
    obtain ⟨hstorable, hlegible⟩ :=
      hc (s.buffer.stamp e) (List.mem_append_right _ List.mem_cons_self)
    rw [Buffer.appendLog_of_wal h.wal] at hf
    have hreplay := (Buffer.replay_eq_upsert_iff _ s.buffer.entries).mpr (Or.inl hlegible)
    refine ⟨h.wal, ?_, Entry.nodup_upsert h.distinct _, ?_, ?_⟩
    · have hholds := Wal.holds_append h.holds (Wal.addLine_line hstorable) hf
      rw [hreplay] at hholds
      exact hholds
    · intro hn
      exact absurd hn (Entry.upsert_ne_nil _ _)
    · show s.table.write (Entry.upsert (s.buffer.stamp e) s.buffer.entries)
        = Table.empty.write (s.accepted ++ [s.buffer.stamp e])
      rw [Table.write_upsert h.distinct, Table.write_concat]
      exact congrArg (Table.put · _) h.faithful

theorem isSpent_truncate {files files' : Files} (h : files.truncate path = .ok files') :
    files'.read path = .ok [] := Files.read_write h

theorem isSound_flush (h : s.IsSound path) (reply : List Entry → Except Error Unit) :
    ((Deed.flush reply).perform s).IsSound path := by
  have hh := isSound_handed h reply
  rw [Deed.perform]
  rcases s.buffer.flush_outcomes reply s.files with
    ⟨-, hs⟩ | ⟨-, -, hs⟩ | ⟨he, hr, files', ht, -, hs⟩
  · rw [hs]
    exact hh
  · rw [hs]
    exact hh
  · rw [Buffer.truncateLog_of_wal h.wal] at ht
    rw [hs]
    refine ⟨h.wal, Wal.holds_truncate ht, List.nodup_nil, fun _ => Or.inr (isSpent_truncate ht), ?_⟩
    -- what was held is in the database now
    show s.handed reply = s.record
    rw [handed_of_ok hr he]
    exact h.faithful

theorem isSound_perform (h : s.IsSound path) {d : Deed} (hc : (d.perform s).IsClean) :
    (d.perform s).IsSound path := by
  cases d with
  | add e => exact isSound_add h hc
  | flush reply => exact isSound_flush h reply
  | restart limits => exact isSound_restarted h limits
  | crash limits => exact isSound_restarted (isSound_handed h _) limits

/-- A flush that succeeds leaves the record in the database alone. -/
theorem record_flush (h : s.IsSound path) {reply : List Entry → Except Error Unit} {n : Nat}
    (ha : (s.buffer.flush reply s.files).answer = .ok n) :
    ((Deed.flush reply).perform s).table = ((Deed.flush reply).perform s).record ∧
    ((Deed.flush reply).perform s).buffer.entries = [] ∧
    ((Deed.flush reply).perform s).IsSpent path := by
  have hs := isSound_flush h reply
  have he : ((Deed.flush reply).perform s).buffer.entries = [] := by
    show (s.buffer.flush reply s.files).state.1.entries = []
    rcases s.buffer.flush_outcomes reply s.files with
      ⟨⟨f, hf⟩, -⟩ | ⟨he, -, hs⟩ | ⟨-, -, files', -, -, hs⟩
    · exact absurd (hf.symm.trans ha) (by simp)
    · rw [hs]
      exact he
    · rw [hs]
  refine ⟨?_, he, hs.spent he⟩
  have hf := hs.faithful
  unfold IsFaithful view at hf
  rw [he] at hf
  exact hf

/-- Whether a write survives a start of the process: if it is legible, or if it had been recorded
already and its line is skipped. -/
theorem isFaithful_restart_iff (h : s.IsSound path) {e : Entry} (limits : BufferConfig)
    (ha : (s.buffer.add e s.files).answer = .ok true)
    (hstorable : (s.buffer.stamp e).isStorable = true) :
    (run s [.add e, .restart limits]).IsFaithful ↔
      (s.buffer.stamp e).isLegible = true ∨
        ((s.buffer.stamp e).reread? = none ∧
          s.record (s.buffer.stamp e).key = some (s.buffer.stamp e)) := by
  rcases add_cases s e with ⟨hn, -⟩ | ⟨files', hf, -, hs⟩
  · exact absurd ha hn
  · rw [Buffer.appendLog_of_wal h.wal] at hf
    have hholds := Wal.holds_append h.holds (Wal.addLine_line hstorable) hf
    have hview : s.view = s.record := h.faithful
    rw [run_cons, run_cons, hs]
    obtain ⟨b, hb, -, he⟩ := restarted_of_holds
      (s := ⟨s.buffer.hold (s.buffer.stamp e), files', s.table,
        s.accepted ++ [s.buffer.stamp e]⟩) h.wal hholds limits
    show (Relay.restarted limits _).IsFaithful ↔ _
    rw [hb]
    show s.table.write b.entries = Table.empty.write (s.accepted ++ [s.buffer.stamp e]) ↔ _
    rw [he, Table.write_concat, ← Entry.reread?_eq_some_self_iff, Entry.replay]
    cases hr : (s.buffer.stamp e).reread? with
    | none =>
      show s.view = s.record.put (s.buffer.stamp e) ↔ _
      rw [hview, eq_comm, Table.put_eq_self_iff]
      simp
    | some e' =>
      dsimp only
      rw [Table.write_upsert h.distinct]
      show s.view.put e' = s.record.put (s.buffer.stamp e) ↔ _
      rw [hview, Table.put_eq_put_iff (Entry.key_of_reread? hr)]
      simp

theorem contents_of_isSpent (h : s.IsSpent path) : s.files.contents path = [] := by
  rcases h with hread | hread <;> rw [Files.contents, hread]

/-! ## Logs that cannot be appended to -/

/-- A write is not accepted if it cannot be logged. -/
theorem answer_of_isBarred (h : s.IsBarred path) (e : Entry) :
    (s.buffer.add e s.files).answer ≠ .ok true := by
  rcases add_cases s e with ⟨hn, -⟩ | ⟨files', hf, -, -⟩
  · exact hn
  · obtain ⟨f, left, hf'⟩ := h.append (s.buffer.stamp e)
    cases hf'.symm.trans hf

theorem contents_of_isBarred (h : s.IsBarred path) : s.files.contents path = [] := by
  obtain ⟨f, left, hf⟩ := h.append default
  obtain ⟨path', hw, ha⟩ := Buffer.appendLog_eq_error hf
  obtain rfl := Option.some.inj (h.wal.symm.trans hw)
  exact (Files.contents_of_error ha).1

theorem handed_of_nil (h : s.buffer.entries = []) (reply : List Entry → Except Error Unit) :
    s.handed reply = s.table := by
  rcases handed_cases reply s with hs | hs
  · exact hs
  · rw [hs, h]
    rfl

/-- Nothing is restored from such a log. -/
theorem isBarred_restarted (h : s.IsBarred path) (limits : BufferConfig) :
    (s.restarted limits).IsBarred path := by
  unfold restarted
  split
  · next b hb =>
    have hl : { limits with wal := s.buffer.config.wal }.wal = some path := h.wal
    have hempty := Buffer.entries_of_contents_nil hl (contents_of_isBarred h) hb
    obtain ⟨r, -, rfl⟩ := Buffer.ofReplay_of_new hl hb
    exact ⟨hl, h.append, hempty, h.accepted, h.table⟩
  · exact h

theorem isBarred_perform (h : s.IsBarred path) (d : Deed) : (d.perform s).IsBarred path := by
  cases d with
  | add e =>
    rcases add_cases s e with ⟨-, left, rfl | ⟨f, hf⟩, hs⟩ | ⟨files', -, ha, -⟩
    · rw [hs]
      exact h
    · rw [hs]
      refine ⟨h.wal, fun e' => ?_, h.entries, h.accepted, h.table⟩
      obtain ⟨f', hf'⟩ := (Buffer.isStuck_of_error hf).append e'
      exact ⟨f', left, hf'⟩
    · exact absurd ha (answer_of_isBarred h e)
  | flush reply =>
    rw [Deed.perform]
    rcases s.buffer.flush_cases reply s.files with hs | ⟨hn, -⟩
    · rw [hs, handed_of_nil h.entries]
      exact h
    · exact absurd h.entries hn
  | restart limits => exact isBarred_restarted h limits
  | crash limits =>
    rw [Deed.perform, handed_of_nil h.entries]
    exact isBarred_restarted h limits

theorem isFaithful_of_isBarred (h : s.IsBarred path) : s.IsFaithful := by
  unfold IsFaithful view record
  rw [h.table, h.entries, h.accepted]

end

/-! ## Many deeds -/

theorem isSound_run {path : String} {s : Relay} (h : s.IsSound path) {deeds : List Deed}
    (hc : (run s deeds).IsClean) : (run s deeds).IsSound path := by
  induction deeds generalizing s with
  | nil => exact h
  | cons d deeds ih =>
    rw [run_cons] at hc ⊢
    exact ih (isSound_perform h (isClean_of_earlier (accepted_run _ _) hc)) hc

theorem isBarred_run {path : String} {s : Relay} (h : s.IsBarred path) (deeds : List Deed) :
    (run s deeds).IsBarred path := by
  induction deeds generalizing s with
  | nil => exact h
  | cons d deeds ih =>
    rw [run_cons]
    exact ih (isBarred_perform h d)

/-- A new buffer without a log, in front of an empty database. -/
def new (b : Buffer) (files : Files) : Relay := ⟨b, files, .empty, []⟩

/-- Nothing is held, recorded or logged at first. -/
theorem isSound_new {config : BufferConfig} {files : Files} {path : String} {b : Buffer}
    (hw : config.wal = some path) (hf : files.IsAbsent path) (hp : files.HasParent path)
    (hb : (Buffer.new config files).1 = .ok b) : (new b files).IsSound path := by
  have hholds : Wal.Holds files path [] := Or.inl ⟨⟨hf, hp⟩, rfl⟩
  obtain ⟨b', hb', hconfig, he, -⟩ := Buffer.new_of_holds hw hholds
  obtain rfl := Except.ok.inj (hb'.symm.trans hb)
  refine ⟨by rw [← hw, ← hconfig]; rfl, ?_, ?_, fun _ => Or.inl hf.1, ?_⟩
  · show Wal.Holds files path b'.entries
    rw [he]
    exact hholds
  · show (b'.entries.map Entry.key).Nodup
    rw [he]
    exact List.nodup_nil
  · show Table.empty.write b'.entries = Table.empty.write []
    rw [he]

/-- A log whose directories cannot be made is never appended to. -/
theorem isBarred_new {config : BufferConfig} {files : Files} {path : String} {b : Buffer}
    (hw : config.wal = some path) (hf : files.IsAbsent path) (hp : ¬ files.HasParent path)
    (hb : (Buffer.new config files).1 = .ok b) : (new b files).IsBarred path := by
  have hnone : files.contents path = [] := by
    unfold Files.contents
    rw [hf.1]
  have hempty := Buffer.entries_of_contents_nil hw hnone hb
  obtain ⟨r, -, rfl⟩ := Buffer.ofReplay_of_new hw hb
  refine ⟨hw, fun e => ?_, hempty, rfl, rfl⟩
  show ∃ f left, (Buffer.ofReplay config r).appendLog files e = .error f left
  rw [Buffer.appendLog_of_wal hw, Wal.append, Files.appendMaking]
  cases hm : files.makeParent path with
  | ok made => exact absurd ⟨made, hm⟩ hp
  | error f left => exact ⟨f, left, rfl⟩

/-- From an empty database and no log on, as long as every accepted write is legible: the database
overlaid with what is held is the record of all accepted writes, whenever the process ended and
however often a batch was handed over; a flush that succeeds leaves the record in the database,
nothing in memory and nothing in the log; and the process can always start again. (Where the
directories above the log cannot be made, nothing is ever accepted, and what stands in the way may
also keep a process from starting.) A further write is lost at the next start just if it is not
legible, unless it is on record already and its line is skipped. -/
theorem isFaithful_run {config : BufferConfig} {files : Files} {path : String}
    (hw : config.wal = some path) (hf : files.IsAbsent path) :
    ∃ b, (Buffer.new config files).1 = .ok b ∧ ∀ deeds : List Deed,
      let s := run (new b files) deeds
      s.IsClean →
        s.IsFaithful ∧
        (files.HasParent path → ∀ limits : BufferConfig,
          ∃ b', (Buffer.new { limits with wal := some path } s.files).1 = .ok b') ∧
        (∀ reply n, (s.buffer.flush reply s.files).answer = .ok n →
          ((Deed.flush reply).perform s).table = ((Deed.flush reply).perform s).record ∧
          ((Deed.flush reply).perform s).buffer.entries = [] ∧
          ((Deed.flush reply).perform s).files.contents path = [] ∧
          (files.HasParent path → ((Deed.flush reply).perform s).IsSpent path)) ∧
        ∀ e limits, (s.buffer.add e s.files).answer = .ok true →
          (s.buffer.stamp e).isStorable = true →
          ((run s [.add e, .restart limits]).IsFaithful ↔
            (s.buffer.stamp e).isLegible = true ∨
              ((s.buffer.stamp e).reread? = none ∧
                s.record (s.buffer.stamp e).key = some (s.buffer.stamp e))) := by
  have hb := Buffer.new_of_notFound hw hf.1
  refine ⟨_, hb, ?_⟩
  intro deeds s hc
  by_cases hp : files.HasParent path
  · have hs : s.IsSound path := isSound_run (isSound_new hw hf hp hb) hc
    refine ⟨hs.faithful, fun _ limits => ?_, fun reply n ha => ?_,
      fun e limits ha hst => isFaithful_restart_iff hs limits ha hst⟩
    · have hl : { limits with wal := some path }.wal = some path := rfl
      obtain ⟨b', hb', -⟩ := Buffer.new_of_holds hl hs.holds
      exact ⟨b', hb'⟩
    · obtain ⟨htable, hempty, hspent⟩ := record_flush hs ha
      exact ⟨htable, hempty, contents_of_isSpent hspent, fun _ => hspent⟩
  · have hs : s.IsBarred path := isBarred_run (isBarred_new hw hf hp hb) deeds
    refine ⟨isFaithful_of_isBarred hs, fun h => absurd h hp, fun reply n _ => ?_,
      fun e limits ha => absurd ha (answer_of_isBarred hs e)⟩
    have hs' := isBarred_perform hs (.flush reply)
    refine ⟨?_, hs'.entries, contents_of_isBarred hs', fun h => absurd h hp⟩
    rw [record, hs'.table, hs'.accepted]
    rfl

/-- An ordinary write that is accepted survives the end of the process in a flush. One with the
key of quotations is accepted, and lost at the next start. -/
theorem isFaithful_noted :
    ∃ b, (Buffer.new ⟨10, 1000, some "w", false⟩ .empty).1 = .ok b ∧
      (run (new b .empty) [.add (Buffer.noted "note"), .crash .standard]).IsFaithful ∧
      (b.add (Buffer.noted Json.quotingKey) .empty).answer = .ok true ∧
      ¬ (run (new b .empty)
        [.add (Buffer.noted Json.quotingKey), .restart .standard]).IsFaithful := by
  let config : BufferConfig := ⟨10, 1000, some "w", false⟩
  have hw : config.wal = some "w" := rfl
  have hnew := Buffer.new_of_notFound hw Buffer.isAbsent_empty.1
  obtain ⟨b, hb, hrun⟩ := isFaithful_run hw Buffer.isAbsent_empty
  obtain rfl := Except.ok.inj (hb.symm.trans hnew)
  have ha : (Buffer.add (Buffer.noted Json.quotingKey) .empty ⟨config, [], 0, 0⟩).answer
      = .ok true := by decide +kernel
  refine ⟨_, hb, (hrun _ ?_).1, ha, fun h => ?_⟩
  · intro e he
    rw [run_cons, run_cons] at he
    change e ∈ (Relay.restarted _ _).accepted at he
    rw [accepted_restarted] at he
    obtain rfl : e = Buffer.noted "note" := by
      rcases add_cases (new ⟨config, [], 0, 0⟩ .empty) (Buffer.noted "note") with
        ⟨-, left, -, hs⟩ | ⟨files', -, -, hs⟩
      · rw [hs] at he
        simp [new] at he
      · rw [hs] at he
        exact List.mem_singleton.mp he
    decide
  · obtain ⟨-, -, -, hiff⟩ := hrun [] (by simp [IsClean, run, new])
    rcases (hiff _ .standard ha (by decide)).mp h with hl | hl
    · exact absurd hl (by decide)
    · cases hl.2

end Relay

end Failsafe
