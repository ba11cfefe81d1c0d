import Failsafe.Proofs.Appending
import Failsafe.Proofs.Buffer.Calls
import Failsafe.Proofs.Upsert
import Failsafe.Proofs.Wal
/-
  What is held can be rebuilt from the log at any time.

  A buffer starts from a log that is a text of finished lines, or that does not exist. After
  every call a new buffer on the same log holds the same entries, as long as every accepted entry
  is kept: its line is read back as itself, or it is not read back at all and the same entry is
  held already (`rebuilds_iff_keeps`). Only entries with an object in their data that begins with
  `Json.quotingKey` are not read back as themselves.
-/

namespace Failsafe

/-- The log is not there, but the directories above it can be, or it is a text of finished
lines. -/
def Wal.IsSound (files : Files) (path : String) : Prop :=
  (files.IsAbsent path ∧ files.HasParent path) ∨
    ∃ s, files.read path = .ok (Bytes.encode s) ∧ (s = [] ∨ s.getLast? = some '\n')

/-- The log is sound and gives back some entries. -/
def Wal.Holds (files : Files) (path : String) (l : List Entry) : Prop :=
  ((files.IsAbsent path ∧ files.HasParent path) ∧ l = []) ∨
    ∃ s, files.read path = .ok (Bytes.encode s) ∧ (s = [] ∨ s.getLast? = some '\n') ∧
      Wal.held (Bytes.encode s) = .ok l

namespace Buffer

/-- A new buffer on the log as it stands holds the same entries, and counts the same bytes. -/
def Rebuilds (s : Buffer × Files) : Prop :=
  ∃ b, (Buffer.new s.1.config s.2).1 = .ok b ∧ b.entries = s.1.entries ∧ b.bytes = s.1.bytes

/-- The write is not accepted, or its line stands for the entry that is then held. -/
def Keeps (s : Buffer × Files) (e : Entry) : Prop :=
  (s.1.add e s.2).answer = .ok true →
    (s.1.stamp e).isLegible = true ∨
      ((s.1.stamp e).reread? = none ∧ s.1.find? (s.1.stamp e).key = some (s.1.stamp e))

end Buffer

namespace Wal

/-- A sound log gives back some entries. -/
theorem holds_of_isSound {files : Files} {path : String} (h : IsSound files path) :
    ∃ l, Holds files path l := by
  rcases h with h | ⟨s, hr, hs⟩
  · exact ⟨[], Or.inl ⟨h, rfl⟩⟩
  · obtain ⟨l, hl⟩ := held_encode s
    exact ⟨l, Or.inr ⟨s, hr, hs, hl⟩⟩

theorem load_of_holds {files : Files} {path : String} {l : List Entry} (h : Holds files path l) :
    (load files path).1.map Replay.entries = .ok l := by
  rcases h with ⟨h, rfl⟩ | ⟨s, hr, -, hl⟩
  · rw [load_notFound h.1.1]
    rfl
  · rw [load_entries hr, hl]

/-- A log stays sound, and gives back what the line of the entry makes of what it gave back. -/
theorem holds_append {files files' : Files} {path : String} {l : List Entry} {e : Entry}
    {f : List Entry → List Entry} (h : Holds files path l)
    (hf : ∀ l, addLine l (Bytes.encode e.toJson.render) = .ok (f l))
    (ha : append files path e = .ok files') : Holds files' path (f l) := by
  right
  rcases h with ⟨h, rfl⟩ | ⟨s, hr, hs, hl⟩
  · have hread := Files.read_appendMaking (Or.inr h.1) ha
    have hc : files.contents path = [] := by
      unfold Files.contents
      rw [h.1.1]
    rw [hc] at hread
    refine ⟨line e, hread, Or.inr List.getLast?_concat, ?_⟩
    have hh := held_line (a := []) (Or.inl rfl) hf
    rw [List.nil_append] at hh
    rw [hh]
    rfl
  · have hread := Files.read_appendMaking (Or.inl ⟨_, hr⟩) ha
    rw [Files.contents_of_read hr, ← Bytes.encode_append] at hread
    refine ⟨s ++ line e, hread, Or.inr ?_, ?_⟩
    · unfold line
      rw [← List.append_assoc]
      exact List.getLast?_concat
    · rw [Bytes.encode_append, held_line (Bytes.isClosed_encode hs) hf, hl]
      rfl

/-- An append that fails leaves a log that gives back the same. -/
theorem holds_of_error {files left : Files} {path : String} {l : List Entry} {e : Entry}
    {f : FileError} (h : Holds files path l) (ha : append files path e = .error f left) :
    Holds left path l := by
  rcases h with ⟨⟨habsent, hparent⟩, hl⟩ | ⟨s, hr, hs, hl⟩
  · exact Or.inl ⟨Files.isAbsent_of_error habsent hparent ha, hl⟩
  · have hextends := Files.extends_of_gainsDirectories (Files.gainsDirectories_of_error ha)
    exact Or.inr ⟨s, Files.read_of_extends hextends hr, hs, hl⟩

/-- An emptied log gives back nothing. -/
theorem holds_truncate {files files' : Files} {path : String}
    (ht : files.truncate path = .ok files') : Holds files' path [] :=
  Or.inr ⟨[], Files.read_write ht, Or.inl rfl, rfl⟩

end Wal

namespace Buffer

section
variable {config : BufferConfig} {path : String} {files : Files} {l : List Entry}

/-- What a buffer with a log starts with has been loaded. -/
theorem ofReplay_of_new {b : Buffer} (hw : config.wal = some path)
    (h : (Buffer.new config files).1 = .ok b) :
    ∃ r, (Wal.load files path).1 = .ok r ∧ b = ofReplay config r := by
  rcases new_cases h with ⟨hw', -⟩ | ⟨path', r, hw', hr, rfl⟩
  · cases hw.symm.trans hw'
  · obtain rfl := Option.some.inj (hw.symm.trans hw')
    exact ⟨r, hr, rfl⟩

/-- A buffer starts with what its log gives back. -/
theorem new_of_load (hw : config.wal = some path)
    (hl : (Wal.load files path).1.map Replay.entries = .ok l) :
    ∃ b, (Buffer.new config files).1 = .ok b ∧ b.config = config ∧ b.entries = l ∧
      b.bytes = Entry.totalSize l := by
  unfold new
  rw [hw]
  dsimp only
  split
  · next f signals hf => simp [hf, Except.map] at hl
  · next r signals hr =>
    rw [hr] at hl
    obtain rfl := Except.ok.inj hl
    exact ⟨_, rfl, rfl, rfl, rfl⟩

/-- A buffer starts with nothing where there is no log. -/
theorem new_of_notFound (hw : config.wal = some path) (h : files.read path = .error .notFound) :
    (Buffer.new config files).1 = .ok ⟨config, [], 0, 0⟩ := by
  unfold new Wal.load
  rw [hw]
  dsimp only
  rw [h]
  rfl

/-- A buffer starts with nothing if its log has no bytes. -/
theorem entries_of_contents_nil {b : Buffer} (hw : config.wal = some path)
    (hc : files.contents path = []) (h : (Buffer.new config files).1 = .ok b) :
    b.entries = [] := by
  obtain ⟨r, hr, rfl⟩ := ofReplay_of_new hw h
  unfold Wal.load at hr
  split at hr
  · obtain rfl := Except.ok.inj hr
    rfl
  · cases hr
  · next content hread =>
    obtain rfl : content = [] := (Files.contents_of_read hread).symm.trans hc
    obtain rfl := Except.ok.inj hr
    rfl

theorem new_of_holds (hw : config.wal = some path) (h : Wal.Holds files path l) :
    ∃ b, (Buffer.new config files).1 = .ok b ∧ b.config = config ∧ b.entries = l ∧
      b.bytes = Entry.totalSize l :=
  new_of_load hw (Wal.load_of_holds h)

theorem rebuilds_iff {b : Buffer} (hw : b.config.wal = some path) (h : Wal.Holds files path l) :
    Rebuilds (b, files) ↔ l = b.entries ∧ Entry.totalSize l = b.bytes := by
  obtain ⟨b', hb, -, rfl, hs⟩ := new_of_holds hw h
  rw [← hs]
  constructor
  · rintro ⟨b'', hb'', he, hn⟩
    obtain rfl := Except.ok.inj (hb.symm.trans hb'')
    exact ⟨he, hn⟩
  · rintro ⟨he, hn⟩
    exact ⟨b', hb, he, hn⟩

/-- The bytes are counted as if the sizes were added up anew. -/
theorem bytes_hold {b : Buffer} (hb : b.bytes = Entry.totalSize b.entries) (e : Entry) :
    (b.hold e).bytes = Entry.totalSize (b.hold e).entries := by
  show (b.after e).2 = Entry.totalSize (Entry.upsert e b.entries)
  unfold after
  cases hf : b.find? e.key with
  | none => rw [Entry.totalSize_upsert_of_none hf, hb]
  | some held => rw [Entry.totalSize_upsert_of_some hf, hb]

/-- Reading an entry's line back has the effect of holding the entry just if it is kept. -/
theorem replay_eq_upsert_iff (e : Entry) (l : List Entry) :
    e.replay l = Entry.upsert e l ↔
      e.isLegible = true ∨ (e.reread? = none ∧ Entry.find? e.key l = some e) := by
  rw [← Entry.reread?_eq_some_self_iff]
  unfold Entry.replay
  cases h : e.reread? with
  | none =>
    rw [eq_comm, Entry.upsert_eq_self_iff]
    simp
  | some e' =>
    rw [Entry.upsert_eq_upsert_iff (Entry.key_of_reread? h)]
    simp

end

/-! ## One call -/

section
variable {path : String} {b : Buffer} {files : Files} {l : List Entry}

theorem appendLog_of_wal (hw : b.config.wal = some path) (e : Entry) :
    b.appendLog files e = Wal.append files path e := by
  unfold appendLog
  rw [hw]

theorem truncateLog_of_wal (hw : b.config.wal = some path) :
    b.truncateLog files = files.truncate path := by
  unfold truncateLog
  rw [hw]

/-- What a write leaves that is not accepted gives back the same. -/
theorem holds_of_isLeft (hw : b.config.wal = some path) (h : Wal.Holds files path l) {e : Entry}
    {left : Files} (hl : b.IsLeft e files left) : Wal.Holds left path l := by
  rcases hl with rfl | ⟨f, hf⟩
  · exact h
  · rw [appendLog_of_wal hw] at hf
    exact Wal.holds_of_error h hf

/-- Whether an accepted write can be rebuilt depends on its own line only. -/
theorem rebuilds_add_iff (hw : b.config.wal = some path) (h : Wal.Holds files path l)
    (hr : Rebuilds (b, files)) {e : Entry} (he : (b.stamp e).isStorable = true) :
    Rebuilds ((Call.add e).perform (b, files)) ↔ Keeps (b, files) e := by
  obtain ⟨rfl, hb⟩ := (rebuilds_iff hw h).mp hr
  unfold Keeps
  rw [Call.perform]
  rcases add_cases b e files with ⟨ha, left, hl, hs⟩ | ⟨files', hf, ha, hs⟩
  · rw [hs, rebuilds_iff hw (holds_of_isLeft hw h hl)]
    exact ⟨fun _ h => absurd h ha, fun _ => ⟨rfl, hb⟩⟩
  · rw [appendLog_of_wal hw] at hf
    have hw' : (b.hold (b.stamp e)).config.wal = some path := hw
    rw [hs, rebuilds_iff hw' (Wal.holds_append h (Wal.addLine_line he) hf)]
    have hk := replay_eq_upsert_iff (b.stamp e) b.entries
    constructor
    · intro hq _
      exact hk.mp hq.1
    · intro hq
      have hu := hk.mpr (hq ha)
      exact ⟨hu, by rw [hu, bytes_hold hb.symm]; rfl⟩

theorem rebuilds_flush (hw : b.config.wal = some path) (hr : Rebuilds (b, files))
    (reply : List Entry → Except Error Unit) :
    Rebuilds ((Call.flush reply).perform (b, files)) := by
  rw [Call.perform]
  rcases flush_cases b reply files with hs | ⟨-, files', hf, hs⟩
  · rw [hs]
    exact hr
  · rw [truncateLog_of_wal hw] at hf
    have hw' : { b with entries := [], bytes := 0 }.config.wal = some path := hw
    rw [hs, rebuilds_iff hw' (Wal.holds_truncate hf)]
    exact ⟨rfl, rfl⟩

/-- What is held can be rebuilt after a call just if a write is kept. -/
theorem rebuilds_perform_iff (hw : b.config.wal = some path) (h : Wal.Holds files path l)
    (hr : Rebuilds (b, files)) (c : Call)
    (hc : ∀ e, c = .add e → (b.stamp e).isStorable = true) :
    Rebuilds (c.perform (b, files)) ↔ ∀ e, c = .add e → Keeps (b, files) e := by
  cases c with
  | add e =>
    rw [rebuilds_add_iff hw h hr (hc e rfl)]
    constructor
    · intro hk e' he
      obtain rfl := Call.add.inj he
      exact hk
    · intro hk
      exact hk e rfl
  | flush reply =>
    constructor
    · intro _ e he
      simp at he
    · intro _
      exact rebuilds_flush hw hr reply

/-- A call leaves a sound log. -/
theorem holds_perform (hw : b.config.wal = some path) (h : Wal.Holds files path l) (c : Call)
    (hc : ∀ e, c = .add e → (b.stamp e).isStorable = true) :
    ∃ l', Wal.Holds (c.perform (b, files)).2 path l' := by
  cases c with
  | add e =>
    rw [Call.perform]
    rcases add_cases b e files with ⟨-, left, hl, hs⟩ | ⟨files', hf, -, hs⟩
    · rw [hs]
      exact ⟨l, holds_of_isLeft hw h hl⟩
    · rw [appendLog_of_wal hw] at hf
      rw [hs]
      exact ⟨_, Wal.holds_append h (Wal.addLine_line (hc e rfl)) hf⟩
  | flush reply =>
    rw [Call.perform]
    rcases flush_cases b reply files with hs | ⟨-, files', hf, hs⟩
    · rw [hs]
      exact ⟨l, h⟩
    · rw [truncateLog_of_wal hw] at hf
      rw [hs]
      exact ⟨[], Wal.holds_truncate hf⟩

end

/-! ## Many calls -/

/-- While what is held can be rebuilt, it can be rebuilt after the next call just if that one is
kept. -/
theorem rebuilds_run_iff {path : String} (calls : List Call) (s : Buffer × Files)
    (hw : s.1.config.wal = some path) (h : ∃ l, Wal.Holds s.2 path l) (hr : Rebuilds s)
    (hc : ∀ front e, front ++ [.add e] <+: calls →
      ((run s front).1.stamp e).isStorable = true) :
    (∀ front, front <+: calls → Rebuilds (run s front)) ↔
      ∀ front e, front ++ [.add e] <+: calls → Keeps (run s front) e := by
  induction calls generalizing s with
  | nil =>
    constructor
    · intro _ front e hp
      simp at hp
    · intro _ front hp
      rw [List.prefix_nil.mp hp]
      exact hr
  | cons c calls ih =>
    obtain ⟨l, hl⟩ := h
    have hfirst : ∀ e, c = .add e → (s.1.stamp e).isStorable = true := by
      rintro e rfl
      exact hc [] e (by simp)
    have hnext := ih (c.perform s) (by rw [config_perform, hw]) (holds_perform hw hl c hfirst)
    have hrest : ∀ front e, front ++ [.add e] <+: calls →
        ((run (c.perform s) front).1.stamp e).isStorable = true := by
      intro front e hp
      exact hc (c :: front) e (List.cons_prefix_cons.mpr ⟨rfl, hp⟩)
    have hstep : Rebuilds (c.perform s) ↔ ∀ e, c = .add e → Keeps s e :=
      rebuilds_perform_iff hw hl hr c hfirst
    constructor
    · intro hall front e hp
      have hc' : Rebuilds (c.perform s) := hall [c] (by simp)
      cases front with
      | nil =>
        have he : Call.add e = c := by simpa using hp
        exact hstep.mp hc' e he.symm
      | cons d front =>
        obtain ⟨rfl, hfront⟩ := List.cons_prefix_cons.mp hp
        refine (hnext hc' hrest).mp ?_ front e hfront
        intro front' hp'
        exact hall (d :: front') (List.cons_prefix_cons.mpr ⟨rfl, hp'⟩)
    · intro hall front hp
      have hc' : Rebuilds (c.perform s) := by
        refine hstep.mpr ?_
        rintro e rfl
        exact hall [] e (by simp)
      cases front with
      | nil => exact hr
      | cons d front =>
        obtain ⟨rfl, hfront⟩ := List.cons_prefix_cons.mp hp
        refine (hnext hc' hrest).mpr ?_ front hfront
        intro front' e hp'
        exact hall (d :: front') e (List.cons_prefix_cons.mpr ⟨rfl, hp'⟩)

/-- From a sound log on, what is held can be rebuilt after every call just if every write is
kept. -/
theorem rebuilds_iff_keeps {config : BufferConfig} {files : Files} {path : String}
    (hw : config.wal = some path) (hf : Wal.IsSound files path) (calls : List Call) :
    ∃ b, (Buffer.new config files).1 = .ok b ∧
      ((∀ front e, front ++ [.add e] <+: calls →
          ((run (b, files) front).1.stamp e).isStorable = true) →
        ((∀ front, front <+: calls → Rebuilds (run (b, files) front)) ↔
          ∀ front e, front ++ [.add e] <+: calls → Keeps (run (b, files) front) e)) := by
  obtain ⟨l, hl⟩ := Wal.holds_of_isSound hf
  obtain ⟨b, hb, hconfig, he, hs⟩ := new_of_holds hw hl
  have hw' : b.config.wal = some path := by rw [hconfig, hw]
  refine ⟨b, hb, fun hc => rebuilds_run_iff calls (b, files) hw' ⟨l, hl⟩ ?_ hc⟩
  exact (rebuilds_iff hw' hl).mpr ⟨he.symm, hs.symm⟩

/-- A write with an object inside its data that has one key. -/
def noted (key : String) : Entry :=
  (Entry.new ⟨0, .epoch⟩ "order" "1" [("d", .obj [(key, .str "2")])]).withSeq 3

theorem isAbsent_empty : Files.empty.IsAbsent "w" := by
  have hm : Files.empty.makeParent "w" = .ok .empty := by with_unfolding_all rfl
  have hr : Files.empty.read "w" = .error .notFound := by decide +kernel
  refine ⟨hr, fun files' h => ?_⟩
  rw [← Files.Attempt.ok.inj (hm.symm.trans h), hr]

theorem hasParent_empty : Files.empty.HasParent "w" := ⟨.empty, by with_unfolding_all rfl⟩

theorem isSound_empty : Wal.IsSound .empty "w" := Or.inl ⟨isAbsent_empty, hasParent_empty⟩

/-- A buffer that starts without any files rebuilds a write with an ordinary key, but none with
the key of quotations. -/
theorem rebuilds_noted :
    ∃ b, (Buffer.new ⟨10, 1000, some "w", false⟩ .empty).1 = .ok b ∧
      (∀ front, front <+: [.add (noted "note")] → Rebuilds (run (b, .empty) front)) ∧
      ¬ ∀ front, front <+: [.add (noted Json.quotingKey)] →
        Rebuilds (run (b, .empty) front) := by
  let config : BufferConfig := ⟨10, 1000, some "w", false⟩
  have hw : config.wal = some "w" := rfl
  have hnew := new_of_notFound hw isAbsent_empty.1
  have hfront : ∀ {front : List Call} {e e' : Entry}, front ++ [.add e] <+: [.add e'] →
      front = [] ∧ e = e' := by
    intro front e e' hp
    cases front with
    | nil => simpa using hp
    | cons c front =>
      have := hp.length_le
      simp at this
  obtain ⟨b, hb, hgood⟩ := rebuilds_iff_keeps hw isSound_empty
    [.add (noted "note")]
  obtain ⟨b', hb', hbad⟩ := rebuilds_iff_keeps hw isSound_empty
    [.add (noted Json.quotingKey)]
  have hbn := Except.ok.inj (hb.symm.trans hnew)
  have hbn' := Except.ok.inj (hb'.symm.trans hnew)
  subst hbn hbn'
  refine ⟨_, hb, (hgood ?_).mpr ?_, fun h => ?_⟩
  · intro front e hp
    obtain ⟨rfl, rfl⟩ := hfront hp
    decide
  · intro front e hp
    obtain ⟨rfl, rfl⟩ := hfront hp
    exact fun _ => Or.inl (by decide)
  · have ha : (Buffer.add (noted Json.quotingKey) .empty ⟨config, [], 0, 0⟩).answer
        = .ok true := by decide +kernel
    have hs : ∀ front e, front ++ [.add e] <+: [.add (noted Json.quotingKey)] →
        ((run (⟨config, [], 0, 0⟩, .empty) front).1.stamp e).isStorable = true := by
      intro front e hp
      obtain ⟨rfl, rfl⟩ := hfront hp
      decide
    rcases (hbad hs).mp h [] (noted Json.quotingKey) (List.prefix_refl _) ha with hl | hl
    · exact absurd hl (by decide)
    · cases hl.2

end Buffer

end Failsafe
