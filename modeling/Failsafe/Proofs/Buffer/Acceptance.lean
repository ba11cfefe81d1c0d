import Failsafe.Proofs.Buffer.Calls
import Failsafe.Proofs.Buffer.Rebuilding
import Failsafe.Proofs.Json.Nesting
import Failsafe.Proofs.Text.Cuts
import Failsafe.Proofs.Wal.Replaying
/-
  Which of the writes that are accepted can be read back.

  A write is accepted by its size alone, and its record is one line, however deep its data is
  nested. The line is read back as the write that is held exactly if its data leaves one of the
  containers that may be open to the entry and no object inside of it begins with
  `Json.quotingKey`; if it is nested deeper the line is skipped (`reads_iff_of_accepted`).
-/

namespace Failsafe

namespace Entry

open Json (Value)

theorem isRecordable_of_isShallow {e : Entry} (h : e.isWhole = true) (hd : e.IsShallow) :
    e.isRecordable = true := by
  obtain ⟨hw, ht, hq⟩ := isWhole_iff.mp h
  exact isRecordable_iff.mpr ⟨hw, hd, ht, hq⟩

theorem readAll_toJson_deep {e : Entry} (h : e.isWhole = true) (hd : ¬ e.IsShallow) :
    (Json.readAll (read Json.nestingLimit) e.toJson.render).toOption = none := by
  have hdeep : ¬ (Value.obj e.data).nesting ≤ Json.nestingLimit - 1 :=
    fun hle => hd (Nat.lt_of_le_of_lt hle (by decide))
  rw [readAll_toJson_of_isWhole h, Json.rereadWithin?, if_neg hdeep]
  rfl

end Entry

namespace Wal

/-- What the line of an entry with whole numbers is read back as. -/
theorem parse?_toJson {e : Entry} (h : e.isWhole = true) :
    (e.IsShallow → parse? e.toJson.render = e.reread?) ∧
      (¬ e.IsShallow → parse? e.toJson.render = none) :=
  ⟨fun hd => Entry.readAll_toJson (Entry.isRecordable_of_isShallow h hd),
    Entry.readAll_toJson_deep h⟩

theorem parse?_toJson_eq_self_iff {e : Entry} (h : e.isWhole = true) :
    parse? e.toJson.render = some e ↔ e.IsShallow ∧ e.isLegible = true := by
  rw [← Entry.reread?_eq_some_self_iff]
  by_cases hd : e.IsShallow
  · rw [(parse?_toJson h).1 hd]
    exact ⟨fun he => ⟨hd, he⟩, And.right⟩
  · rw [(parse?_toJson h).2 hd]
    exact ⟨fun he => (nomatch he), fun he => absurd he.1 hd⟩

/-- The entry in a line, if there is one. -/
theorem entries_toJson_line (e : Entry) :
    entries (Bytes.encode (line e)) = (parse? e.toJson.render).toList := by
  unfold entries entriesIn
  rw [lines_line, texts_toJson, List.filterMap_cons]
  cases parse? e.toJson.render <;> rfl

theorem faults_toJson_line (e : Entry) :
    faults (Bytes.encode (line e)) = if (parse? e.toJson.render).isNone = true then 1 else 0 := by
  unfold faults faultsIn
  rw [lines_line, texts_toJson, List.countP_singleton]

end Wal

namespace Replay

/-- The replay of a log that goes on with one more line. -/
def follow (r : Replay) (t : List Char) : Replay :=
  match Wal.parse? t with
  | some e => r.add e
  | none => r.skip

theorem replay_line {a : Bytes} (ha : a.IsClosed) (e : Entry) :
    Wal.replay (a ++ Bytes.encode (Wal.line e)) = (Wal.replay a).follow e.toJson.render := by
  rw [Wal.replay_append ha]
  unfold follow Wal.replay
  rw [Wal.entries_toJson_line, Wal.faults_toJson_line]
  cases Wal.parse? e.toJson.render <;> rfl

end Replay

namespace Wal

/-- A sound log that goes on with a line is replayed as before, and then the line. -/
theorem load_append {files files' : Files} {path : String} {e : Entry} (h : IsSound files path)
    (ha : append files path e = .ok files') :
    ∃ r, (load files path).1 = .ok r ∧ (load files' path).1 = .ok (r.follow e.toJson.render) := by
  have hreadable : (∃ c, files.read path = .ok c) ∨ files.IsAbsent path := by
    rcases h with ⟨h, -⟩ | ⟨s, hs, -⟩
    · exact Or.inr h
    · exact Or.inl ⟨_, hs⟩
  have hread := Files.read_appendMaking hreadable ha
  rcases h with ⟨h, -⟩ | ⟨s, hs, hclosed⟩
  · have hnone : files.contents path = [] := by
      unfold Files.contents
      rw [h.1]
    rw [hnone, List.nil_append] at hread
    refine ⟨.empty, ?_, ?_⟩
    · unfold load
      rw [h.1]
    · rw [load_encode hread]
      exact congrArg Except.ok (Replay.replay_line (Or.inl rfl) e)
  · rw [Files.contents_of_read hs, ← Bytes.encode_append] at hread
    refine ⟨_, load_encode hs, ?_⟩
    rw [load_encode hread, Bytes.encode_append, Replay.replay_line (Bytes.isClosed_encode hclosed)]

end Wal

namespace Buffer

/-- A write with whole numbers that is accepted by a buffer with a log is held, and its record is
one line. The line is read back as the write that is held exactly if its data is not nested too deep
and no object inside of it is taken for a quotation; if it is nested too deep, no entry is in the
line. A sound log is then replayed as before, and the line counts as a record if an entry is in it
and else as one that is skipped. -/
theorem reads_iff_of_accepted {b : Buffer} {files : Files} {path : String} {e : Entry}
    (hw : b.config.wal = some path) (he : (b.stamp e).isWhole = true)
    (ha : (b.add e files).answer = .ok true) :
    let held := b.stamp e
    let after := (b.add e files).state
    let record := held.toJson.render
    held ∈ after.1.entries ∧
    Wal.append files path held = .ok after.2 ∧
    Bytes.lines (Bytes.encode (Wal.line held)) = [Bytes.encode record] ∧
    (Wal.parse? record = some held ↔ held.IsShallow ∧ held.isLegible = true) ∧
    (¬ held.IsShallow → Wal.parse? record = none) ∧
    (Wal.IsSound files path → ∃ r, (Wal.load files path).1 = .ok r ∧
      (Wal.load after.2 path).1 = .ok (r.follow record)) := by
  intro held after record
  rcases add_cases b e files with ⟨hn, -⟩ | ⟨files', hf, -, hs⟩
  · exact absurd ha hn
  · rw [appendLog_of_wal hw] at hf
    have hafter : after = (b.hold held, files') := hs
    rw [hafter]
    exact ⟨Entry.self_mem_upsert _ _, hf, Wal.lines_line held, Wal.parse?_toJson_eq_self_iff he,
      (Wal.parse?_toJson he).2, fun hsound => Wal.load_append hsound hf⟩

/-! ## Data of any depth -/

/-- An array in an array, so many times. -/
def nested : Nat → Json.Value
  | 0 => .null
  | n + 1 => .arr [nested n]

/-- A write with such an array. -/
def deep (n : Nat) : Entry := (Entry.new ⟨0, .epoch⟩ "order" "1" [("d", nested n)]).withSeq 3

theorem isWhole_nested (n : Nat) : (nested n).isWhole = true := by
  induction n with
  | zero => rfl
  | succ n ih =>
    show ((nested n).isWhole && true) = true
    rw [ih]
    rfl

theorem isLegible_nested (n : Nat) : (nested n).isLegible = true := by
  induction n with
  | zero => rfl
  | succ n ih =>
    show ((nested n).isLegible && true) = true
    rw [ih]
    rfl

theorem nesting_nested (n : Nat) : (nested n).nesting = n := by
  induction n with
  | zero => rfl
  | succ n ih =>
    show max (nested n).nesting 0 + 1 = n + 1
    rw [ih, Nat.max_zero]

theorem byteLength_nested (n : Nat) : Text.byteLength (nested n).render = 2 * n + 4 := by
  induction n with
  | zero => rfl
  | succ n ih =>
    show Text.byteLength ('[' :: ((nested n).render ++ [']'])) = _
    rw [Text.byteLength, Text.byteLength_append, ih]
    show 1 + (2 * n + 4 + 1) = _
    omega

theorem size_deep (n : Nat) : (deep n).size = 2 * n + 10 := by
  have h : (deep n).dataText = ['{', '"', 'd', '"', ':'] ++ ((nested n).render ++ ['}']) := rfl
  unfold Entry.size
  rw [h, Text.byteLength_append, Text.byteLength_append, byteLength_nested]
  show 5 + (2 * n + 4 + 1) = _
  omega

theorem isWhole_deep (n : Nat) : (deep n).isWhole = true := by
  show (((nested n).isWhole && true) && true && true) = true
  rw [isWhole_nested]
  rfl

theorem isLegible_deep (n : Nat) : (deep n).isLegible = true := by
  show ((nested n).isLegible && true) = true
  rw [isLegible_nested]
  rfl

theorem isShallow_deep_iff (n : Nat) : (deep n).IsShallow ↔ n < 126 := by
  show max (nested n).nesting 0 + 1 < 127 ↔ _
  rw [nesting_nested]
  omega

/-- A buffer that holds nothing, in front of a log. -/
def idle : Buffer := ⟨⟨10, 1000, some "w", false⟩, [], 0, 0⟩

theorem stamp_deep (n : Nat) : idle.stamp (deep n) = deep n := rfl

theorem append_empty (more : Bytes) :
    Files.empty.appendMaking "w" more = .ok ⟨[(["w"], .file more)]⟩ := by with_unfolding_all rfl

/-- It is the size that decides, not the depth. -/
theorem answer_deep {n : Nat} (hn : 2 * n + 10 ≤ 1000) :
    (idle.add (deep n) .empty).answer = .ok true := by
  have hafter : idle.after (deep n) = (1, 2 * n + 10) := by
    show (1, 0 + (deep n).size) = _
    rw [Nat.zero_add, size_deep]
  have hlog : idle.appendLog .empty (deep n)
      = .ok ⟨[(["w"], .file (Bytes.encode (Wal.line (deep n))))]⟩ := append_empty _
  have hroom : ¬ (idle.config.maxEntries < 1 ∨ idle.config.maxBytes < 2 * n + 10) := by
    show ¬ (10 < 1 ∨ 1000 < 2 * n + 10)
    omega
  unfold add
  dsimp only
  rw [stamp_deep, hafter]
  dsimp only
  rw [if_neg hroom, hlog]

/-- With 125 arrays the write is read back, with one more it is accepted and then skipped. -/
theorem reads_iff_deep :
    (idle.add (deep 125) .empty).answer = .ok true ∧
    Wal.parse? (deep 125).toJson.render = some (deep 125) ∧
    let after := idle.add (deep 126) .empty
    after.answer = .ok true ∧ deep 126 ∈ after.state.1.entries ∧
      ∃ r, (Wal.load after.state.2 "w").1 = .ok r ∧ r.entries = [] ∧ r.skipped = 1 := by
  have ha : (idle.add (deep 125) .empty).answer = .ok true := answer_deep (by omega)
  have ha' : (idle.add (deep 126) .empty).answer = .ok true := answer_deep (by omega)
  have hw : idle.config.wal = some "w" := rfl
  have hempty : (Wal.load .empty "w").1 = .ok .empty :=
    Wal.load_notFound isAbsent_empty.1
  obtain ⟨-, -, -, hreads, -⟩ := reads_iff_of_accepted hw
    ((congrArg Entry.isWhole (stamp_deep 125)).trans (isWhole_deep 125)) ha
  obtain ⟨hheld, -, -, -, hskips, hload⟩ := reads_iff_of_accepted hw
    ((congrArg Entry.isWhole (stamp_deep 126)).trans (isWhole_deep 126)) ha'
  rw [stamp_deep] at hreads hheld hskips hload
  have hnone : Wal.parse? (deep 126).toJson.render = none :=
    hskips fun h => absurd ((isShallow_deep_iff 126).mp h) (by omega)
  obtain ⟨r, hr, hafter⟩ := hload isSound_empty
  obtain rfl := Except.ok.inj (hr.symm.trans hempty)
  unfold Replay.follow at hafter
  rw [hnone] at hafter
  exact ⟨ha, hreads.mpr ⟨(isShallow_deep_iff 125).mpr (by omega), isLegible_deep 125⟩, ha', hheld,
    _, hafter, rfl, rfl⟩

end Buffer

end Failsafe
