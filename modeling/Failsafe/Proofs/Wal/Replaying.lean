import Failsafe.Proofs.Upsert
import Failsafe.Proofs.Wal
/-
  What a replay says about a log.

  A log is read to its end exactly if it is a text (`scan_result`). The replay then holds, of the
  entries with one key, the last, in the order in which the keys first occur, and counts the lines
  with an entry and the lines with something else (`Replay.IsOf`). A log that goes on behind a
  finished line is replayed by writing what the second part holds over what the first part holds
  (`load_composes`), since writing what has been kept of some writes has the effect of the writes.
-/

namespace Failsafe

namespace Wal

/-- The texts of some lines, without the blank ones. -/
def texts (ls : List Bytes) : List (List Char) :=
  (ls.filterMap Bytes.decode?).filter fun t => !t.all Text.isSpace

/-- The entry that a line holds. -/
def parse? (t : List Char) : Option Entry :=
  (Json.readAll (Entry.read Json.nestingLimit) t).toOption

/-- The entries in some lines. -/
def entriesIn (ls : List Bytes) : List Entry := (texts ls).filterMap parse?

/-- How many lines that are not blank hold no entry. -/
def faultsIn (ls : List Bytes) : Nat := (texts ls).countP fun t => (parse? t).isNone

/-- The entries in a log, one for each line that holds one. -/
def entries (c : Bytes) : List Entry := entriesIn (Bytes.lines c)

/-- How many lines of a log are neither blank nor hold an entry. -/
def faults (c : Bytes) : Nat := faultsIn (Bytes.lines c)

/-- What is read back from a log that is a text. -/
def replay (c : Bytes) : Replay := ⟨Entry.lastWriteWins (entries c), (entries c).length, faults c⟩

end Wal

/-- A replay is that of a log: it has the keys of the log's entries in the order in which they first
occur, no key twice, and with each key the last entry that has it; and its counts are right. -/
structure Replay.IsOf (r : Replay) (c : Bytes) : Prop where
  distinct : (r.entries.map Entry.key).Nodup
  order : r.entries.map Entry.key = ((Wal.entries c).map Entry.key).eraseDups
  last : ∀ e ∈ r.entries,
    ∃ front back, Wal.entries c = front ++ e :: back ∧ ∀ later ∈ back, later.key ≠ e.key
  records : r.records = (Wal.entries c).length
  skipped : r.skipped = Wal.faults c
  duplicates : r.entries.length + r.duplicates = r.records

namespace Wal

/-! ## Reading lines -/

section
variable {l : Bytes} {t : List Char} (ls : List Bytes)

theorem texts_blank (hl : Bytes.decode? l = some t) (ht : t.all Text.isSpace = true) :
    texts (l :: ls) = texts ls := by
  unfold texts
  rw [List.filterMap_cons_some hl, List.filter_cons_of_neg (by simp [ht])]

theorem texts_cons (hl : Bytes.decode? l = some t) (ht : t.all Text.isSpace = false) :
    texts (l :: ls) = t :: texts ls := by
  unfold texts
  rw [List.filterMap_cons_some hl, List.filter_cons_of_pos (by simp [ht])]

theorem content_of_text (ht : t.all Text.isSpace = false) :
    (∃ e, content t = .entry e ∧ parse? t = some e) ∨
    ∃ f, content t = .malformed f ∧ parse? t = none := by
  unfold content parse?
  rw [ht, if_neg Bool.false_ne_true]
  cases Json.readAll (Entry.read Json.nestingLimit) t with
  | ok e => exact Or.inl ⟨e, rfl, rfl⟩
  | error f => exact Or.inr ⟨f, rfl, rfl⟩

theorem parse?_of_malformed {f : Json.Fault} (h : content t = .malformed f) :
    t.all Text.isSpace = false ∧ parse? t = none := by
  cases ht : t.all Text.isSpace with
  | true =>
    unfold content at h
    rw [ht, if_pos rfl] at h
    cases h
  | false =>
    refine ⟨rfl, ?_⟩
    rcases content_of_text ht with ⟨e, hc, -⟩ | ⟨f', -, hp⟩
    · cases hc.symm.trans h
    · exact hp

theorem tally_blank (hl : Bytes.decode? l = some t) (ht : t.all Text.isSpace = true) :
    entriesIn (l :: ls) = entriesIn ls ∧ faultsIn (l :: ls) = faultsIn ls := by
  unfold entriesIn faultsIn
  rw [texts_blank ls hl ht]
  exact ⟨rfl, rfl⟩

theorem tally_entry (hl : Bytes.decode? l = some t) (ht : t.all Text.isSpace = false) {e : Entry}
    (hp : parse? t = some e) :
    entriesIn (l :: ls) = e :: entriesIn ls ∧ faultsIn (l :: ls) = faultsIn ls := by
  unfold entriesIn faultsIn
  rw [texts_cons ls hl ht, List.filterMap_cons_some hp, List.countP_cons_of_neg (by simp [hp])]
  exact ⟨rfl, rfl⟩

theorem tally_fault (hl : Bytes.decode? l = some t) (ht : t.all Text.isSpace = false)
    (hp : parse? t = none) :
    entriesIn (l :: ls) = entriesIn ls ∧ faultsIn (l :: ls) = faultsIn ls + 1 := by
  unfold entriesIn faultsIn
  rw [texts_cons ls hl ht, List.filterMap_cons_none hp, List.countP_cons_of_pos (by simp [hp])]
  exact ⟨rfl, rfl⟩

/-- What becomes of a replay while some lines are read. -/
theorem scanLines_result (path : String) (number : Nat) (r : Replay) :
    (scanLines path number r ls).1 =
      if ∀ l ∈ ls, (Bytes.decode? l).isSome = true then
        .ok ⟨(entriesIn ls).foldl (fun held e => Entry.upsert e held) r.entries,
          r.records + (entriesIn ls).length, r.skipped + faultsIn ls⟩
      else .error .notText := by
  induction ls generalizing number r with
  | nil => rfl
  | cons l ls ih =>
    rw [scanLines]
    simp only [List.forall_mem_cons]
    cases hl : Bytes.decode? l with
    | none => simp
    | some t =>
      simp only [Option.isSome_some, true_and]
      cases ht : t.all Text.isSpace with
      | true =>
        have hb : content t = .blank := by
          unfold content
          rw [ht, if_pos rfl]
        obtain ⟨he, hf⟩ := tally_blank ls hl ht
        rw [hb, he, hf]
        exact ih _ _
      | false =>
        rcases content_of_text ht with ⟨e, hc, hp⟩ | ⟨f, hc, hp⟩
        · obtain ⟨he, hf⟩ := tally_entry ls hl ht hp
          rw [hc, he, hf]
          dsimp only
          rw [ih, List.foldl_cons, List.length_cons, Nat.add_comm _ 1, ← Nat.add_assoc]
          rfl
        · obtain ⟨he, hf⟩ := tally_fault ls hl ht hp
          rw [hc, he, hf]
          dsimp only
          rw [ih, Nat.add_comm _ 1, ← Nat.add_assoc]
          rfl

end

/-- A log is read to its end exactly if it is a text. -/
theorem scan_result (path : String) (c : Bytes) :
    (scan path c).1 =
      if (Bytes.decode? c).isSome = true then .ok (replay c) else .error .notText := by
  have hiff : (∀ l ∈ Bytes.lines c, (Bytes.decode? l).isSome = true) ↔
      (Bytes.decode? c).isSome = true := by
    simp only [Option.isSome_iff_exists, Bytes.decode?_eq_some_iff]
    constructor
    · exact Bytes.encode_of_lines
    · rintro ⟨s, rfl⟩
      exact Bytes.lines_encode s
  unfold scan
  rw [scanLines_result]
  simp only [hiff]
  unfold replay entries faults Replay.empty
  simp only [Nat.zero_add]
  rfl

theorem load_encode {files : Files} {path : String} {s : List Char}
    (h : files.read path = .ok (Bytes.encode s)) :
    (load files path).1 = .ok (replay (Bytes.encode s)) := by
  rw [load_of_read h, scan_result, Bytes.decode?_encode]
  rfl

/-- What is loaded is the replay of a text, which is empty if there is no log. -/
theorem eq_replay_of_load {files : Files} {path : String} {r : Replay}
    (h : (load files path).1 = .ok r) :
    ∃ s, files.contents path = Bytes.encode s ∧ r = replay (Bytes.encode s) := by
  cases hr : files.read path with
  | ok c =>
    rw [load_of_read hr, scan_result] at h
    split at h
    · next hc =>
      obtain ⟨s, hs⟩ := Option.isSome_iff_exists.mp hc
      obtain rfl := Bytes.decode?_eq_some_iff.mp hs
      exact ⟨s, Files.contents_of_read hr, (Except.ok.inj h).symm⟩
    · cases h
  | error f =>
    have hnone : files.contents path = [] := by
      unfold Files.contents
      rw [hr]
    unfold load at h
    rw [hr] at h
    cases f with
    | notFound => exact ⟨[], hnone, (Except.ok.inj h).symm⟩
    | _ => cases h

/-! ## What a replay holds -/

theorem isOf_replay (c : Bytes) : (replay c).IsOf c where
  distinct := Entry.nodup_lastWriteWins _
  order := Entry.keys_lastWriteWins _
  last _ h := Entry.last_of_mem_lastWriteWins h
  records := rfl
  skipped := rfl
  duplicates := Nat.add_sub_of_le (Entry.length_lastWriteWins_le _)

theorem texts_append (ls ls' : List Bytes) : texts (ls ++ ls') = texts ls ++ texts ls' := by
  unfold texts
  rw [List.filterMap_append, List.filter_append]

theorem entries_append {a : Bytes} (ha : a.IsClosed) (b : Bytes) :
    entries (a ++ b) = entries a ++ entries b := by
  unfold entries entriesIn
  rw [Bytes.lines_append ha, texts_append, List.filterMap_append]

theorem faults_append {a : Bytes} (ha : a.IsClosed) (b : Bytes) :
    faults (a ++ b) = faults a + faults b := by
  unfold faults faultsIn
  rw [Bytes.lines_append ha, texts_append, List.countP_append]

/-- The replay of a log that goes on behind a finished line. -/
theorem replay_append {a : Bytes} (ha : a.IsClosed) (b : Bytes) :
    replay (a ++ b) =
      ⟨(replay b).entries.foldl (fun held e => Entry.upsert e held) (replay a).entries,
        (replay a).records + (replay b).records, (replay a).skipped + (replay b).skipped⟩ := by
  unfold replay
  rw [entries_append ha, faults_append ha, Entry.lastWriteWins_append, List.length_append]

/-! ## The lines of entries -/

theorem texts_toJson (e : Entry) : texts [Bytes.encode e.toJson.render] = [e.toJson.render] :=
  texts_cons [] (Bytes.decode?_encode _) rfl

/-- The line of an entry that can be a record holds what the entry is read back as. -/
theorem entries_line {e : Entry} (he : e.isRecordable = true) :
    entries (Bytes.encode (line e)) = e.reread?.toList := by
  unfold entries entriesIn parse?
  rw [lines_line, texts_toJson, List.filterMap_cons, Entry.readAll_toJson he]
  cases e.reread? <;> rfl

theorem faults_line {e : Entry} (he : e.isRecordable = true) :
    faults (Bytes.encode (line e)) = if e.reread?.isNone = true then 1 else 0 := by
  unfold faults faultsIn parse?
  rw [lines_line, texts_toJson, List.countP_singleton, Entry.readAll_toJson he]

/-! ## Loading -/

/-- Every log that is a text can be loaded, and its replay holds the last entry of each key. Behind
finished lines a log goes on where it stood: what the second part holds is put, entry by entry, in
the place of what the first part holds under the same keys, or at the end, and the counts add up. -/
theorem load_composes :
    (∀ (files : Files) (path : String) (s : List Char), files.read path = .ok (Bytes.encode s) →
      ∃ r, (load files path).1 = .ok r ∧ r.IsOf (Bytes.encode s)) ∧
    ∀ (a b ab : Files) (path : String) (s t : List Char), (s = [] ∨ s.getLast? = some '\n') →
      a.read path = .ok (Bytes.encode s) → b.read path = .ok (Bytes.encode t) →
      ab.read path = .ok (Bytes.encode (s ++ t)) →
      ∃ r r' whole, (load a path).1 = .ok r ∧ (load b path).1 = .ok r' ∧
        (load ab path).1 = .ok whole ∧
        whole.entries = r'.entries.foldl (fun held e => Entry.upsert e held) r.entries ∧
        whole.records = r.records + r'.records ∧ whole.skipped = r.skipped + r'.skipped := by
  constructor
  · intro files path s h
    exact ⟨_, load_encode h, isOf_replay _⟩
  · intro a b ab path s t hs ha hb hab
    have hwhole := load_encode hab
    rw [Bytes.encode_append, replay_append (Bytes.isClosed_encode hs)] at hwhole
    exact ⟨_, _, _, load_encode ha, load_encode hb, hwhole, rfl, rfl, rfl⟩

/-- A write of an order with the number zero. -/
def ordering (id : String) (quantity : Nat) : Entry :=
  (Entry.new ⟨0, .epoch⟩ "order" id [("qty", .nat quantity)]).withSeq 0

/-- A log with two orders and between them a line that holds nothing. -/
def spoiltLog : List Char := (line (ordering "a" 1) ++ ['x', '\n']) ++ line (ordering "b" 1)

/-- A file with some contents. -/
def filed (c : Bytes) : Files := ⟨[(["w"], .file c)]⟩

theorem read_filed (c : Bytes) : (filed c).read "w" = .ok c := by with_unfolding_all rfl

theorem entries_ordering (id : String) (quantity : Nat)
    (h : (ordering id quantity).isRecordable = true ∧ (ordering id quantity).isLegible = true) :
    entries (Bytes.encode (line (ordering id quantity))) = [ordering id quantity] := by
  rw [entries_line h.1, (Entry.reread?_eq_some_self_iff _).mpr h.2]
  rfl

/-- Once the first order is written again behind them, the log holds three entries, one of which is
superseded, and the order written again stands where it first stood. -/
theorem load_composes_spoilt :
    let before := filed (Bytes.encode spoiltLog)
    let added := filed (Bytes.encode (line (ordering "a" 2)))
    let after := filed (Bytes.encode (spoiltLog ++ line (ordering "a" 2)))
    ∃ r r' whole, (load before "w").1 = .ok r ∧ (load added "w").1 = .ok r' ∧
      (load after "w").1 = .ok whole ∧
      whole.entries = r'.entries.foldl (fun held e => Entry.upsert e held) r.entries ∧
      whole.records = r.records + r'.records ∧ whole.skipped = r.skipped + r'.skipped ∧
      whole.entries.map Entry.key = ["order:a:0", "order:b:0"] ∧
      whole.records = 3 ∧ whole.duplicates = 1 := by
  intro before added after
  have hclosed : spoiltLog = [] ∨ spoiltLog.getLast? = some '\n' := Or.inr (by decide)
  obtain ⟨r, r', whole, hr, hr', hwhole, he, hn, hs⟩ := load_composes.2 before added after "w" _ _
    hclosed (read_filed _) (read_filed _) (read_filed _)
  obtain ⟨whole', hwhole', hof⟩ := load_composes.1 after "w" _ (read_filed _)
  obtain rfl := Except.ok.inj (hwhole.symm.trans hwhole')
  have hspoilt :
      entries (Bytes.encode (line (ordering "a" 1) ++ ['x', '\n'])) = [ordering "a" 1] := by
    rw [Bytes.encode_append, entries_append (Bytes.isClosed_encode (Or.inr (by decide))),
      entries_ordering "a" 1 (by decide)]
    with_unfolding_all rfl
  have hlog : entries (Bytes.encode (spoiltLog ++ line (ordering "a" 2)))
      = [ordering "a" 1, ordering "b" 1, ordering "a" 2] := by
    rw [Bytes.encode_append, entries_append (Bytes.isClosed_encode hclosed), spoiltLog,
      Bytes.encode_append, entries_append (Bytes.isClosed_encode (Or.inr (by decide))), hspoilt,
      entries_ordering "b" 1 (by decide), entries_ordering "a" 2 (by decide)]
    rfl
  have hkeys : whole.entries.map Entry.key = ["order:a:0", "order:b:0"] := by
    rw [hof.order, hlog]
    decide
  have hrecords : whole.records = 3 := by rw [hof.records, hlog]; rfl
  have hlength : whole.entries.length = 2 := by
    rw [← List.length_map Entry.key, hkeys]
    rfl
  have hduplicates := hof.duplicates
  exact ⟨r, r', whole, hr, hr', hwhole, he, hn, hs, hkeys, hrecords, by omega⟩

end Wal

end Failsafe
