import Failsafe.Proofs.Entry
import Failsafe.Proofs.Files
import Failsafe.Proofs.Text.Lines
import Failsafe.Wal
/-
  What a write-ahead log holds, and what becomes of it when an entry is appended.

  The entries that a log gives back do not depend on the numbers of its lines (`scan_entries`). A
  log that is a text of finished lines is read to its end (`held_encode`), and a line more
  changes what it holds as reading the line back says (`held_line`, `addLine_line`).
-/

namespace Failsafe

/-- The entries once what an entry's line is read back as has been added. -/
def Entry.replay (e : Entry) (held : List Entry) : List Entry :=
  match e.reread? with
  | some e' => Entry.upsert e' held
  | none => held

namespace Wal

/-- The entries after one more line. -/
def addLine (held : List Entry) (l : Bytes) : Except FileError (List Entry) :=
  match Bytes.decode? l with
  | none => .error .notText
  | some text =>
    match content text with
    | .blank => .ok held
    | .entry e => .ok (Entry.upsert e held)
    | .malformed _ => .ok held

/-- The entries that a log gives back. -/
def held (c : Bytes) : Except FileError (List Entry) := (Bytes.lines c).foldlM addLine []

theorem scanLines_entries (path : String) (number : Nat) (r : Replay) (ls : List Bytes) :
    (scanLines path number r ls).1.map Replay.entries = ls.foldlM addLine r.entries := by
  induction ls generalizing number r with
  | nil => rfl
  | cons l ls ih =>
    rw [scanLines, List.foldlM_cons, addLine]
    cases Bytes.decode? l with
    | none => rfl
    | some text =>
      dsimp only
      cases content text with
      | blank => exact ih (number + 1) r
      | entry e => exact ih (number + 1) (r.add e)
      | malformed f => exact ih (number + 1) r.skip

theorem scan_entries (path : String) (c : Bytes) :
    (scan path c).1.map Replay.entries = held c :=
  scanLines_entries path 1 .empty (Bytes.lines c)

/-- Loading a log that can be read is reading its lines. -/
theorem load_of_read {files : Files} {path : String} {c : Bytes} (h : files.read path = .ok c) :
    (load files path).1 = (scan path c).1 := by
  unfold load
  rw [h]
  dsimp only
  split
  · next e signals hs => rw [hs]
  · next r signals hs => rw [hs]

theorem load_entries {files : Files} {path : String} {c : Bytes} (h : files.read path = .ok c) :
    (load files path).1.map Replay.entries = held c := by
  rw [load_of_read h, scan_entries]

theorem load_notFound {files : Files} {path : String} (h : files.read path = .error .notFound) :
    (load files path).1 = .ok .empty := by
  unfold load
  rw [h]

/-! ## Texts of finished lines -/

/-- The lines of a log can be read behind each other. -/
theorem held_append {a : Bytes} (ha : a.IsClosed) (b : Bytes) :
    held (a ++ b) = (held a).bind fun l => (Bytes.lines b).foldlM addLine l := by
  unfold held
  rw [Bytes.lines_append ha, List.foldlM_append]
  rfl

theorem foldlM_addLine_of_texts (ls : List Bytes) (h : ∀ l ∈ ls, ∃ t, l = Bytes.encode t)
    (l : List Entry) : ∃ l', ls.foldlM addLine l = .ok l' := by
  induction ls generalizing l with
  | nil => exact ⟨l, rfl⟩
  | cons b ls ih =>
    obtain ⟨t, rfl⟩ := h b List.mem_cons_self
    have hl : ∃ l', addLine l (Bytes.encode t) = .ok l' := by
      unfold addLine
      rw [Bytes.decode?_encode]
      dsimp only
      split <;> exact ⟨_, rfl⟩
    obtain ⟨l', hl⟩ := hl
    rw [List.foldlM_cons, hl]
    exact ih (fun b hb => h b (List.mem_cons_of_mem _ hb)) l'

/-- A log that is a text is read to its end. -/
theorem held_encode (s : List Char) : ∃ l, held (Bytes.encode s) = .ok l :=
  foldlM_addLine_of_texts _ (Bytes.lines_encode s) []

/-! ## The line of an entry -/

/-- An entry's line is one line. -/
theorem lines_line (e : Entry) :
    Bytes.lines (Bytes.encode (line e)) = [Bytes.encode e.toJson.render] := by
  have hr : (Bytes.encode e.toJson.render).getLast? ≠ some Bytes.carriageReturn := by
    rw [Bytes.getLast?_encode e.getLast?_toJson]
    decide
  unfold line
  rw [Bytes.encode_append, Bytes.encode_lineFeed]
  exact Bytes.lines_line (Bytes.lineFeed_not_mem_encode e.lineFeed_not_mem_toJson) hr

/-- A storable entry's line holds what the entry is read back as. -/
theorem addLine_line {e : Entry} (he : e.isStorable = true) (l : List Entry) :
    addLine l (Bytes.encode e.toJson.render) = .ok (e.replay l) := by
  have hread := Entry.readAll_toJson (Entry.isRecordable_of_isStorable he)
  have hb : e.toJson.render.all Text.isSpace = false := rfl
  unfold addLine
  rw [Bytes.decode?_encode, Entry.replay, ← hread]
  dsimp only
  unfold content
  rw [hb]
  cases Json.readAll (Entry.read Json.nestingLimit) e.toJson.render with
  | error f => rfl
  | ok e' => rfl

/-- What a log holds after an entry has been appended whose line does something to what is held. -/
theorem held_line {a : Bytes} (ha : a.IsClosed) {e : Entry} {f : List Entry → List Entry}
    (hf : ∀ l, addLine l (Bytes.encode e.toJson.render) = .ok (f l)) :
    held (a ++ Bytes.encode (line e)) = (held a).map f := by
  rw [held_append ha, lines_line]
  cases held a with
  | error g => rfl
  | ok l =>
    show [Bytes.encode e.toJson.render].foldlM addLine l = _
    rw [List.foldlM_cons, hf]
    rfl

end Wal

end Failsafe
