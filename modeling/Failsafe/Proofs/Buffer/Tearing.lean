import Failsafe.Proofs.Buffer.Rebuilding
import Failsafe.Proofs.Json.Balance
/-
  What a write costs that follows an append which was cut short.

  A log that ends with a part of a line, as a crash in the middle of an append leaves it, gives
  back the entries of its finished lines (`held_torn`). But the next append goes on right behind
  that part, and the two make one line that holds nothing (`held_merged`): the write is accepted and
  held, and a buffer that starts anew does not restore it (`loses_of_torn`). Only the write after
  it has a line of its own again.
-/

namespace Failsafe

namespace Entry

/-- A part of the stored form of an entry, from its front but not all of it. -/
structure IsCut (e : Entry) (p : List Char) : Prop where
  nonempty : p ≠ []
  front : p <+: e.toJson.render
  proper : p ≠ e.toJson.render

/-- Such a part holds nothing, alone or with something behind it that closes no bracket. -/
theorem content_of_isCut {e : Entry} {p l : List Char} (h : e.IsCut p)
    (hl : ∀ a b : Json.Stance, 1 ≤ a.depth → a.follow l = some b → 1 ≤ b.depth) :
    ∃ f, Wal.content (p ++ l) = .malformed f := by
  have hread : ∀ t a rest, read Json.nestingLimit ('{' :: t) = .ok (a, rest) →
      Json.Scans (.outside 0 false) ('{' :: t) (.outside 0 false) rest :=
    fun _ _ _ hr => Json.scans_readRecord isBalanced_slots hr
  obtain ⟨f, hf⟩ := Json.readAll_of_cut hread h.nonempty h.front h.proper hl
  have hb : (p ++ l).all Text.isSpace = false := by
    obtain ⟨c, q, rfl⟩ := List.exists_cons_of_ne_nil h.nonempty
    obtain ⟨rfl, -⟩ := List.cons_prefix_cons.mp h.front
    rfl
  refine ⟨f, ?_⟩
  unfold Wal.content
  rw [hb, if_neg Bool.false_ne_true, hf]

/-- Nor does it with nothing behind it. -/
theorem content_of_isCut_self {e : Entry} {p : List Char} (h : e.IsCut p) :
    ∃ f, Wal.content p = .malformed f := by
  obtain ⟨f, hf⟩ := content_of_isCut (l := []) h fun a b ha hb => by
    obtain rfl := Option.some.inj hb
    exact ha
  rw [List.append_nil] at hf
  exact ⟨f, hf⟩

theorem lineFeed_not_mem_of_isCut {e : Entry} {p : List Char} (h : e.IsCut p) : '\n' ∉ p :=
  fun hp => e.lineFeed_not_mem_toJson (h.front.subset hp)

end Entry

namespace Wal

variable {s p : List Char} {e : Entry}

/-- A last line that holds nothing does not change what a log gives back. -/
theorem held_malformed {a b : Bytes} (ha : a.IsClosed) {t : List Char}
    (hb : Bytes.lines b = [Bytes.encode t]) {f : Json.Fault} (hf : content t = .malformed f) :
    held (a ++ b) = held a := by
  have hline : ∀ l, addLine l (Bytes.encode t) = .ok l := by
    intro l
    unfold addLine
    rw [Bytes.decode?_encode]
    dsimp only
    rw [hf]
  rw [held_append ha, hb]
  cases held a with
  | error f => rfl
  | ok l =>
    show [Bytes.encode t].foldlM addLine l = _
    rw [List.foldlM_cons, hline]
    rfl

/-- Nor does a part of a line at its end. -/
theorem held_torn (hs : s = [] ∨ s.getLast? = some '\n') (h : e.IsCut p) :
    held (Bytes.encode (s ++ p)) = held (Bytes.encode s) := by
  obtain ⟨f, hf⟩ := Entry.content_of_isCut_self h
  have hlines : Bytes.lines (Bytes.encode p) = [Bytes.encode p] :=
    Bytes.lines_unfinished (Entry.lineFeed_not_mem_of_isCut h) h.nonempty
  rw [Bytes.encode_append]
  exact held_malformed (Bytes.isClosed_encode hs) hlines hf

/-- Nor does an entry that is appended behind that part. -/
theorem held_merged (hs : s = [] ∨ s.getLast? = some '\n') (h : e.IsCut p) (e' : Entry) :
    held (Bytes.encode (s ++ p ++ line e')) = held (Bytes.encode s) := by
  obtain ⟨l, hl⟩ : ∃ l, e'.toJson.render = '{' :: '"' :: 'r' :: l := ⟨_, rfl⟩
  have hlevel : Json.Stance.IsLevel ('{' :: '"' :: 'r' :: l) := hl ▸ Json.Stance.isLevel_render _
  obtain ⟨f, hf⟩ := Entry.content_of_isCut (l := e'.toJson.render) h fun a b ha hb =>
    Json.Stance.depth_of_front rfl ha hlevel (List.prefix_refl _) (hl ▸ hb)
  have hfeed : '\n' ∉ p ++ e'.toJson.render := by
    rw [List.mem_append, not_or]
    exact ⟨Entry.lineFeed_not_mem_of_isCut h, e'.lineFeed_not_mem_toJson⟩
  have hlast : (Bytes.encode (p ++ e'.toJson.render)).getLast? ≠ some Bytes.carriageReturn := by
    rw [Bytes.getLast?_encode (c := '}')]
    · decide
    · rw [List.getLast?_append, e'.getLast?_toJson]
      rfl
  have hlines :
      Bytes.lines (Bytes.encode (p ++ line e')) = [Bytes.encode (p ++ e'.toJson.render)] := by
    unfold line
    rw [← List.append_assoc, Bytes.encode_append, Bytes.encode_lineFeed]
    exact Bytes.lines_line (Bytes.lineFeed_not_mem_encode hfeed) hlast
  rw [List.append_assoc, Bytes.encode_append]
  exact held_malformed (Bytes.isClosed_encode hs) hlines hf

end Wal

namespace Buffer

/-- A buffer that starts from a log with a part of a line at its end restores the entries of the
finished lines. A write that is accepted and held then is lost: a new buffer on the log restores
what the first one did and nothing else, the log being one of finished lines again. (The next number
is one of 64 bits as long as no entry has the greatest of these.) -/
theorem loses_of_torn {config : BufferConfig} {files : Files} {path : String} {s p : List Char}
    {e : Entry} (hw : config.wal = some path) (hs : s = [] ∨ s.getLast? = some '\n')
    (hp : e.IsCut p) (hr : files.read path = .ok (Bytes.encode (s ++ p))) :
    ∃ b, (Buffer.new config files).1 = .ok b ∧ Wal.held (Bytes.encode s) = .ok b.entries ∧
      ∀ e', (b.add e' files).answer = .ok true →
        let after := (b.add e' files).state
        after.1.entries = Entry.upsert (b.stamp e') b.entries ∧
        Wal.Holds after.2 path b.entries ∧
        (∃ b', (Buffer.new config after.2).1 = .ok b' ∧ b'.entries = b.entries) ∧
        (after.1.nextSeq < Width.bound 64 ↔ ∀ x ∈ b.stamp e' :: b.entries, x.IsCountable) := by
  obtain ⟨l, hl⟩ := Wal.held_encode s
  have hload : (Wal.load files path).1.map Replay.entries = .ok l := by
    rw [Wal.load_entries hr, Wal.held_torn hs hp, hl]
  obtain ⟨b, hb, hconfig, rfl, -⟩ := new_of_load hw hload
  refine ⟨b, hb, hl, fun e' ha => ?_⟩
  rcases add_cases b e' files with ⟨hn, -⟩ | ⟨files', hf, -, hstate⟩
  · exact absurd ha hn
  · rw [appendLog_of_wal (hconfig ▸ hw)] at hf
    have hread := Files.read_appendMaking (Or.inl ⟨_, hr⟩) hf
    rw [Files.contents_of_read hr, ← Bytes.encode_append] at hread
    have hholds : Wal.Holds files' path b.entries := by
      refine Or.inr ⟨_, hread, Or.inr ?_, ?_⟩
      · unfold Wal.line
        rw [← List.append_assoc]
        exact List.getLast?_concat
      · rw [Wal.held_merged hs hp, hl]
    obtain ⟨b', hb', -, he, -⟩ := new_of_holds hw hholds
    rw [hstate]
    refine ⟨rfl, hholds, ⟨b', hb', he⟩, ?_⟩
    show [b.stamp e'].foldl seqAfter b.nextSeq < _ ↔ _
    rw [nextSeq_new hb, ← List.foldl_append, foldl_seqAfter_lt_iff, List.forall_mem_append,
      List.forall_mem_cons, and_comm (a := ∀ x ∈ b.entries, _)]
    simp [Width.bound]

/-- A log that ends after the first characters of its only line. -/
def tornFiles : Files := ⟨[(["w"], .file (Bytes.encode ['{', '"', 'r']))]⟩

/-- A write behind these characters is accepted and held, and not restored. -/
theorem loses_noted :
    ∃ b, (Buffer.new ⟨10, 1000, some "w", false⟩ tornFiles).1 = .ok b ∧
      let after := b.add (noted "note") tornFiles
      after.answer = .ok true ∧ (after.state.1.find? (noted "note").key).isSome = true ∧
      ∃ b', (Buffer.new ⟨10, 1000, some "w", false⟩ after.state.2).1 = .ok b' ∧
        b'.entries = [] := by
  let config : BufferConfig := ⟨10, 1000, some "w", false⟩
  have hw : config.wal = some "w" := rfl
  have hcut : (noted "note").IsCut ['{', '"', 'r'] :=
    ⟨by decide, ⟨(noted "note").toJson.render.drop 3, rfl⟩, nofun⟩
  have hread : tornFiles.read "w" = .ok (Bytes.encode ([] ++ ['{', '"', 'r'])) := by
    decide +kernel
  obtain ⟨b, hb, hl, hadd⟩ := loses_of_torn hw (Or.inl rfl) hcut hread
  have hnew : (Buffer.new config tornFiles).1 = .ok ⟨config, [], 0, 0⟩ := by with_unfolding_all rfl
  obtain rfl := Except.ok.inj (hnew.symm.trans hb)
  have ha : (Buffer.add (noted "note") tornFiles ⟨config, [], 0, 0⟩).answer = .ok true := by
    decide +kernel
  obtain ⟨he, -, ⟨b', hb', hempty⟩, -⟩ := hadd _ ha
  refine ⟨_, hb, ha, ?_, b', hb', hempty⟩
  unfold find?
  rw [he]
  decide

end Buffer

end Failsafe
