import Failsafe.Proofs.Buffer.Tearing
import Failsafe.Proofs.Text.Cuts
import Failsafe.Proofs.Wal.Replaying
/-
  Logs as the program writes them, and what can be in them.

  A log grows line by line, and an append that is cut short leaves the front of a line behind which
  the next append goes on (`Wal.IsWritten`). Each of its lines is then put together of fronts of
  records (`IsScraps`). Only the first of them can be read, and only if it is a whole record: a
  bracket that a cut has left open is closed by nothing behind it. So whatever data has been
  written, an entry that is given back has the number and the key of one that was appended
  (`isNumbered_of_isWritten`). Calls of a buffer and crashes leave such a log (`isKept_run`,
  `isWritten_of_prefix`).
-/

namespace Failsafe

namespace Entry

/-- The time of the entry exists, its number has 64 bits, and its key is made of the number. -/
structure IsNumbered (e : Entry) : Prop where
  time : e.wall.isValid = true
  keyed : ∃ n < Width.bound 64, e.seq = some n ∧ e.key = keyOf e.resource e.id n

/-- Whatever the data of an entry, its stored form is read to its end if at all, and nothing but the
data comes back as something else. -/
theorem eq_of_read_toJson {e a : Entry} {s rest : List Char} (h : e.IsNumbered)
    (hr : read Json.nestingLimit (e.toJson.render ++ s) = .ok (a, rest)) :
    rest = s ∧ ∃ data, a = { e with data } := by
  have hq : e.seq.all (fun n => decide (n < Width.bound 64)) = true := by
    obtain ⟨n, hn, hs, -⟩ := h.keyed
    rw [hs]
    exact decide_eq_true hn
  obtain ⟨change, rest', hslot, hend⟩ := Json.readRecord_between e.filledFront e.filledBack "data"
    (.obj e.data) (reads_filledFront e _) (reads_filledBack h.time hq _) rfl
    (by simp [filledFront, filledBack]) hr
  change Except.map _ (Json.readObject (Json.nestingLimit - 1)
    ((Json.Value.obj e.data).render ++ _)) = _ at hslot
  cases hdata : Json.readObject (Json.nestingLimit - 1) ((Json.Value.obj e.data).render
      ++ (Json.renderNextMembers (e.filledBack.map Json.Filled.member) ++ '\x7d' :: s)) with
  | error f =>
    rw [hdata] at hslot
    cases hslot
  | ok x =>
    rw [hdata] at hslot
    cases hslot
    obtain ⟨rfl, rfl⟩ := hend (Json.rest_of_readObject hdata)
    exact ⟨rfl, x.1, rfl⟩

/-- Fronts of stored forms, one behind the other, close no bracket in front of them. -/
theorem depth_of_fronts {a b : Json.Stance} {parts : List (List Char)}
    (hp : ∀ p ∈ parts, ∃ e : Entry, p <+: e.toJson.render) (ha : 1 ≤ a.depth)
    (h : a.follow parts.flatten = some b) : 1 ≤ b.depth := by
  induction parts generalizing a with
  | nil => rwa [← Option.some.inj h]
  | cons p parts ih =>
    rw [List.flatten_cons, Json.Stance.follow_append] at h
    obtain ⟨c, hc, hb⟩ := Option.bind_eq_some_iff.mp h
    obtain ⟨e, hfront⟩ := hp p List.mem_cons_self
    obtain ⟨l, hl⟩ : ∃ l, e.toJson.render = '{' :: '"' :: 'r' :: l := ⟨_, rfl⟩
    have hlevel := Json.Stance.isLevel_render e.toJson
    rw [hl] at hfront hlevel
    have hdepth := Json.Stance.depth_of_front rfl ha hlevel hfront hc
    exact ih (fun q hq => hp q (List.mem_cons_of_mem _ hq)) hdepth hb

end Entry

namespace Wal

/-- A text that is put together of fronts of records holds nothing but the first of them. -/
theorem eq_of_parse?_fronts {parts : List (List Char)} {a : Entry}
    (hp : ∀ p ∈ parts, p ≠ [] ∧ ∃ e : Entry, e.IsNumbered ∧ p <+: e.toJson.render)
    (h : parse? parts.flatten = some a) :
    ∃ (e : Entry) (data : Json.Members), e.IsNumbered ∧ a = { e with data } := by
  cases parts with
  | nil => cases h
  | cons p parts =>
    obtain ⟨hne, e, he, hfront⟩ := hp p List.mem_cons_self
    rw [List.flatten_cons] at h
    by_cases hwhole : p = e.toJson.render
    · unfold parse? Json.readAll at h
      rw [hwhole] at h
      cases hr : Entry.read Json.nestingLimit (e.toJson.render ++ parts.flatten) with
      | error f =>
        rw [hr] at h
        cases h
      | ok x =>
        obtain ⟨-, data, hdata⟩ := Entry.eq_of_read_toJson he hr
        rw [hr] at h
        dsimp only at h
        split at h
        · cases h
          exact ⟨e, data, he, hdata⟩
        · cases h
    · have hlater : ∀ q ∈ parts, ∃ e : Entry, q <+: e.toJson.render := fun q hq => by
        obtain ⟨-, e', -, hq⟩ := hp q (List.mem_cons_of_mem _ hq)
        exact ⟨e', hq⟩
      obtain ⟨f, hf⟩ := Entry.content_of_isCut ⟨hne, hfront, hwhole⟩
        fun x y hx hy => Entry.depth_of_fronts hlater hx hy
      cases (parse?_of_malformed hf).2.symm.trans h

/-! ## Lines that are put together -/

/-- Fronts of records of numbered entries, one behind the other. -/
def IsScraps (l : Bytes) : Prop :=
  ∃ parts : List Bytes, l = parts.flatten ∧
    ∀ p ∈ parts, p ≠ [] ∧ ∃ e : Entry, e.IsNumbered ∧ p <+: Bytes.encode e.toJson.render

theorem isScraps_nil : IsScraps [] := ⟨[], rfl, by simp⟩

theorem isScraps_append {l p : Bytes} {e : Entry} (h : IsScraps l) (he : e.IsNumbered)
    (hp : p <+: Bytes.encode e.toJson.render) : IsScraps (l ++ p) := by
  by_cases hne : p = []
  · rwa [hne, List.append_nil]
  · obtain ⟨parts, rfl, hparts⟩ := h
    refine ⟨parts ++ [p], by simp, fun q hq => ?_⟩
    rcases List.mem_append.mp hq with hq | hq
    · exact hparts q hq
    · rw [List.mem_singleton.mp hq]
      exact ⟨hne, e, he, hp⟩

/-- A front of a record begins with a brace. -/
theorem head_of_front {p : Bytes} {e : Entry} (hne : p ≠ [])
    (hp : p <+: Bytes.encode e.toJson.render) : ∃ rest, p = 123 :: rest := by
  obtain ⟨x, rest, rfl⟩ := List.exists_cons_of_ne_nil hne
  obtain ⟨l, hl⟩ : ∃ l, e.toJson.render = '{' :: l := ⟨_, rfl⟩
  have hbrace : String.utf8EncodeChar '{' = [123] := by decide
  rw [hl, Bytes.encode_cons, hbrace, List.singleton_append] at hp
  exact ⟨rest, by rw [(List.cons_prefix_cons.mp hp).1]⟩

/-- If the bytes put together are a text, so is each of the parts: no part ends inside a character,
since the next one begins with a brace. -/
theorem texts_of_scraps {parts : List Bytes} {t : List Char}
    (hp : ∀ p ∈ parts, p ≠ [] ∧ ∃ e : Entry, e.IsNumbered ∧ p <+: Bytes.encode e.toJson.render)
    (h : parts.flatten = Bytes.encode t) :
    ∃ fronts : List (List Char), t = fronts.flatten ∧
      ∀ s ∈ fronts, s ≠ [] ∧ ∃ e : Entry, e.IsNumbered ∧ s <+: e.toJson.render := by
  induction parts generalizing t with
  | nil =>
    cases t with
    | nil => exact ⟨[], rfl, by simp⟩
    | cons c t => exact absurd h.symm (Bytes.encode_ne_nil (List.cons_ne_nil c t))
  | cons p parts ih =>
    have hrest := fun q hq => hp q (List.mem_cons_of_mem p hq)
    obtain ⟨hne, e, he, hfront⟩ := hp p List.mem_cons_self
    rw [List.flatten_cons] at h
    obtain ⟨s, rfl⟩ : ∃ s, p = Bytes.encode s := by
      cases parts with
      | nil =>
        rw [List.flatten_nil, List.append_nil] at h
        exact ⟨t, h⟩
      | cons q parts =>
        obtain ⟨hq, e', -, hfront'⟩ := hrest q List.mem_cons_self
        obtain ⟨r, rfl⟩ := head_of_front hq hfront'
        exact Bytes.exists_encode_of_append (by decide) h
    obtain ⟨u, rfl, hu⟩ := Bytes.eq_append_of_encode h
    obtain ⟨fronts, rfl, hfronts⟩ := ih hrest hu
    obtain ⟨r, hr⟩ := hfront
    obtain ⟨v, hv, -⟩ := Bytes.eq_append_of_encode hr
    have hs : s ≠ [] := fun hs => hne (by rw [hs]; rfl)
    exact ⟨s :: fronts, rfl, List.forall_mem_cons.mpr ⟨⟨hs, e, he, ⟨v, hv.symm⟩⟩, hfronts⟩⟩

/-- What is read back from scraps is numbered. -/
theorem isNumbered_of_scraps {l : Bytes} {t : List Char} {a : Entry} (h : IsScraps l)
    (ht : Bytes.decode? l = some t) (ha : parse? t = some a) : a.IsNumbered := by
  obtain ⟨parts, rfl, hparts⟩ := h
  obtain ⟨fronts, rfl, hfronts⟩ := texts_of_scraps hparts (Bytes.decode?_eq_some_iff.mp ht)
  obtain ⟨e, data, he, rfl⟩ := eq_of_parse?_fronts hfronts ha
  exact ⟨he.time, he.keyed⟩

/-! ## Logs -/

/-- A log as the program writes it: a line for each entry, of which only the front is left where
its append was cut short. -/
inductive IsWritten : Bytes → Prop
  | empty : IsWritten []
  | append {c front : Bytes} {e : Entry} : IsWritten c → e.IsNumbered →
      front <+: Bytes.encode (line e) → IsWritten (c ++ front)

/-- Finished lines of scraps, and scraps behind them. -/
structure IsPiecemeal (c : Bytes) (finished last : Bytes) : Prop where
  whole : c = finished ++ last
  closed : finished.IsClosed
  lines : ∀ l ∈ Bytes.lines finished, IsScraps l
  scraps : IsScraps last
  unfinished : Bytes.lineFeed ∉ last

theorem lines_scraps {last : Bytes} {e : Entry} (hl : Bytes.lineFeed ∉ last) :
    Bytes.lines (last ++ Bytes.encode e.toJson.render ++ [Bytes.lineFeed])
      = [last ++ Bytes.encode e.toJson.render] := by
  have hfeed := Bytes.lineFeed_not_mem_encode e.lineFeed_not_mem_toJson
  have hbrace := Bytes.getLast?_encode e.getLast?_toJson
  refine Bytes.lines_line ?_ ?_
  · rw [List.mem_append, not_or]
    exact ⟨hl, hfeed⟩
  · have hlast : (String.utf8EncodeChar '}').getLast? = some 125 := by decide
    rw [List.getLast?_append, hbrace, hlast, Option.some_or]
    decide

theorem isPiecemeal_of_isWritten {c : Bytes} (h : IsWritten c) :
    ∃ finished last, IsPiecemeal c finished last := by
  induction h with
  | empty => exact ⟨[], [], rfl, Or.inl rfl, nofun, isScraps_nil, by simp⟩
  | @append c front e _ he hfront ih =>
    obtain ⟨finished, last, rfl, hclosed, hlines, hscraps, hopen⟩ := ih
    have hfeed := Bytes.lineFeed_not_mem_encode e.lineFeed_not_mem_toJson
    unfold line at hfront
    rw [Bytes.encode_append, Bytes.encode_lineFeed, List.prefix_concat_iff] at hfront
    rcases hfront with rfl | hfront
    · refine ⟨finished ++ (last ++ Bytes.encode e.toJson.render ++ [Bytes.lineFeed]), [], ?_,
        Or.inr ?_, ?_, isScraps_nil, by simp⟩
      · simp
      · rw [← List.append_assoc]
        exact List.getLast?_concat
      · intro l hl
        rw [Bytes.lines_append hclosed, lines_scraps hopen, List.mem_append] at hl
        rcases hl with hl | hl
        · exact hlines l hl
        · rw [List.mem_singleton.mp hl]
          exact isScraps_append hscraps he (List.prefix_refl _)
    · refine ⟨finished, last ++ front, List.append_assoc .., hclosed, hlines,
        isScraps_append hscraps he hfront, ?_⟩
      rw [List.mem_append, not_or]
      exact ⟨hopen, fun hm => hfeed (hfront.subset hm)⟩

/-- Every entry in a log that the program has written is numbered. -/
theorem isNumbered_of_isWritten {c : Bytes} (h : IsWritten c) : ∀ e ∈ entries c, e.IsNumbered := by
  obtain ⟨finished, last, rfl, hclosed, hlines, hscraps, hopen⟩ := isPiecemeal_of_isWritten h
  have hall : ∀ l ∈ Bytes.lines (finished ++ last), IsScraps l := by
    intro l hl
    rw [Bytes.lines_append hclosed, List.mem_append] at hl
    rcases hl with hl | hl
    · exact hlines l hl
    · by_cases hne : last = []
      · rw [hne] at hl
        cases hl
      · rw [Bytes.lines_last hopen hne, List.mem_singleton] at hl
        rwa [hl]
  intro e he
  obtain ⟨t, ht, hparse⟩ := List.mem_filterMap.mp he
  obtain ⟨l, hl, hdecode⟩ := List.mem_filterMap.mp (List.mem_filter.mp ht).1
  exact isNumbered_of_scraps (hall l hl) hdecode hparse

/-- So is every entry that it gives back. -/
theorem isNumbered_of_load {files : Files} {path : String} {r : Replay}
    (hw : IsWritten (files.contents path)) (h : (load files path).1 = .ok r) :
    ∀ e ∈ r.entries, e.IsNumbered := by
  obtain ⟨s, hs, rfl⟩ := eq_replay_of_load h
  rw [hs] at hw
  exact fun e he => isNumbered_of_isWritten hw e (Entry.mem_of_mem_lastWriteWins he)

/-! ## What keeps a log written -/

/-- A crash that costs the last bytes of a log leaves one that the program might have written. -/
theorem isWritten_of_prefix {c front : Bytes} (h : IsWritten c) (hp : front <+: c) :
    IsWritten front := by
  induction h generalizing front with
  | empty =>
    rw [List.prefix_nil.mp hp]
    exact .empty
  | @append c part e hwritten he hpart ih =>
    obtain ⟨rest, hrest⟩ := hp
    rcases List.append_eq_append_iff.mp hrest with ⟨m, hc, -⟩ | ⟨m, rfl, hm⟩
    · exact ih ⟨m, hc.symm⟩
    · exact .append hwritten he (List.IsPrefix.trans ⟨rest, hm.symm⟩ hpart)

/-- The log can be read, or is not there yet and can be made, and the program has written it. -/
structure IsKept (files : Files) (path : String) : Prop where
  reachable : (∃ c, files.read path = .ok c) ∨ (files.IsAbsent path ∧ files.HasParent path)
  written : IsWritten (files.contents path)

theorem isKept_append {files files' : Files} {path : String} {e : Entry} (h : IsKept files path)
    (he : e.IsNumbered) (ha : append files path e = .ok files') : IsKept files' path := by
  have hread := Files.read_appendMaking (h.reachable.imp_right And.left) ha
  refine ⟨Or.inl ⟨_, hread⟩, ?_⟩
  rw [Files.contents_of_read hread]
  exact .append h.written he (List.prefix_refl _)

/-- An append that fails leaves the log as it was. -/
theorem isKept_of_error {files left : Files} {path : String} {e : Entry} {f : FileError}
    (h : IsKept files path) (ha : append files path e = .error f left) : IsKept left path := by
  constructor
  · rcases h.reachable with ⟨c, hr⟩ | ⟨habsent, hparent⟩
    · have hextends := Files.extends_of_gainsDirectories (Files.gainsDirectories_of_error ha)
      exact Or.inl ⟨c, Files.read_of_extends hextends hr⟩
    · exact Or.inr (Files.isAbsent_of_error habsent hparent ha)
  · rw [(Files.contents_of_error ha).2]
    exact .empty

theorem isKept_truncate {files files' : Files} {path : String}
    (ht : files.truncate path = .ok files') : IsKept files' path := by
  have hread := Files.read_write ht
  refine ⟨Or.inl ⟨_, hread⟩, ?_⟩
  rw [Files.contents_of_read hread]
  exact .empty

end Wal

namespace Buffer

theorem isKept_perform {s : Buffer × Files} {path : String} (hw : s.1.config.wal = some path)
    (h : Wal.IsKept s.2 path) (c : Call) (hc : ∀ e, c = .add e → (s.1.stamp e).IsNumbered) :
    Wal.IsKept (c.perform s).2 path := by
  cases c with
  | add e =>
    rw [Call.perform]
    rcases add_cases s.1 e s.2 with ⟨-, left, hl, hs⟩ | ⟨files', hf, -, hs⟩
    · rw [hs]
      rcases hl with rfl | ⟨f, hf⟩
      · exact h
      · rw [appendLog_of_wal hw] at hf
        exact Wal.isKept_of_error h hf
    · rw [appendLog_of_wal hw] at hf
      rw [hs]
      exact Wal.isKept_append h (hc e rfl) hf
  | flush reply =>
    rw [Call.perform]
    rcases flush_cases s.1 reply s.2 with hs | ⟨-, files', hf, hs⟩
    · rw [hs]
      exact h
    · rw [truncateLog_of_wal hw] at hf
      rw [hs]
      exact Wal.isKept_truncate hf

/-- A log that the program has written stays one, whatever is called, as long as the writes that are
stamped are numbered. -/
theorem isKept_run {s : Buffer × Files} {path : String} (hw : s.1.config.wal = some path)
    (h : Wal.IsKept s.2 path) (calls : List Call)
    (hc : ∀ front e, front ++ [.add e] <+: calls → ((run s front).1.stamp e).IsNumbered) :
    Wal.IsKept (run s calls).2 path := by
  induction calls generalizing s with
  | nil => exact h
  | cons c calls ih =>
    have hfirst : ∀ e, c = .add e → (s.1.stamp e).IsNumbered := by
      rintro e rfl
      exact hc [] e (by simp)
    rw [run_cons]
    refine ih (by rw [config_perform, hw]) (isKept_perform hw h c hfirst) fun front e hp => ?_
    exact hc (c :: front) e (List.cons_prefix_cons.mpr ⟨rfl, hp⟩)

end Buffer

end Failsafe
