import Failsafe.Proofs.Buffer.Tearing
import Failsafe.Proofs.Text.Cuts
import Failsafe.Proofs.Wal.Replaying
/-
  A log of which only the first bytes are left.

  A log that was made by appending entries is cut behind a record, behind the text of a record, or
  inside it (`journal_cut`). In the first two cases every record in front of the cut is read back,
  in the third the part that is left is one faulty line. So all whole records survive, wherever a
  crash cuts the log, as long as it does not cut a character into two: a log that ends in the middle
  of a character is no text, and not one of its records is read back (`load_cut`).
-/

namespace Failsafe.Wal

/-- The text of a log that was made by appending some entries. -/
def journal (es : List Entry) : List Char := es.flatMap line

/-- A record in such a log: its entry, and the places where its text begins and where it ends, in
front of its line feed. -/
structure Span where
  entry : Entry
  start : Nat
  stop : Nat

/-- The records of some entries, the first of which begins at a place. -/
def spans (start : Nat) : List Entry → List Span
  | [] => []
  | e :: rest =>
    let stop := start + Text.byteLength e.toJson.render
    ⟨e, start, stop⟩ :: spans (stop + 1) rest

/-- The entries whose whole texts are in the first bytes of their log. -/
def whole (n : Nat) (es : List Entry) : List Entry :=
  ((spans 0 es).filter fun r => decide (r.stop ≤ n)).map Span.entry

/-- The log is cut strictly inside of a record's text. -/
def isTorn (n : Nat) (es : List Entry) : Bool :=
  (spans 0 es).any fun r => decide (r.start < n ∧ n < r.stop)

/-- Appends some entries to a log, one after the other. -/
def appendAll (files : Files) (path : String) : List Entry → Files.Attempt
  | [] => .ok files
  | e :: es => (append files path e).andThen fun files => appendAll files path es

/-! ## Where the records are -/

section
variable {n start : Nat} {es front back : List Entry}

theorem journal_cons (e : Entry) (es : List Entry) : journal (e :: es) = line e ++ journal es :=
  List.flatMap_cons

theorem byteLength_line (e : Entry) :
    Text.byteLength (line e) = Text.byteLength e.toJson.render + 1 := by
  unfold line
  rw [Text.byteLength_append]
  rfl

theorem spans_append (es es' : List Entry) (start : Nat) :
    spans start (es ++ es')
      = spans start es ++ spans (start + Text.byteLength (journal es)) es' := by
  induction es generalizing start with
  | nil => rfl
  | cons e es ih =>
    have hplace : start + Text.byteLength e.toJson.render + 1 + Text.byteLength (journal es)
        = start + Text.byteLength (journal (e :: es)) := by
      rw [journal_cons, Text.byteLength_append, byteLength_line]
      omega
    rw [List.cons_append, spans, spans, ih, hplace]
    rfl

theorem map_entry_spans (es : List Entry) (start : Nat) : (spans start es).map Span.entry = es := by
  induction es generalizing start with
  | nil => rfl
  | cons e es ih => rw [spans, List.map_cons, ih]

/-- A record is not empty and ends in front of what comes behind the log. -/
theorem span_bounds {r : Span} (h : r ∈ spans start es) :
    start ≤ r.start ∧ r.start < r.stop ∧ r.stop < start + Text.byteLength (journal es) := by
  induction es generalizing start with
  | nil => simp [spans] at h
  | cons e es ih =>
    have hpos : 0 < Text.byteLength e.toJson.render := Text.byteLength_pos (fun h => by cases h)
    rw [journal_cons, Text.byteLength_append, byteLength_line]
    rw [spans] at h
    rcases List.mem_cons.mp h with rfl | h
    · dsimp only
      omega
    · have hrest := ih h
      omega

/-- The records in front of a cut are whole. -/
theorem whole_append (h : Text.byteLength (journal front) ≤ n) :
    whole n (front ++ back) = front ++
      ((spans (Text.byteLength (journal front)) back).filter fun r =>
        decide (r.stop ≤ n)).map Span.entry := by
  have hall : ∀ r ∈ spans 0 front, decide (r.stop ≤ n) = true := by
    intro r hr
    have hb := span_bounds hr
    rw [decide_eq_true_iff]
    omega
  unfold whole
  rw [spans_append, List.filter_append, List.map_append, List.filter_eq_self.mpr hall,
    map_entry_spans, Nat.zero_add]

theorem isTorn_append (h : Text.byteLength (journal front) ≤ n) :
    isTorn n (front ++ back) = (spans (Text.byteLength (journal front)) back).any fun r =>
      decide (r.start < n ∧ n < r.stop) := by
  have hnone : ((spans 0 front).any fun r => decide (r.start < n ∧ n < r.stop)) = false := by
    rw [List.any_eq_false]
    intro r hr
    have hb := span_bounds hr
    rw [decide_eq_true_iff]
    omega
  unfold isTorn
  rw [spans_append, List.any_append, hnone, Bool.false_or, Nat.zero_add]

/-- The records behind a cut are neither whole nor torn. -/
theorem spans_behind (es : List Entry) (h : n ≤ start) :
    ((spans start es).filter fun r => decide (r.stop ≤ n)) = [] ∧
      ((spans start es).any fun r => decide (r.start < n ∧ n < r.stop)) = false := by
  rw [List.filter_eq_nil_iff, List.any_eq_false]
  constructor
  · intro r hr
    have hb := span_bounds hr
    rw [decide_eq_true_iff]
    omega
  · intro r hr
    have hb := span_bounds hr
    rw [decide_eq_true_iff]
    omega

/-- A cut behind a record. -/
theorem whole_behind (front back : List Entry) :
    whole (Text.byteLength (journal front)) (front ++ back) = front ∧
      isTorn (Text.byteLength (journal front)) (front ++ back) = false := by
  have hle := Nat.le_refl (Text.byteLength (journal front))
  obtain ⟨hw, ht⟩ := spans_behind back hle
  rw [whole_append hle, isTorn_append hle, hw, ht]
  exact ⟨List.append_nil _, rfl⟩

/-- A cut behind the text of a record, in front of its line feed. -/
theorem whole_text (front : List Entry) (e : Entry) (rest : List Entry) :
    let n := Text.byteLength (journal front) + Text.byteLength e.toJson.render
    whole n (front ++ e :: rest) = front ++ [e] ∧ isTorn n (front ++ e :: rest) = false := by
  intro n
  have hle : Text.byteLength (journal front) ≤ n := Nat.le_add_right _ _
  obtain ⟨hw, ht⟩ := spans_behind rest (Nat.le_succ n)
  rw [whole_append hle, isTorn_append hle, spans, List.filter_cons_of_pos (by simp [n]), hw,
    List.any_cons, ht]
  exact ⟨rfl, by simp [n]⟩

/-- A cut inside the text of a record. -/
theorem whole_part (front : List Entry) {e : Entry} (rest : List Entry) {k : Nat} (hpos : 0 < k)
    (hlt : k < Text.byteLength e.toJson.render) :
    let n := Text.byteLength (journal front) + k
    whole n (front ++ e :: rest) = front ∧ isTorn n (front ++ e :: rest) = true := by
  intro n
  have hle : Text.byteLength (journal front) ≤ n := Nat.le_add_right _ _
  have hbehind : n ≤ Text.byteLength (journal front) + Text.byteLength e.toJson.render + 1 := by
    omega
  obtain ⟨hw, -⟩ := spans_behind rest hbehind
  rw [whole_append hle, isTorn_append hle, spans,
    List.filter_cons_of_neg (by simpa [n] using hlt), hw, List.any_cons,
    decide_eq_true (by simpa [n] using ⟨hpos, hlt⟩)]
  exact ⟨List.append_nil _, rfl⟩

theorem subset_whole (n : Nat) (es : List Entry) : ∀ e ∈ whole n es, e ∈ es := by
  intro e he
  obtain ⟨r, hr, rfl⟩ := List.mem_map.mp he
  have hmem := List.mem_map_of_mem (f := Span.entry) (List.mem_filter.mp hr).1
  rwa [map_entry_spans] at hmem

end

/-- A log is cut behind a record, behind the text of one, or inside it. -/
theorem journal_cut {es : List Entry} {a b : List Char} (h : journal es = a ++ b) :
    ∃ front back, es = front ++ back ∧
      (a = journal front ∨ ∃ e rest, back = e :: rest ∧
        (a = journal front ++ e.toJson.render ∨ ∃ p, e.IsCut p ∧ a = journal front ++ p)) := by
  induction es generalizing a with
  | nil =>
    have ha : a = [] := (List.append_eq_nil_iff.mp h.symm).1
    exact ⟨[], [], rfl, Or.inl ha⟩
  | cons e es ih =>
    rw [journal_cons] at h
    rcases List.append_eq_append_iff.mp h with ⟨c, rfl, hrest⟩ | ⟨c, hline, -⟩
    · obtain ⟨front, back, rfl, hcut⟩ := ih hrest
      refine ⟨e :: front, back, rfl, ?_⟩
      simp only [journal_cons, List.append_assoc, List.append_cancel_left_eq]
      exact hcut
    · have hp : a <+: e.toJson.render ++ ['\n'] := ⟨c, hline.symm⟩
      rcases List.prefix_concat_iff.mp hp with rfl | hp
      · refine ⟨[e], es, rfl, Or.inl ?_⟩
        rw [journal_cons]
        exact (List.append_nil _).symm
      · refine ⟨[], e :: es, rfl, ?_⟩
        by_cases hnil : a = []
        · exact Or.inl hnil
        by_cases hall : a = e.toJson.render
        · exact Or.inr ⟨e, es, rfl, Or.inl hall⟩
        · exact Or.inr ⟨e, es, rfl, Or.inr ⟨a, ⟨hnil, hp, hall⟩, rfl⟩⟩

/-! ## What is read back -/

section
variable {e : Entry} {front : List Entry}

theorem isClosed_journal (es : List Entry) : (Bytes.encode (journal es)).IsClosed := by
  refine Bytes.isClosed_encode ?_
  rcases List.eq_nil_or_concat' es with rfl | ⟨front, e, rfl⟩
  · exact Or.inl rfl
  · have hlast : journal (front ++ [e]) = (journal front ++ e.toJson.render) ++ ['\n'] := by
      simp [journal, line]
    right
    rw [hlast]
    exact List.getLast?_concat

/-- The records of a log are read back, or counted as faulty. -/
theorem entries_journal (hs : ∀ e ∈ front, e.isRecordable = true) :
    entries (Bytes.encode (journal front)) = front.filterMap Entry.reread? ∧
      faults (Bytes.encode (journal front)) = front.countP fun e => e.reread?.isNone := by
  induction front with
  | nil => exact ⟨rfl, rfl⟩
  | cons e front ih =>
    rw [List.forall_mem_cons] at hs
    have hclosed := Bytes.isClosed_encode (s := line e) (Or.inr List.getLast?_concat)
    obtain ⟨he, hf⟩ := ih hs.2
    rw [journal_cons, Bytes.encode_append, entries_append hclosed, faults_append hclosed,
      entries_line hs.1, faults_line hs.1, he, hf, List.filterMap_cons, List.countP_cons,
      Nat.add_comm]
    cases e.reread? with
    | none => exact ⟨rfl, rfl⟩
    | some e' => exact ⟨rfl, rfl⟩

/-- A record without its line feed is read like one with it. -/
theorem entries_toJson (he : e.isRecordable = true) :
    entries (Bytes.encode e.toJson.render) = e.reread?.toList ∧
      faults (Bytes.encode e.toJson.render) = if e.reread?.isNone = true then 1 else 0 := by
  have hlines : Bytes.lines (Bytes.encode e.toJson.render)
      = Bytes.lines (Bytes.encode (line e)) := by
    rw [Bytes.lines_unfinished e.lineFeed_not_mem_toJson (fun h => by cases h), lines_line]
  rw [← entries_line he, ← faults_line he]
  unfold entries faults
  rw [hlines]
  exact ⟨rfl, rfl⟩

/-- A part of a record has some of its bytes. -/
theorem byteLength_of_isCut {p : List Char} (h : e.IsCut p) :
    0 < Text.byteLength p ∧ Text.byteLength p < Text.byteLength e.toJson.render := by
  obtain ⟨q, hq⟩ := h.front
  have hrest : q ≠ [] := by
    rintro rfl
    exact h.proper ((List.append_nil p).symm.trans hq)
  have hpos := Text.byteLength_pos h.nonempty
  have hpos' := Text.byteLength_pos hrest
  rw [← hq, Text.byteLength_append]
  omega

/-- A part of a record is one faulty line. -/
theorem entries_of_isCut {p : List Char} (h : e.IsCut p) :
    entries (Bytes.encode p) = [] ∧ faults (Bytes.encode p) = 1 := by
  obtain ⟨f, hf⟩ := Entry.content_of_isCut_self h
  obtain ⟨hb, hp⟩ := parse?_of_malformed hf
  have htexts : texts (Bytes.lines (Bytes.encode p)) = [p] := by
    rw [Bytes.lines_unfinished (Entry.lineFeed_not_mem_of_isCut h) h.nonempty]
    exact texts_cons [] (Bytes.decode?_encode _) hb
  unfold entries faults entriesIn faultsIn
  rw [htexts]
  simp [hp]

end

/-- What is read back from the first bytes of a log, where these are a text. -/
theorem entries_cut {es : List Entry} (hs : ∀ e ∈ es, e.isRecordable = true) {a b : List Char}
    (h : journal es = a ++ b) :
    entries (Bytes.encode a) = (whole (Text.byteLength a) es).filterMap Entry.reread? ∧
      faults (Bytes.encode a)
        = ((whole (Text.byteLength a) es).countP fun e => e.reread?.isNone)
          + if isTorn (Text.byteLength a) es = true then 1 else 0 := by
  obtain ⟨front, back, rfl, hcut⟩ := journal_cut h
  obtain ⟨he, hf⟩ := entries_journal fun e hm => hs e (List.mem_append_left _ hm)
  have hclosed := isClosed_journal front
  rcases hcut with rfl | ⟨e, rest, rfl, rfl | ⟨p, hp, rfl⟩⟩
  · obtain ⟨hw, ht⟩ := whole_behind front back
    rw [hw, ht, he, hf]
    exact ⟨rfl, rfl⟩
  · obtain ⟨hw, ht⟩ := whole_text front e rest
    obtain ⟨hte, htf⟩ := entries_toJson (hs e (by simp))
    rw [Text.byteLength_append, hw, ht, Bytes.encode_append, entries_append hclosed,
      faults_append hclosed, he, hf, hte, htf]
    cases hr : e.reread? <;> simp [hr]
  · obtain ⟨hpos, hlt⟩ := byteLength_of_isCut hp
    obtain ⟨hw, ht⟩ := whole_part front rest hpos hlt
    obtain ⟨hpe, hpf⟩ := entries_of_isCut hp
    rw [Text.byteLength_append, hw, ht, Bytes.encode_append, entries_append hclosed,
      faults_append hclosed, he, hf, hpe, hpf]
    exact ⟨List.append_nil _, rfl⟩

/-- What appending some entries makes of a log. -/
theorem read_appendAll {files written : Files} {path : String} {es : List Entry} {c : Bytes}
    (hr : files.read path = .ok c) (h : appendAll files path es = .ok written) :
    written.read path = .ok (c ++ Bytes.encode (journal es)) := by
  induction es generalizing files c with
  | nil =>
    obtain rfl := Files.Attempt.ok.inj h
    rw [hr]
    exact congrArg Except.ok (List.append_nil c).symm
  | cons e es ih =>
    obtain ⟨next, hnext, hrest⟩ := Files.Attempt.andThen_eq_ok_iff.mp h
    have hread := Files.read_appendMaking (Or.inl ⟨_, hr⟩) hnext
    rw [Files.contents_of_read hr] at hread
    rw [ih hread hrest, journal_cons, Bytes.encode_append, List.append_assoc]

theorem contents_appendAll {files written : Files} {path : String} {es : List Entry}
    (hf : files.IsAbsent path) (h : appendAll files path es = .ok written) :
    written.contents path = Bytes.encode (journal es) := by
  have hnone : files.contents path = [] := by
    unfold Files.contents
    rw [hf.1]
  cases es with
  | nil =>
    obtain rfl := Files.Attempt.ok.inj h
    exact hnone
  | cons e es =>
    obtain ⟨next, hnext, hrest⟩ := Files.Attempt.andThen_eq_ok_iff.mp h
    have hread := Files.read_appendMaking (Or.inr hf) hnext
    rw [hnone, List.nil_append] at hread
    rw [Files.contents_of_read (read_appendAll hread hrest), journal_cons, Bytes.encode_append]

/-- Entries are appended to a log that does not exist, and the log is cut after some bytes. In the
middle of a character the whole log is lost. Anywhere else the last writes of all whole records are
read back, and one line is skipped if a record is torn; only records that are not legible come back
as something else, or are skipped too. -/
theorem load_cut {files written cut : Files} {path : String} {es : List Entry} {n : Nat}
    (hf : files.IsAbsent path) (hw : appendAll files path es = .ok written)
    (hs : ∀ e ∈ es, e.isRecordable = true) (hn : n ≤ (written.contents path).length)
    (hc : cut.read path = .ok ((written.contents path).take n)) :
    (Text.splitAt? n (journal es) = none → (load cut path).1 = .error .notText) ∧
    (Text.splitAt? n (journal es) ≠ none → ∃ r, (load cut path).1 = .ok r ∧
      r.entries = Entry.lastWriteWins ((whole n es).filterMap Entry.reread?) ∧
      r.skipped = ((whole n es).countP fun e => e.reread?.isNone)
        + if isTorn n es = true then 1 else 0) ∧
    (Text.splitAt? n (journal es) ≠ none → (∀ e ∈ es, e.isLegible = true) →
      ∃ r, (load cut path).1 = .ok r ∧ r.entries = Entry.lastWriteWins (whole n es) ∧
        r.skipped = if isTorn n es = true then 1 else 0) := by
  rw [contents_appendAll hf hw] at hn hc
  have hload := load_of_read hc
  rw [scan_result, Bytes.decode?_take hn] at hload
  have hcut : Text.splitAt? n (journal es) ≠ none → ∃ r, (load cut path).1 = .ok r ∧
      r.entries = Entry.lastWriteWins ((whole n es).filterMap Entry.reread?) ∧
      r.skipped = ((whole n es).countP fun e => e.reread?.isNone)
        + if isTorn n es = true then 1 else 0 := by
    intro hsplit
    obtain ⟨⟨a, b⟩, hab⟩ := Option.ne_none_iff_exists'.mp hsplit
    obtain ⟨happ, rfl⟩ := Text.splitAt?_eq_some_iff.mp hab
    obtain ⟨he, hk⟩ := entries_cut hs happ
    have htake : (Bytes.encode (journal es)).take (Text.byteLength a) = Bytes.encode a := by
      rw [happ, Bytes.encode_append, ← Bytes.length_encode, List.take_left]
    rw [hab, htake] at hload
    refine ⟨_, hload, ?_, hk⟩
    show Entry.lastWriteWins (entries (Bytes.encode a)) = _
    rw [he]
  refine ⟨fun hsplit => ?_, hcut, fun hsplit hl => ?_⟩
  · rw [hsplit] at hload
    exact hload
  · obtain ⟨r, hr, he, hk⟩ := hcut hsplit
    have hread : ∀ e ∈ whole n es, e.reread? = some e := fun e hm =>
      (Entry.reread?_eq_some_self_iff e).mpr (hl e (subset_whole n es e hm))
    have hsame : (whole n es).filterMap Entry.reread? = whole n es := by
      rw [List.filterMap_congr hread]
      exact List.filterMap_some
    have hnone : ((whole n es).countP fun e => e.reread?.isNone) = 0 := by
      rw [List.countP_eq_zero]
      intro e hm
      rw [hread e hm]
      exact Bool.false_ne_true
    rw [hsame] at he
    rw [hnone, Nat.zero_add] at hk
    exact ⟨r, hr, he, hk⟩

/-- Two orders, the second of which has a name with a character of two bytes. -/
def accented : List Entry := [ordering "a" 1, ordering "é" 2]

/-- In front of that character the cut costs the second record, inside it the whole log. -/
theorem load_cut_accented :
    ∃ written, appendAll .empty "w" accented = .ok written ∧
      (∃ r, (load (filed ((written.contents "w").take 176)) "w").1 = .ok r ∧
        r.entries = [ordering "a" 1] ∧ r.skipped = 1) ∧
      (load (filed ((written.contents "w").take 177)) "w").1 = .error .notText := by
  obtain ⟨written, hw⟩ : ∃ written, appendAll .empty "w" accented = .ok written :=
    ⟨_, by with_unfolding_all rfl⟩
  have hs : ∀ e ∈ accented, e.isRecordable = true := by decide
  have hlength : (written.contents "w").length = 274 := by
    rw [contents_appendAll Buffer.isAbsent_empty hw]
    decide +kernel
  refine ⟨written, hw, ?_, ?_⟩
  · have hsplit : Text.splitAt? 176 (journal accented) ≠ none := by decide +kernel
    obtain ⟨r, hr, he, hk⟩ := (load_cut Buffer.isAbsent_empty hw hs (hlength ▸ by omega)
      (read_filed _)).2.2 hsplit (by decide)
    have hfirst : Text.byteLength (journal [ordering "a" 1]) = 136 := by decide +kernel
    obtain ⟨hwhole, htorn⟩ := whole_part [ordering "a" 1] (e := ordering "é" 2) [] (k := 40)
      (by decide) (by decide +kernel)
    rw [hfirst] at hwhole htorn
    refine ⟨r, hr, ?_, ?_⟩
    · rw [he, show whole 176 accented = [ordering "a" 1] from hwhole]
      rfl
    · rw [hk, show isTorn 176 accented = true from htorn]
      rfl
  · have hsplit : Text.splitAt? 177 (journal accented) = none := by decide +kernel
    exact (load_cut Buffer.isAbsent_empty hw hs (hlength ▸ by omega) (read_filed _)).1 hsplit

end Failsafe.Wal
