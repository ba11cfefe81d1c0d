import Mathlib.Algebra.GroupWithZero.Nat
import Mathlib.Data.String.Basic
import Failsafe.Program
import Failsafe.Proofs.Buffer.Rebuilding
import Failsafe.Proofs.Text.Cuts
import Failsafe.Proofs.Wal.Replaying
/-
  What the offline report says about a log that can be restored.

  The report and a new buffer read the same log, each with sums of its own. Whenever the buffer can
  be restored the report is written too: what it says about the entries is what the buffer then
  holds, what it says about the lines adds up to the lines of the log that are not blank, and the
  files stay as they were (`inspect_of_new`). The kinds of resources are counted by a tally that is
  kept in the order of the bytes of their names (`Tally.isOf_ofList`).
-/

namespace Failsafe

namespace Tally

/-- Each of some names is counted once, in the order of the bytes, as often as it occurs. -/
structure IsOf (t : Tally) (names : List String) : Prop where
  ascending : t.Pairwise fun x y => Bytes.encode x.1.toList < Bytes.encode y.1.toList
  named : ∀ name, name ∈ t.map Prod.fst ↔ name ∈ names
  counts : ∀ x ∈ t, x.2 = names.count x.1
  total : (t.map Prod.snd).sum = names.length

/-- The names are in ascending order. -/
def IsSorted (t : Tally) : Prop := t.Pairwise fun x y => x.1 < y.1

variable {t : Tally} {name : String}

theorem isSorted_cons {x : String × Nat} :
    IsSorted (x :: t) ↔ (∀ y ∈ t, x.1 < y.1) ∧ IsSorted t := List.pairwise_cons

theorem mem_names_add {other : String} :
    other ∈ (t.add name).map Prod.fst ↔ other = name ∨ other ∈ t.map Prod.fst := by
  induction t with
  | nil => simp [add]
  | cons x rest ih =>
    obtain ⟨held, n⟩ := x
    rw [add]
    split
    · simp
    · split
      · next heq => simp [heq]
      · rw [List.map_cons, List.mem_cons, ih, List.map_cons, List.mem_cons]
        exact or_left_comm

theorem isSorted_add (h : IsSorted t) : IsSorted (t.add name) := by
  induction t with
  | nil => exact List.pairwise_singleton _ _
  | cons x rest ih =>
    obtain ⟨held, n⟩ := x
    obtain ⟨hfirst, hrest⟩ := isSorted_cons.mp h
    rw [add]
    split
    · next hlt =>
      refine isSorted_cons.mpr ⟨fun y hy => ?_, h⟩
      rcases List.mem_cons.mp hy with rfl | hy
      · exact hlt
      · exact String.lt_trans hlt (hfirst y hy)
    · next hge =>
      split
      · exact isSorted_cons.mpr ⟨hfirst, hrest⟩
      · next hne =>
        have hlt : held < name := lt_of_le_of_ne (not_lt.mp hge) (Ne.symm hne)
        refine isSorted_cons.mpr ⟨fun y hy => ?_, ih hrest⟩
        rcases mem_names_add.mp (List.mem_map_of_mem hy) with hy' | hy'
        · rw [hy']
          exact hlt
        · obtain ⟨z, hz, heq⟩ := List.mem_map.mp hy'
          rw [← heq]
          exact hfirst z hz

/-- One occurrence more is counted with its name and changes no other count. -/
theorem mem_add {x : String × Nat} (h : IsSorted t) (hx : x ∈ t.add name) :
    (x ∈ t ∧ x.1 ≠ name) ∨ (∃ n, (name, n) ∈ t ∧ x = (name, n + 1)) ∨
      (name ∉ t.map Prod.fst ∧ x = (name, 1)) := by
  induction t with
  | nil => exact Or.inr (Or.inr ⟨List.not_mem_nil, List.mem_singleton.mp hx⟩)
  | cons y rest ih =>
    obtain ⟨held, n⟩ := y
    obtain ⟨hfirst, hrest⟩ := isSorted_cons.mp h
    have habove : ∀ y ∈ rest, held < y.1 := hfirst
    rw [add] at hx
    split at hx
    · next hlt =>
      have hne : ∀ y ∈ (held, n) :: rest, y.1 ≠ name := by
        intro y hy
        rcases List.mem_cons.mp hy with rfl | hy
        · exact ne_of_gt hlt
        · exact ne_of_gt (String.lt_trans hlt (habove y hy))
      rcases List.mem_cons.mp hx with rfl | hx
      · refine Or.inr (Or.inr ⟨fun hm => ?_, rfl⟩)
        obtain ⟨y, hy, heq⟩ := List.mem_map.mp hm
        exact hne y hy heq
      · exact Or.inl ⟨hx, hne x hx⟩
    · split at hx
      · next heq =>
        rcases List.mem_cons.mp hx with rfl | hx
        · exact Or.inr (Or.inl ⟨n, heq ▸ List.mem_cons_self, by rw [heq]⟩)
        · exact Or.inl ⟨List.mem_cons_of_mem _ hx, heq ▸ ne_of_gt (habove x hx)⟩
      · next hne =>
        rcases List.mem_cons.mp hx with rfl | hx
        · exact Or.inl ⟨List.mem_cons_self, Ne.symm hne⟩
        · rcases ih hrest hx with ⟨hm, hn⟩ | ⟨m, hm, heq⟩ | ⟨hm, heq⟩
          · exact Or.inl ⟨List.mem_cons_of_mem _ hm, hn⟩
          · exact Or.inr (Or.inl ⟨m, List.mem_cons_of_mem _ hm, heq⟩)
          · refine Or.inr (Or.inr ⟨fun hmem => ?_, heq⟩)
            rcases List.mem_cons.mp hmem with hmem | hmem
            · exact hne hmem
            · exact hm hmem

theorem sum_add : ((t.add name).map Prod.snd).sum = (t.map Prod.snd).sum + 1 := by
  induction t with
  | nil => rfl
  | cons x rest ih =>
    obtain ⟨held, n⟩ := x
    rw [add]
    split
    · simp only [List.map_cons, List.sum_cons]
      omega
    · split
      · simp only [List.map_cons, List.sum_cons]
        omega
      · simp only [List.map_cons, List.sum_cons, ih]
        omega

theorem ofList_concat (names : List String) (name : String) :
    ofList (names ++ [name]) = (ofList names).add name := by
  unfold ofList
  rw [List.foldl_append]
  rfl

theorem isSorted_ofList (names : List String) : IsSorted (ofList names) := by
  induction names using List.reverseRecOn with
  | nil => exact List.Pairwise.nil
  | append_singleton names name ih =>
    rw [ofList_concat]
    exact isSorted_add ih

theorem mem_names_ofList {names : List String} :
    name ∈ (ofList names).map Prod.fst ↔ name ∈ names := by
  induction names using List.reverseRecOn with
  | nil => exact Iff.rfl
  | append_singleton names last ih =>
    rw [ofList_concat, mem_names_add, ih, List.mem_append, List.mem_singleton]
    exact or_comm

theorem count_ofList {names : List String} {x : String × Nat} (h : x ∈ ofList names) :
    x.2 = names.count x.1 := by
  induction names using List.reverseRecOn generalizing x with
  | nil => cases h
  | append_singleton names last ih =>
    rw [ofList_concat] at h
    rw [List.count_append]
    rcases mem_add (isSorted_ofList names) h with ⟨hx, hne⟩ | ⟨n, hn, rfl⟩ | ⟨hn, rfl⟩
    · rw [List.count_singleton, if_neg (by simpa using Ne.symm hne), Nat.add_zero]
      exact ih hx
    · rw [List.count_singleton_self, ← ih hn]
    · rw [List.count_singleton_self, List.count_eq_zero_of_not_mem (mt mem_names_ofList.mpr hn)]

theorem isOf_ofList (names : List String) : IsOf (ofList names) names where
  ascending := (isSorted_ofList names).imp fun h =>
    Bytes.encode_lt_encode (String.lt_iff_toList_lt.mp h)
  named _ := mem_names_ofList
  counts _ h := count_ofList h
  total := by
    induction names using List.reverseRecOn with
    | nil => rfl
    | append_singleton names name ih =>
      rw [ofList_concat, sum_add, ih, List.length_append, List.length_singleton]

end Tally

namespace Wal

/-- The line is a text of white space. -/
def isBlank (l : Bytes) : Bool := (Bytes.decode? l).any fun t => t.all Text.isSpace

/-- How many lines of a log are not blank. -/
def written (c : Bytes) : Nat := (Bytes.lines c).countP fun l => !isBlank l

/-- Of a log that is a text, every line that is not blank holds an entry or is faulty. -/
theorem length_texts {ls : List Bytes} (h : ∀ l ∈ ls, (Bytes.decode? l).isSome = true) :
    (texts ls).length = ls.countP fun l => !isBlank l := by
  induction ls with
  | nil => rfl
  | cons l ls ih =>
    obtain ⟨t, hl⟩ := Option.isSome_iff_exists.mp (h l List.mem_cons_self)
    have hrest := ih fun l' hl' => h l' (List.mem_cons_of_mem _ hl')
    have hblank : isBlank l = t.all Text.isSpace := by
      unfold isBlank
      rw [hl]
      rfl
    cases ht : t.all Text.isSpace with
    | true =>
      rw [texts_blank ls hl ht, hrest, List.countP_cons_of_neg (by simp [hblank, ht])]
    | false =>
      rw [texts_cons ls hl ht, List.length_cons, hrest,
        List.countP_cons_of_pos (by simp [hblank, ht])]

theorem length_entriesIn (ls : List Bytes) :
    (entriesIn ls).length + faultsIn ls = (texts ls).length := by
  unfold entriesIn faultsIn
  induction texts ls with
  | nil => rfl
  | cons t ts ih =>
    rw [List.filterMap_cons, List.countP_cons, List.length_cons]
    cases parse? t with
    | none =>
      simp only [Option.isNone_none, if_true]
      omega
    | some e =>
      simp only [Option.isNone_some, Bool.false_eq_true, if_false, List.length_cons]
      omega

/-- What is loaded accounts for every line that is not blank. -/
theorem records_of_load {files : Files} {path : String} {r : Replay}
    (h : (load files path).1 = .ok r) :
    r.records = r.entries.length + r.duplicates ∧
      r.records + r.skipped = written (files.contents path) := by
  obtain ⟨s, hs, rfl⟩ := eq_replay_of_load h
  rw [hs]
  refine ⟨(isOf_replay _).duplicates.symm, ?_⟩
  refine (length_entriesIn _).trans (length_texts fun l hl => ?_)
  obtain ⟨t, rfl⟩ := Bytes.lines_encode s l hl
  rw [Bytes.decode?_encode]
  rfl

end Wal

namespace Report

/-- What the report says about the lines of a log and the entries of the buffer restored from
it. -/
def summary (path : String) (records superseded malformed : Nat) (b : Buffer) : List String :=
  ["WAL: " ++ path,
    "  records read:     " ++ toString records,
    "  unique entries:   " ++ toString b.entries.length,
    "  superseded:       " ++ toString superseded,
    "  malformed lines:  " ++ toString malformed,
    "  payload bytes:    " ++ toString b.bytes]

/-- What it says about the kinds of resources, the counts being aligned. -/
def breakdown (t : Tally) : List String :=
  if t = [] then [] else
    "  by resource type:" :: t.map fun x =>
      "    " ++ (x.1 ++ String.ofList (List.replicate (20 - x.1.length) ' ')) ++ " "
        ++ toString x.2

/-- What it says about each entry. -/
def listing (b : Buffer) : List String :=
  b.entries.map fun e => "  " ++ e.wall.display ++ " " ++ e.key ++ " "
    ++ String.ofList (Json.Value.obj e.data).render

theorem lines_ofReplay (config : BufferConfig) (path : String) (r : Replay) (verbose : Bool) :
    let b := Buffer.ofReplay config r
    lines verbose ⟨path, r⟩ = summary path r.records r.duplicates r.skipped b
      ++ breakdown (.ofList (b.entries.map Entry.resource))
      ++ if verbose then listing b else [] := by
  intro b
  unfold lines breakdown
  cases h : byResource ⟨path, r⟩ with
  | nil =>
    have ht : Tally.ofList (b.entries.map Entry.resource) = [] := h
    rw [ht]
    rfl
  | cons x t =>
    have ht : Tally.ofList (b.entries.map Entry.resource) = x :: t := h
    rw [ht]
    rfl

end Report

namespace Program

open Wal (ordering filed)

/-- A log that is loaded is reported on, after the warnings that loading it gives. -/
theorem inspect_of_load {files : Files} {path : String} {r : Replay}
    (h : (Wal.load files path).1 = .ok r) (verbose : Bool) :
    ∃ warnings : List Log.Record, inspect path verbose files = .ended 0
      ⟨warnings.map (.record false) ++ (Report.lines verbose ⟨path, r⟩).map .text, [], files⟩ := by
  unfold inspect Report.make
  cases hl : Wal.load files path with
  | mk result signals =>
    rw [hl] at h
    obtain rfl : result = .ok r := h
    exact ⟨_, rfl⟩

/-- Whenever a buffer can be restored from a log, the report on the log is written and the files
stay as they were. It counts the entries and the bytes that the buffer holds, and its entries kind
by kind, and lists them on request; the lines with an entry are as many as the entries held and
those superseded, and with the malformed ones they are the lines that are not blank. -/
theorem inspect_of_new {config : BufferConfig} {files : Files} {path : String} {b : Buffer}
    (hw : config.wal = some path) (h : (Buffer.new config files).1 = .ok b) (verbose : Bool) :
    ∃ (warnings : List Log.Record) (records superseded malformed : Nat) (tally : Tally),
      inspect path verbose files = .ended 0
        ⟨warnings.map (.record false)
          ++ (Report.summary path records superseded malformed b ++ Report.breakdown tally
            ++ if verbose then Report.listing b else []).map .text, [], files⟩ ∧
      records = b.entries.length + superseded ∧
      records + malformed = Wal.written (files.contents path) ∧
      tally.IsOf (b.entries.map Entry.resource) := by
  obtain ⟨r, hr, rfl⟩ := Buffer.ofReplay_of_new hw h
  obtain ⟨hrecords, hwritten⟩ := Wal.records_of_load hr
  obtain ⟨warnings, hi⟩ := inspect_of_load hr verbose
  rw [Report.lines_ofReplay config] at hi
  exact ⟨warnings, r.records, r.duplicates, r.skipped, _, hi, hrecords, hwritten,
    Tally.isOf_ofList _⟩

/-- A log with a line that holds nothing, an order and a blank line. -/
def annotated : List Char := ['x', '\n'] ++ (Wal.line (ordering "a" 1) ++ [' ', '\n'])

theorem entries_annotated : Wal.entries (Bytes.encode annotated) = [ordering "a" 1] := by
  have hx : Wal.entries (Bytes.encode ['x', '\n']) = [] := by with_unfolding_all rfl
  have hb : Wal.entries (Bytes.encode [' ', '\n']) = [] := by with_unfolding_all rfl
  have hline : Bytes.IsClosed (Bytes.encode (Wal.line (ordering "a" 1))) :=
    Bytes.isClosed_encode (Or.inr List.getLast?_concat)
  rw [annotated, Bytes.encode_append, Bytes.encode_append,
    Wal.entries_append (Bytes.isClosed_encode (Or.inr rfl)), Wal.entries_append hline, hx, hb,
    Wal.entries_ordering "a" 1 (by decide)]
  rfl

/-- Of this log one order is restored, and the report says so. -/
theorem inspect_annotated :
    ∃ b, (Buffer.new ⟨10, 1000, some "w", false⟩ (filed (Bytes.encode annotated))).1 = .ok b ∧
      b.entries = [ordering "a" 1] ∧
      ∃ (warnings : List Log.Record) (superseded malformed : Nat) (tally : Tally),
        inspect "w" true (filed (Bytes.encode annotated)) = .ended 0
          ⟨warnings.map (.record false)
            ++ (Report.summary "w" (1 + superseded) superseded malformed b
              ++ Report.breakdown tally ++ Report.listing b).map .text, [],
            filed (Bytes.encode annotated)⟩ ∧
        1 + superseded + malformed = Wal.written (Bytes.encode annotated) ∧
        tally.IsOf ["order"] := by
  have hread := Wal.read_filed (Bytes.encode annotated)
  have hload : (Wal.load (filed (Bytes.encode annotated)) "w").1.map Replay.entries
      = .ok [ordering "a" 1] := by
    rw [Wal.load_encode hread]
    unfold Wal.replay
    rw [entries_annotated]
    rfl
  have hw : (⟨10, 1000, some "w", false⟩ : BufferConfig).wal = some "w" := rfl
  obtain ⟨b, hb, -, he, -⟩ := Buffer.new_of_load hw hload
  obtain ⟨warnings, records, superseded, malformed, tally, hi, hrecords, hwritten, ht⟩ :=
    inspect_of_new hw hb true
  rw [he] at hrecords ht
  rw [Files.contents_of_read hread] at hwritten
  obtain rfl : records = 1 + superseded := hrecords
  exact ⟨b, hb, he, warnings, superseded, malformed, tally, hi, hwritten, ht⟩

end Program

end Failsafe
