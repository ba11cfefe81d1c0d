import Failsafe.Proofs.Buffer.Bounds
import Failsafe.Proofs.Buffer.Identity
import Failsafe.Proofs.Wal.Writing
/-
  A stamped write never takes the place of another one.

  The next number of a buffer is above those of all the entries that were restored and of all that
  have been accepted since, explicit numbers included, and every key that is held belongs to the
  number of its entry (`IsAhead`). A log that the program has written restores such a buffer and
  every call leaves one (`isAhead_serve`). So a write that is stamped has a key of its own and is
  held behind all others (`stamped_serve`). A call that is not accepted takes no number: from
  nothing on, writes without numbers get one after the other (`seqs_acceptances`).
-/

namespace Failsafe

namespace Entry

/-- A write of a resource as it is made, with a number or without. -/
def IsBuilt (e : Entry) : Prop :=
  (∃ now resource id data, e = Entry.new now resource id data) ∨ e.IsMade

/-- The entry has a number, and its key is made of it. -/
def IsKeyed (e : Entry) : Prop := ∃ n, e.seq = some n ∧ e.key = keyOf e.resource e.id n

theorem isKeyed_withSeq (e : Entry) (n : Nat) : (e.withSeq n).IsKeyed := ⟨n, rfl, rfl⟩

end Entry

namespace Buffer

/-- The writes that are accepted while each call finds files of its own, in their order. -/
def acceptances (b : Buffer) : List (Call × Files) → List Entry
  | [] => []
  | c :: calls =>
    (c.1.reply (b, c.2)).accepted?.toList ++ acceptances (c.1.perform (b, c.2)).1 calls

/-- All that is held is among some entries, which have the keys of their numbers, and the next
number is above all of theirs. -/
structure IsAhead (b : Buffer) (known : List Entry) : Prop where
  held : ∀ e ∈ b.entries, e ∈ known
  keyed : ∀ e ∈ known, e.IsKeyed
  above : ∀ e ∈ known, ∀ n, e.seq = some n → n < b.nextSeq

section
variable {b : Buffer} {known : List Entry} {e : Entry}

theorem stamp_of_none (h : e.seq = none) : b.stamp e = e.withSeq b.nextSeq := by
  unfold stamp
  rw [h]

theorem isKeyed_stamp (b : Buffer) (h : e.IsBuilt) : (b.stamp e).IsKeyed := by
  rcases h with ⟨now, resource, id, data, rfl⟩ | ⟨now, resource, id, data, n, rfl⟩
  · exact Entry.isKeyed_withSeq _ _
  · exact Entry.isKeyed_withSeq _ _

/-! ## One call -/

theorem isAhead_hold (h : b.IsAhead known) (he : e.IsKeyed) :
    (b.hold e).IsAhead (known ++ [e]) := by
  obtain ⟨hle, hlt⟩ := seqAfter_le_iff.mp (Nat.le_refl (seqAfter b.nextSeq e))
  refine ⟨fun x hx => ?_, fun x hx => ?_, fun x hx n hn => ?_⟩
  · rcases Entry.mem_upsert hx with rfl | hx
    · simp
    · exact List.mem_append_left _ (h.held x hx)
  · rcases List.mem_append.mp hx with hx | hx
    · exact h.keyed x hx
    · rwa [List.mem_singleton.mp hx]
  · show n < seqAfter b.nextSeq e
    rcases List.mem_append.mp hx with hx | hx
    · exact Nat.lt_of_lt_of_le (h.above x hx n hn) hle
    · rw [List.mem_singleton.mp hx] at hn
      exact hlt n hn

theorem isAhead_perform (h : b.IsAhead known) (c : Call) (files : Files)
    (hc : ∀ e, c = .add e → e.IsBuilt) :
    (c.perform (b, files)).1.IsAhead (known ++ (c.reply (b, files)).accepted?.toList) := by
  cases c with
  | add e =>
    rcases accepted?_add (b, files) e with ⟨hn, left, -, hs⟩ | ⟨files', ha, -, hs⟩
    · rw [hn, hs]
      simpa using h
    · rw [ha, hs]
      exact isAhead_hold h (isKeyed_stamp b (hc e rfl))
  | flush reply =>
    have hnone : ((Call.flush reply).reply (b, files)).accepted? = none := rfl
    rw [hnone, Option.toList_none, List.append_nil, Call.perform]
    rcases flush_cases b reply files with hs | ⟨-, files', -, hs⟩
    · rw [hs]
      exact h
    · rw [hs]
      exact ⟨fun _ he => absurd he List.not_mem_nil, h.keyed, h.above⟩

/-- A call takes the next number for a write that is accepted, and no number else. -/
theorem number_of_call (b : Buffer) (c : Call) (files : Files)
    (hc : ∀ e, c = .add e → e.seq = none) :
    ((c.reply (b, files)).accepted? = none ∧ (c.perform (b, files)).1.nextSeq = b.nextSeq) ∨
    ∃ e, (c.reply (b, files)).accepted? = some e ∧ e.seq = some b.nextSeq ∧
      (c.perform (b, files)).1.nextSeq = b.nextSeq + 1 := by
  cases c with
  | add e =>
    rcases accepted?_add (b, files) e with ⟨hn, left, -, hs⟩ | ⟨files', ha, -, hs⟩
    · rw [hs]
      exact Or.inl ⟨hn, rfl⟩
    · rw [hs]
      refine Or.inr ⟨b.stamp e, ha, ?_⟩
      rw [stamp_of_none (hc e rfl)]
      refine ⟨rfl, ?_⟩
      show max b.nextSeq (b.nextSeq + 1) = _
      omega
  | flush reply =>
    rw [Call.perform]
    rcases flush_cases b reply files with hs | ⟨-, files', -, hs⟩
    · rw [hs]
      exact Or.inl ⟨rfl, rfl⟩
    · rw [hs]
      exact Or.inl ⟨rfl, rfl⟩

/-- The next number makes a key that nothing held has. -/
theorem key_ne_of_isAhead (h : b.IsAhead known) (e : Entry) :
    ∀ x ∈ b.entries, x.key ≠ (e.withSeq b.nextSeq).key := by
  intro x hx hk
  obtain ⟨n, hn, hkey⟩ := h.keyed x (h.held x hx)
  rw [hkey] at hk
  have hsame : n = b.nextSeq := Entry.number_of_keyOf_eq hk
  exact absurd (h.above x (h.held x hx) n hn) (by omega)

/-- A stamped write is held behind all others. -/
theorem entries_add_of_none {files : Files} (h : b.IsAhead known) (hs : e.seq = none)
    (ha : (b.add e files).answer = .ok true) :
    (b.add e files).state.1.entries = b.entries ++ [e.withSeq b.nextSeq] := by
  rcases add_cases b e files with ⟨hn, -⟩ | ⟨files', -, -, hstate⟩
  · exact absurd ha hn
  · have hnew : (e.withSeq b.nextSeq).key ∉ b.entries.map Entry.key := by
      intro hm
      obtain ⟨x, hx, hk⟩ := List.mem_map.mp hm
      exact key_ne_of_isAhead h e x hx hk
    rw [hstate, stamp_of_none hs]
    exact Entry.upsert_of_not_mem hnew

/-! ## Many calls -/

theorem isAhead_serve (h : b.IsAhead known) (calls : List (Call × Files))
    (hc : ∀ e files, (.add e, files) ∈ calls → e.IsBuilt) :
    (b.serve calls).IsAhead (known ++ b.acceptances calls) := by
  induction calls generalizing b known with
  | nil =>
    rw [acceptances, List.append_nil]
    exact h
  | cons c calls ih =>
    have hfirst : ∀ e, c.1 = .add e → e.IsBuilt :=
      fun e he => hc e c.2 (by rw [← he]; exact List.mem_cons_self)
    rw [acceptances, ← List.append_assoc]
    exact ih (isAhead_perform h c.1 c.2 hfirst) fun e files he =>
      hc e files (List.mem_cons_of_mem _ he)

/-- Writes without numbers are given one number after the other. -/
theorem seqs_acceptances (b : Buffer) (calls : List (Call × Files))
    (hc : ∀ e files, (.add e, files) ∈ calls → e.seq = none) :
    (b.acceptances calls).map Entry.seq
      = (List.range' b.nextSeq (b.acceptances calls).length).map some := by
  induction calls generalizing b with
  | nil => rfl
  | cons c calls ih =>
    have hfirst : ∀ e, c.1 = .add e → e.seq = none :=
      fun e he => hc e c.2 (by rw [← he]; exact List.mem_cons_self)
    have hrest := ih (c.1.perform (b, c.2)).1 fun e files he =>
      hc e files (List.mem_cons_of_mem _ he)
    rw [acceptances]
    rcases number_of_call b c.1 c.2 hfirst with ⟨hn, hnext⟩ | ⟨e, ha, hseq, hnext⟩
    · rw [hn, Option.toList_none, List.nil_append, hrest, hnext]
    · rw [ha, Option.toList_some, List.singleton_append, List.map_cons, List.length_cons,
        List.range'_succ, List.map_cons, hrest, hnext, hseq]

end

/-- A log that the program has written restores a buffer that is ahead of what it restores. -/
theorem isAhead_new {config : BufferConfig} {files : Files} {b : Buffer}
    (hb : (Buffer.new config files).1 = .ok b)
    (hw : ∀ path, config.wal = some path → Wal.IsWritten (files.contents path)) :
    b.IsAhead b.entries := by
  refine ⟨fun _ h => h, fun e he => ?_, (isTallied_new hb).next⟩
  rcases new_cases hb with ⟨-, rfl⟩ | ⟨path, r, hwal, hr, rfl⟩
  · cases he
  · obtain ⟨n, -, hkeyed⟩ := (Wal.isNumbered_of_load (hw path hwal) hr e he).keyed
    exact ⟨n, hkeyed⟩

/-- A buffer starts on a log that the program has written, and takes writes, with numbers of their
own or without, and flushes. Whenever a write without a number is accepted, it is stamped with one
that is greater than all that were restored or have been accepted since, its key differs from every
key that is held, and it is held behind all others. A write that is not accepted changes nothing,
except that directories may have been made for the log. If nothing was restored and no write has a
number of its own, those that are accepted are numbered from zero on, in their order. -/
theorem stamped_serve {config : BufferConfig} {files : Files} {b : Buffer}
    (hb : (Buffer.new config files).1 = .ok b)
    (hw : ∀ path, config.wal = some path → Wal.IsWritten (files.contents path))
    (calls : List (Call × Files)) (hc : ∀ e files, (.add e, files) ∈ calls → e.IsBuilt) :
    let now := b.serve calls
    (∀ e files, e.seq = none → (now.add e files).answer = .ok true →
      let stamped := e.withSeq now.nextSeq
      let after := (now.add e files).state.1
      (∀ x ∈ b.entries ++ b.acceptances calls, ∀ n, x.seq = some n → n < now.nextSeq) ∧
      (∀ x ∈ now.entries, x.key ≠ stamped.key) ∧
      after.entries = now.entries ++ [stamped] ∧
      after.entries.length = now.entries.length + 1) ∧
    (∀ e files, (now.add e files).answer ≠ .ok true →
      (now.add e files).state.1 = now ∧ files.GainsDirectories (now.add e files).state.2) ∧
    (b.entries = [] → (∀ e files, (.add e, files) ∈ calls → e.seq = none) →
      (b.acceptances calls).map Entry.seq
        = (List.range (b.acceptances calls).length).map some) := by
  intro now
  have hahead : now.IsAhead (b.entries ++ b.acceptances calls) :=
    isAhead_serve (isAhead_new hb hw) calls hc
  refine ⟨fun e files hs ha => ?_, fun e files ha => ?_, fun hempty hs => ?_⟩
  · have hentries := entries_add_of_none hahead hs ha
    refine ⟨hahead.above, key_ne_of_isAhead hahead e, hentries, ?_⟩
    rw [hentries, List.length_append, List.length_singleton]
  · rcases add_cases now e files with ⟨-, left, hl, hstate⟩ | ⟨files', -, hok, -⟩
    · rw [hstate]
      exact ⟨rfl, (spares_of_isLeft hl).gains⟩
    · exact absurd hok ha
  · have hzero : b.nextSeq = 0 := by
      rw [nextSeq_new hb, hempty]
      rfl
    rw [seqs_acceptances b calls hs, hzero, List.range_eq_range']

/-- A log with one order and the front of a line. -/
def interrupted : List Char := Wal.line (Wal.ordering "a" 1) ++ ['{', '"']

theorem isNumbered_ordering (id : String) (quantity : Nat) :
    (Wal.ordering id quantity).IsNumbered := ⟨rfl, 0, by decide, rfl, rfl⟩

theorem isWritten_interrupted : Wal.IsWritten (Bytes.encode interrupted) := by
  have hline : Wal.IsWritten ([] ++ Bytes.encode (Wal.line (Wal.ordering "a" 1))) :=
    .append .empty (isNumbered_ordering "a" 1) (List.prefix_refl _)
  obtain ⟨l, hl⟩ : ∃ l, Wal.line (Wal.ordering "b" 1) = ['{', '"'] ++ l := ⟨_, rfl⟩
  unfold interrupted
  rw [Bytes.encode_append]
  refine .append hline (isNumbered_ordering "b" 1) ?_
  rw [hl, Bytes.encode_append]
  exact List.prefix_append _ _

/-- Room for some writes, and a log. -/
def roomy : BufferConfig := ⟨10, 1000, some "w", false⟩

/-- A write of another order, with the number five. -/
def fifth : Entry := (Entry.new ⟨0, .epoch⟩ "order" "b" []).withSeq 5

/-- A write without a number of an order with a colon in its name. -/
def unnumbered : Entry := Entry.new ⟨0, .epoch⟩ "order" "b:5" []

theorem answer_fifth :
    (Buffer.add fifth .empty ⟨roomy, [Wal.ordering "a" 1], 9, 1⟩).answer = .ok true := by
  decide +kernel

theorem answer_unnumbered :
    (Buffer.add unnumbered .empty ⟨roomy, [Wal.ordering "a" 1, fifth], 11, 6⟩).answer
      = .ok true := by decide +kernel

theorem new_interrupted :
    (Buffer.new roomy (Wal.filed (Bytes.encode interrupted))).1
      = .ok ⟨roomy, [Wal.ordering "a" 1], 9, 1⟩ := by
  have hclosed : (Bytes.encode (Wal.line (Wal.ordering "a" 1))).IsClosed :=
    Bytes.isClosed_encode (Or.inr List.getLast?_concat)
  have htorn : Wal.entries (Bytes.encode ['{', '"']) = [] := by with_unfolding_all rfl
  have hentries : Wal.entries (Bytes.encode interrupted) = [Wal.ordering "a" 1] := by
    rw [interrupted, Bytes.encode_append, Wal.entries_append hclosed, htorn,
      Wal.entries_ordering "a" 1 (by decide)]
    rfl
  have hload : (Wal.load (Wal.filed (Bytes.encode interrupted)) "w").1.map Replay.entries
      = .ok [Wal.ordering "a" 1] := by
    rw [Wal.load_encode (Wal.read_filed _)]
    unfold Wal.replay
    rw [hentries]
    rfl
  have hwal : roomy.wal = some "w" := rfl
  obtain ⟨b, hb, hconfig, he, hbytes⟩ := new_of_load hwal hload
  have hnext : b.nextSeq = 1 := by
    rw [nextSeq_new hb, he]
    rfl
  rw [hb]
  obtain ⟨config, entries, bytes, nextSeq⟩ := b
  cases hconfig
  cases he
  cases hbytes
  cases hnext
  rfl

/-- Of such a log the order is restored. A write with the number five is accepted behind it, and the
next one without a number gets six. -/
theorem stamped_interrupted :
    ∃ b now, (Buffer.new roomy (Wal.filed (Bytes.encode interrupted))).1 = .ok b ∧
      now = b.serve [(.add fifth, .empty)] ∧ (now.add unnumbered .empty).answer = .ok true ∧
      (now.add unnumbered .empty).state.1.entries
        = [Wal.ordering "a" 1, fifth, unnumbered.withSeq 6] ∧
      ∀ x ∈ now.entries, x.key ≠ "order:b:5:6" := by
  have hw : ∀ path, roomy.wal = some path →
      Wal.IsWritten ((Wal.filed (Bytes.encode interrupted)).contents path) := by
    rintro path hp
    obtain rfl := Option.some.inj hp
    rw [Files.contents_of_read (Wal.read_filed _)]
    exact isWritten_interrupted
  have hbuilt : ∀ x files, (Call.add x, files) ∈ [(Call.add fifth, Files.empty)] →
      x.IsBuilt := by
    intro x files hx
    cases List.mem_singleton.mp hx
    exact Or.inr ⟨_, _, _, _, _, rfl⟩
  obtain ⟨hstamped, -, -⟩ := stamped_serve new_interrupted hw [(.add fifth, .empty)] hbuilt
  have hnow : serve ⟨roomy, [Wal.ordering "a" 1], 9, 1⟩ [(.add fifth, .empty)]
      = ⟨roomy, [Wal.ordering "a" 1, fifth], 11, 6⟩ := by
    rcases add_cases ⟨roomy, [Wal.ordering "a" 1], 9, 1⟩ fifth .empty with
      ⟨hn, -⟩ | ⟨files', -, -, hs⟩
    · exact absurd answer_fifth hn
    · exact congrArg Prod.fst hs
  obtain ⟨-, hkey, hafter, -⟩ := hstamped unnumbered .empty rfl
    (by rw [hnow]; exact answer_unnumbered)
  rw [hnow] at hkey hafter
  exact ⟨_, _, new_interrupted, hnow.symm, answer_unnumbered, hafter, hkey⟩

end Buffer

end Failsafe
