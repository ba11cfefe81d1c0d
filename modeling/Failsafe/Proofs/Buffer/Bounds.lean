import Failsafe.Proofs.Buffer.Numbering
import Failsafe.Proofs.Text.Cuts
import Failsafe.Proofs.Wal.Replaying
/-
  What the counters of the write buffer count, and what its bounds bound.

  A buffer is tallied (`IsTallied`): no key is held twice, the bytes are those of the entries held,
  and the next number is above all of theirs. A log restores a tallied buffer, possibly beyond its
  bounds, and every call leaves one, whatever has become of the files in between
  (`isTallied_perform`). A write that is accepted leaves the buffer within its bounds, where it
  stays from then on (`isWithin_perform`), and a full buffer takes no new key (`bounded_serve`).
-/

namespace Failsafe

namespace Buffer

/-- No key is held twice, the bytes are those of the entries held, and the next number is above all
of theirs. -/
structure IsTallied (b : Buffer) : Prop where
  distinct : (b.entries.map Entry.key).Nodup
  counted : b.bytes = Entry.totalSize b.entries
  next : ∀ e ∈ b.entries, ∀ n, e.seq = some n → n < b.nextSeq

/-- Neither bound is exceeded. -/
structure IsWithin (b : Buffer) : Prop where
  entries : b.entries.length ≤ b.config.maxEntries
  bytes : b.bytes ≤ b.config.maxBytes

/-- The buffer after some calls, each of which finds files of its own: nothing is said about what
becomes of the files between the calls. -/
def serve (b : Buffer) (calls : List (Call × Files)) : Buffer :=
  calls.foldl (fun b c => (c.1.perform (b, c.2)).1) b

section
variable {b : Buffer} {config : BufferConfig} {files : Files} {e : Entry}

/-! ## The counters -/

/-- What a log gives back is counted right, also where it exceeds the bounds. -/
theorem isTallied_new (h : (Buffer.new config files).1 = .ok b) : b.IsTallied := by
  have hreplay : ∃ l, b.entries = Entry.lastWriteWins l ∧
      b.bytes = Entry.totalSize b.entries := by
    rcases new_cases h with ⟨-, rfl⟩ | ⟨path, r, -, hl, rfl⟩
    · exact ⟨[], rfl, rfl⟩
    · obtain ⟨s, -, rfl⟩ := Wal.eq_replay_of_load hl
      exact ⟨Wal.entries (Bytes.encode s), rfl, rfl⟩
  obtain ⟨l, hl, hbytes⟩ := hreplay
  have hnext := nextSeq_new h
  refine ⟨?_, hbytes, ?_⟩
  · rw [hl]
    exact Entry.nodup_lastWriteWins l
  · exact (foldl_seqAfter_le_iff.mp (Nat.le_of_eq hnext.symm)).2

/-- The entry that a write replaces is counted, so its size can be taken off. -/
theorem size_le_bytes (h : b.IsTallied) {key : String} {held : Entry}
    (hf : b.find? key = some held) : held.size ≤ b.bytes := by
  rw [h.counted]
  exact Entry.size_le_totalSize (List.mem_of_find?_eq_some hf)

theorem isTallied_hold (h : b.IsTallied) (e : Entry) : (b.hold e).IsTallied where
  distinct := Entry.nodup_upsert h.distinct e
  counted := bytes_hold h.counted e
  next := by
    intro e' hm n hs
    obtain ⟨hle, hlt⟩ := seqAfter_le_iff.mp (Nat.le_refl (seqAfter b.nextSeq e))
    show n < seqAfter b.nextSeq e
    rcases Entry.mem_upsert hm with rfl | hm
    · exact hlt n hs
    · exact Nat.lt_of_lt_of_le (h.next e' hm n hs) hle

theorem isTallied_emptied (b : Buffer) : { b with entries := [], bytes := 0 }.IsTallied :=
  ⟨List.nodup_nil, rfl, fun _ hm => absurd hm List.not_mem_nil⟩

theorem isTallied_perform (h : b.IsTallied) (c : Call) (files : Files) :
    (c.perform (b, files)).1.IsTallied := by
  cases c with
  | add e =>
    rw [Call.perform]
    rcases add_cases b e files with ⟨-, left, -, hs⟩ | ⟨files', -, -, hs⟩
    · rw [hs]
      exact h
    · rw [hs]
      exact isTallied_hold h _
  | flush reply =>
    rw [Call.perform]
    rcases flush_cases b reply files with hs | ⟨-, files', -, hs⟩
    · rw [hs]
      exact h
    · rw [hs]
      exact isTallied_emptied b

theorem isTallied_serve (h : b.IsTallied) (calls : List (Call × Files)) :
    (b.serve calls).IsTallied := by
  induction calls generalizing b with
  | nil => exact h
  | cons c calls ih => exact ih (isTallied_perform h c.1 c.2)

/-! ## The bounds -/

/-- An accepted write is within the bounds. -/
theorem after_le_of_accepted (h : (b.add e files).answer = .ok true) :
    (b.after (b.stamp e)).1 ≤ b.config.maxEntries ∧
      (b.after (b.stamp e)).2 ≤ b.config.maxBytes := by
  unfold add at h
  dsimp only at h
  split at h
  · cases h
  · next hn =>
    rw [not_or, Nat.not_lt, Nat.not_lt] at hn
    exact hn

theorem length_hold (b : Buffer) (e : Entry) : (b.hold e).entries.length = (b.after e).1 := by
  show (Entry.upsert e b.entries).length = (b.after e).1
  unfold after
  cases hf : b.find? e.key with
  | none =>
    rw [Entry.upsert_of_not_mem (Entry.find?_eq_none_iff.mp hf), List.length_append]
    rfl
  | some held =>
    have hmem : e.key ∈ b.entries.map Entry.key := by
      by_contra hn
      cases hf.symm.trans (Entry.find?_eq_none_iff.mpr hn)
    have hkeys := congrArg List.length (Entry.keys_upsert_of_mem hmem)
    rwa [List.length_map, List.length_map] at hkeys

theorem isWithin_of_accepted (h : (b.add e files).answer = .ok true) :
    (b.add e files).state.1.IsWithin := by
  obtain ⟨hentries, hbytes⟩ := after_le_of_accepted h
  rcases add_cases b e files with ⟨hn, -⟩ | ⟨files', -, -, hs⟩
  · exact absurd h hn
  · rw [hs]
    refine ⟨?_, hbytes⟩
    rw [length_hold]
    exact hentries

/-- Within its bounds a buffer stays there. -/
theorem isWithin_perform (h : b.IsWithin) (c : Call) (files : Files) :
    (c.perform (b, files)).1.IsWithin := by
  cases c with
  | add e =>
    rw [Call.perform]
    by_cases ha : (b.add e files).answer = .ok true
    · exact isWithin_of_accepted ha
    · rcases add_cases b e files with ⟨-, left, -, hs⟩ | ⟨files', -, hok, -⟩
      · rw [hs]
        exact h
      · exact absurd hok ha
  | flush reply =>
    rw [Call.perform]
    rcases flush_cases b reply files with hs | ⟨-, files', -, hs⟩
    · rw [hs]
      exact h
    · rw [hs]
      exact ⟨Nat.zero_le _, Nat.zero_le _⟩

theorem isWithin_serve (h : b.IsWithin) (calls : List (Call × Files)) :
    (b.serve calls).IsWithin := by
  induction calls generalizing b with
  | nil => exact h
  | cons c calls ih => exact ih (isWithin_perform h c.1 c.2)

theorem size_pos (e : Entry) : 0 < e.size := by
  have hne : e.dataText ≠ [] := by
    unfold Entry.dataText
    rw [Json.Value.render]
    exact List.cons_ne_nil _ _
  exact Text.byteLength_pos hne

/-- A full buffer accepts no write with a new key: every entry takes up a place and some bytes. -/
theorem not_accepted_of_isFull (hf : b.isFull = true) (hn : b.find? (b.stamp e).key = none) :
    (b.add e files).answer ≠ .ok true := by
  intro ha
  obtain ⟨hentries, hbytes⟩ := after_le_of_accepted ha
  have hpos := size_pos (b.stamp e)
  unfold after at hentries hbytes
  rw [hn] at hentries hbytes
  unfold isFull at hf
  rw [Bool.or_eq_true, decide_eq_true_iff, decide_eq_true_iff] at hf
  dsimp only at hentries hbytes
  omega

end

/-- However a buffer has come about and whatever has been called: no key is held twice, the bytes
and the next number are right, and the size of an entry that is replaced is part of the bytes. After
an accepted write both bounds hold, and from then on after every call. While the buffer is full, no
write with a new key is accepted. -/
theorem bounded_serve {config : BufferConfig} {files : Files} {b : Buffer}
    (h : (Buffer.new config files).1 = .ok b) (calls : List (Call × Files)) :
    let now := b.serve calls
    now.IsTallied ∧
    (∀ key held, now.find? key = some held → held.size ≤ now.bytes) ∧
    (∀ e files, (now.add e files).answer = .ok true → (now.add e files).state.1.IsWithin) ∧
    (now.IsWithin → ∀ more, (now.serve more).IsWithin) ∧
    (now.isFull = true → ∀ e files, now.find? (now.stamp e).key = none →
      (now.add e files).answer ≠ .ok true) := by
  intro now
  have htallied : now.IsTallied := isTallied_serve (isTallied_new h) calls
  refine ⟨htallied, ?_, ?_, ?_, ?_⟩
  · intro key held hf
    exact size_le_bytes htallied hf
  · intro e files ha
    exact isWithin_of_accepted ha
  · intro hw more
    exact isWithin_serve hw more
  · intro hf e files hn
    exact not_accepted_of_isFull hf hn

/-- A buffer with room for one entry that holds one takes no second one, but the first one in
another form. -/
theorem bounded_serve_single :
    ∃ b, (Buffer.new ⟨1, 20, some "w", false⟩ .empty).1 = .ok b ∧
      let now := b.serve [(.add (Wal.ordering "a" 1), .empty)]
      now.isFull = true ∧ (now.add (Wal.ordering "b" 1) .empty).answer ≠ .ok true ∧
      let replaced := now.add (Wal.ordering "a" 2) .empty
      replaced.answer = .ok true ∧ replaced.state.1.IsWithin ∧ now.IsTallied := by
  let config : BufferConfig := ⟨1, 20, some "w", false⟩
  have hnew := new_of_notFound (rfl : config.wal = some "w") isAbsent_empty.1
  obtain ⟨htallied, -, hwithin, -, hfull⟩ :=
    bounded_serve hnew [(.add (Wal.ordering "a" 1), .empty)]
  have hnow : serve ⟨config, [], 0, 0⟩ [(.add (Wal.ordering "a" 1), .empty)]
      = ⟨config, [Wal.ordering "a" 1], 9, 1⟩ := by with_unfolding_all rfl
  rw [hnow] at htallied hwithin hfull
  have hf : Buffer.isFull ⟨config, [Wal.ordering "a" 1], 9, 1⟩ = true := by decide
  have ha : (Buffer.add (Wal.ordering "a" 2) .empty
      ⟨config, [Wal.ordering "a" 1], 9, 1⟩).answer = .ok true := by decide +kernel
  refine ⟨_, hnew, ?_⟩
  rw [hnow]
  exact ⟨hf, hfull hf _ _ (by decide), ha, hwithin _ _ ha, htallied⟩

end Buffer

end Failsafe
