import Failsafe.Buffer
/-
  Calls of the write buffer, one after the other.

  `new_cases` says what a buffer can start with, `add_outcomes` and `flush_outcomes` say all that a
  call can do. A call of which nothing comes leaves the buffer as it was, and of the files what an
  append leaves that fails.
-/

namespace Failsafe

/-- The number of the entry, if it has one, has a successor of 64 bits. -/
def Entry.IsCountable (e : Entry) : Prop := ∀ n, e.seq = some n → n + 1 < Width.bound 64

namespace Buffer

/-- A call of the buffer. A flush comes with the reply of the sink to what it is handed. -/
inductive Call where
  | add (e : Entry)
  | flush (reply : List Entry → Except Error Unit)

/-- The buffer and the files after a call. -/
def Call.perform (s : Buffer × Files) : Call → Buffer × Files
  | .add e => (s.1.add e s.2).state
  | .flush reply => (s.1.flush reply s.2).state

/-- The buffer and the files after some calls. -/
def run (s : Buffer × Files) (calls : List Call) : Buffer × Files := calls.foldl Call.perform s

theorem run_cons (s : Buffer × Files) (c : Call) (calls : List Call) :
    run s (c :: calls) = run (c.perform s) calls := List.foldl_cons ..

/-! ## What a call can do -/

/-- A buffer starts with nothing if it has no log, and else with what has been loaded. -/
theorem new_cases {config : BufferConfig} {files : Files} {b : Buffer}
    (h : (new config files).1 = .ok b) :
    (config.wal = none ∧ b = ofReplay config .empty) ∨
    ∃ path r, config.wal = some path ∧ (Wal.load files path).1 = .ok r ∧ b = ofReplay config r := by
  unfold new at h
  split at h
  · next hw => exact Or.inl ⟨hw, (Except.ok.inj h).symm⟩
  · next path hw =>
    dsimp only at h
    split at h
    · cases h
    · next r signals hr =>
      exact Or.inr ⟨path, r, hw, congrArg Prod.fst hr, (Except.ok.inj h).symm⟩

/-- What a write that is not accepted leaves of the files: all as it was, or what an append to the
log leaves that fails. -/
def IsLeft (b : Buffer) (e : Entry) (files left : Files) : Prop :=
  left = files ∨ ∃ f, b.appendLog files e = .error f left

/-- A write finds no room, cannot be logged, or is logged and held. -/
theorem add_outcomes (b : Buffer) (e : Entry) (files : Files) :
    ((b.add e files).answer = .ok false ∧ (b.add e files).state = (b, files)) ∨
    (∃ f left, b.appendLog files (b.stamp e) = .error f left ∧
      (b.add e files).answer = .error (.io f) ∧ (b.add e files).state = (b, left)) ∨
    ∃ files', b.appendLog files (b.stamp e) = .ok files' ∧ (b.add e files).answer = .ok true ∧
      (b.add e files).state = (b.hold (b.stamp e), files') := by
  unfold add
  dsimp only
  split
  · exact Or.inl ⟨rfl, rfl⟩
  · cases h : b.appendLog files (b.stamp e) with
    | error f left => exact Or.inr (Or.inl ⟨f, left, rfl, rfl, rfl⟩)
    | ok files' => exact Or.inr (Or.inr ⟨files', rfl, rfl, rfl⟩)

/-- A write is held and logged, or nothing happens, unless directories have been made for the log
in vain. -/
theorem add_cases (b : Buffer) (e : Entry) (files : Files) :
    ((b.add e files).answer ≠ .ok true ∧
      ∃ left, b.IsLeft (b.stamp e) files left ∧ (b.add e files).state = (b, left)) ∨
    ∃ files', b.appendLog files (b.stamp e) = .ok files' ∧ (b.add e files).answer = .ok true ∧
      (b.add e files).state = (b.hold (b.stamp e), files') := by
  rcases add_outcomes b e files with ⟨ha, hs⟩ | ⟨f, left, hf, ha, hs⟩ | h
  · exact Or.inl ⟨by simp [ha], files, Or.inl rfl, hs⟩
  · exact Or.inl ⟨by simp [ha], left, Or.inr ⟨f, hf⟩, hs⟩
  · exact Or.inr h

/-- A flush fails and changes nothing, finds nothing to hand over, or empties the log once the
sink has taken everything. -/
theorem flush_outcomes (b : Buffer) (reply : List Entry → Except Error Unit) (files : Files) :
    ((∃ f, (b.flush reply files).answer = .error f) ∧
      (b.flush reply files).state = (b, files)) ∨
    (b.entries = [] ∧ (b.flush reply files).answer = .ok 0 ∧
      (b.flush reply files).state = (b, files)) ∨
    (b.entries ≠ [] ∧ reply b.entries = .ok () ∧
      ∃ files', b.truncateLog files = .ok files' ∧
        (b.flush reply files).answer = .ok b.entries.length ∧
        (b.flush reply files).state = ({ b with entries := [], bytes := 0 }, files')) := by
  unfold flush batch?
  cases he : b.entries with
  | nil => exact Or.inr (Or.inl ⟨rfl, rfl, rfl⟩)
  | cons e rest =>
    simp only [List.isEmpty_cons, Bool.false_eq_true, if_false]
    cases hr : reply (e :: rest) with
    | error f => exact Or.inl ⟨⟨f, rfl⟩, rfl⟩
    | ok u =>
      dsimp only
      cases ht : b.truncateLog files with
      | error f => exact Or.inl ⟨⟨_, rfl⟩, rfl⟩
      | ok files' => exact Or.inr (Or.inr ⟨List.cons_ne_nil _ _, rfl, files', rfl, rfl, rfl⟩)

/-- Everything held is forgotten and the log is emptied, or nothing happens. -/
theorem flush_cases (b : Buffer) (reply : List Entry → Except Error Unit) (files : Files) :
    (b.flush reply files).state = (b, files) ∨
    b.entries ≠ [] ∧ ∃ files', b.truncateLog files = .ok files' ∧
      (b.flush reply files).state = ({ b with entries := [], bytes := 0 }, files') := by
  rcases flush_outcomes b reply files with ⟨-, h⟩ | ⟨-, -, h⟩ | ⟨hn, -, files', ht, -, h⟩
  · exact Or.inl h
  · exact Or.inl h
  · exact Or.inr ⟨hn, files', ht, h⟩

theorem config_perform (s : Buffer × Files) (c : Call) : (c.perform s).1.config = s.1.config := by
  cases c with
  | add e =>
    rcases add_cases s.1 e s.2 with ⟨-, left, -, h⟩ | ⟨files', -, -, h⟩
    · rw [Call.perform, h]
    · rw [Call.perform, h]
      rfl
  | flush reply =>
    rcases flush_cases s.1 reply s.2 with h | ⟨-, files', -, h⟩
    · rw [Call.perform, h]
    · rw [Call.perform, h]

/-! ## The next number -/

theorem seqAfter_le_iff {next k : Nat} {e : Entry} :
    seqAfter next e ≤ k ↔ next ≤ k ∧ ∀ n, e.seq = some n → n < k := by
  unfold seqAfter
  cases e.seq with
  | none => simp
  | some n => simp only [Nat.max_le, Nat.succ_le_iff, Option.some.injEq, forall_eq']

/-- The number after those of some entries is the least one above them all. -/
theorem foldl_seqAfter_le_iff {l : List Entry} {next k : Nat} :
    l.foldl seqAfter next ≤ k ↔ next ≤ k ∧ ∀ e ∈ l, ∀ n, e.seq = some n → n < k := by
  induction l generalizing next with
  | nil => simp
  | cons e rest ih =>
    rw [List.foldl_cons, ih, seqAfter_le_iff, List.forall_mem_cons, and_assoc]

/-- The next number stays one of 64 bits as long as every number has a successor of 64 bits. -/
theorem foldl_seqAfter_lt_iff {l : List Entry} {next : Nat} :
    l.foldl seqAfter next < Width.bound 64 ↔
      next < Width.bound 64 ∧ ∀ e ∈ l, e.IsCountable := by
  have hpos : 0 < Width.bound 64 := by decide
  rw [← Nat.le_sub_one_iff_lt hpos, foldl_seqAfter_le_iff, Nat.le_sub_one_iff_lt hpos]
  unfold Entry.IsCountable
  simp only [Nat.lt_sub_iff_add_lt]

/-- A new buffer goes on behind the numbers of what it holds. -/
theorem nextSeq_new {config : BufferConfig} {files : Files} {b : Buffer}
    (h : (Buffer.new config files).1 = .ok b) : b.nextSeq = b.entries.foldl seqAfter 0 := by
  rcases new_cases h with ⟨-, rfl⟩ | ⟨path, r, -, -, rfl⟩
  · rfl
  · rfl

end Buffer

end Failsafe
