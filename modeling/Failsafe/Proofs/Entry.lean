import Failsafe.Entry
import Failsafe.Proofs.Json.Fields
/-
  Entries and their stored form.

  An entry whose data holds whole numbers only and is not nested too deep is read back from its
  stored form (`read_toJson`): as itself, unless an object inside its data begins with
  `Json.quotingKey` (`reread?_eq_some_self_iff`). Its stored form takes up no more than a line.
-/

namespace Failsafe.Entry

open Json (Value Gives Filled Slot)

/-- The entry can be stored: its data has whole numbers only and, counted from the data itself,
leaves one of the containers that may be open to the entry; its time exists, and its number has
64 bits and a successor with 64 bits. -/
def isStorable (e : Entry) : Bool :=
  (Value.obj e.data).isWhole && decide ((Value.obj e.data).nesting < Json.nestingLimit)
    && e.wall.isValid && e.seq.all (fun n => decide (n + 1 < Width.bound 64))

theorem isStorable_iff {e : Entry} : e.isStorable = true ↔
    (Value.obj e.data).isWhole = true ∧ (Value.obj e.data).nesting < Json.nestingLimit ∧
      e.wall.isValid = true ∧ e.seq.all (fun n => decide (n + 1 < Width.bound 64)) = true := by
  unfold isStorable
  simp only [Bool.and_eq_true, decide_eq_true_iff, and_assoc]

/-- The entry can be a record of a log: as `isStorable`, but its number may be the last one. -/
def isRecordable (e : Entry) : Bool :=
  (Value.obj e.data).isWhole && decide ((Value.obj e.data).nesting < Json.nestingLimit)
    && e.wall.isValid && e.seq.all (fun n => decide (n < Width.bound 64))

theorem isRecordable_iff {e : Entry} : e.isRecordable = true ↔
    (Value.obj e.data).isWhole = true ∧ (Value.obj e.data).nesting < Json.nestingLimit ∧
      e.wall.isValid = true ∧ e.seq.all (fun n => decide (n < Width.bound 64)) = true := by
  unfold isRecordable
  simp only [Bool.and_eq_true, decide_eq_true_iff, and_assoc]

theorem isRecordable_of_isStorable {e : Entry} (h : e.isStorable = true) :
    e.isRecordable = true := by
  obtain ⟨hw, hd, ht, hq⟩ := isStorable_iff.mp h
  refine isRecordable_iff.mpr ⟨hw, hd, ht, ?_⟩
  cases hs : e.seq with
  | none => rfl
  | some n =>
    rw [hs] at hq
    have hn : n + 1 < Width.bound 64 := of_decide_eq_true hq
    exact decide_eq_true (Nat.lt_of_succ_lt hn)

/-- The entry's data has whole numbers only, its time exists and its number has 64 bits; nothing is
said about how deep the data is nested. -/
def isWhole (e : Entry) : Bool :=
  (Value.obj e.data).isWhole && e.wall.isValid
    && e.seq.all (fun n => decide (n < Width.bound 64))

theorem isWhole_iff {e : Entry} : e.isWhole = true ↔
    (Value.obj e.data).isWhole = true ∧ e.wall.isValid = true ∧
      e.seq.all (fun n => decide (n < Width.bound 64)) = true := by
  unfold isWhole
  simp only [Bool.and_eq_true, and_assoc]

/-- The data leaves one of the containers that may be open to the entry. -/
def IsShallow (e : Entry) : Prop := (Value.obj e.data).nesting < Json.nestingLimit

/-- Reads a text that a value quotes. -/
def quoted (s : List Char) : Except Json.Fault Value := Json.readQuotedText (s.length + 1) s

/-- What the stored form of an entry is read back as. -/
def reread? (e : Entry) : Option Entry :=
  (Json.rereadMembers? quoted e.data).map fun data => { e with data }

/-- The data comes back as it was. -/
def isLegible (e : Entry) : Bool := Json.legibleMembers e.data

theorem reread?_eq_some_self_iff (e : Entry) : e.reread? = some e ↔ e.isLegible = true := by
  change e.data.reread?.map _ = _ ↔ Json.legibleMembers e.data = true
  rw [← Json.Members.reread?_eq_some_self_iff, Option.map_eq_some_iff]
  constructor
  · rintro ⟨data, hd, he⟩
    rw [hd, ← congrArg Entry.data he]
  · intro h
    exact ⟨e.data, h, rfl⟩

theorem key_of_reread? {e e' : Entry} (h : e.reread? = some e') : e'.key = e.key := by
  obtain ⟨data, -, rfl⟩ := Option.map_eq_some_iff.mp h
  rfl

/-! ## The stored form -/

/-- The fields in front of the data. -/
def filledFront (e : Entry) : List (Filled Entry) :=
  [⟨"resource_type", .str e.resource, fun a => { a with resource := e.resource }⟩,
    ⟨"resource_id", .str e.id, fun a => { a with id := e.id }⟩]

/-- The fields behind the data. -/
def filledBack (e : Entry) : List (Filled Entry) :=
  [⟨"timestamp", .str e.wall.write, fun a => { a with wall := e.wall }⟩,
    ⟨"seq_no", Value.opt .nat e.seq, fun a => { a with seq := e.seq }⟩,
    ⟨"idempotent_key", .str e.key, fun a => { a with key := e.key }⟩]

theorem reads_filledFront (e : Entry) (depth : Nat) :
    ∀ f ∈ e.filledFront, f.Reads slots depth := by
  intro f hf
  simp only [filledFront, List.mem_cons, List.not_mem_nil, or_false] at hf
  rcases hf with rfl | rfl
  · exact ⟨_, rfl, fun s _ => Json.readText_reads e.resource s⟩
  · exact ⟨_, rfl, fun s _ => Json.readText_reads e.id s⟩

theorem reads_filledBack {e : Entry} (ht : e.wall.isValid = true)
    (hq : e.seq.all (fun n => decide (n < Width.bound 64)) = true) (depth : Nat) :
    ∀ f ∈ e.filledBack, f.Reads slots depth := by
  intro f hf
  simp only [filledBack, List.mem_cons, List.not_mem_nil, or_false] at hf
  rcases hf with rfl | rfl | rfl
  · exact ⟨_, rfl, fun s _ => Json.store_read (Json.timestamp_read ht s)⟩
  · exact ⟨_, rfl, fun s hs => Json.store_read (Json.readOption_opt hq hs)⟩
  · exact ⟨_, rfl, fun s _ => Json.readText_reads e.key s⟩

/-- What is read as a field of an entry leads back to the depth where it began. -/
theorem isBalanced_slots : ∀ slot ∈ slots, ∀ depth, Json.IsBalanced (slot.read depth) := by
  have htext : ∀ _ : Nat, Json.IsBalanced (Json.readText "a string") :=
    fun _ => Json.isBalanced_readText _
  have hseq : Json.IsBalanced (Json.readOption Json.readNat64) :=
    Json.isBalanced_readOption (Json.isBalanced_readNatural _ _)
  simp only [slots, List.forall_mem_cons]
  exact ⟨Json.isBalanced_store htext, Json.isBalanced_store htext,
    Json.isBalanced_store Json.isBalanced_readObject,
    Json.isBalanced_store fun _ => Json.isBalanced_readFormatted _ _,
    Json.isBalanced_store fun _ => hseq, Json.isBalanced_store htext,
    List.forall_mem_nil _⟩

/-- The stored form of an entry is one line. -/
theorem lineFeed_not_mem_toJson (e : Entry) : '\n' ∉ e.toJson.render :=
  Json.lineFeed_not_mem_render e.toJson

theorem getLast?_toJson (e : Entry) : e.toJson.render.getLast? = some '\x7d' := by
  unfold toJson Value.render
  rw [← List.cons_append]
  exact List.getLast?_concat

/-- An entry's stored form is read back as its data is, or not at all. -/
theorem read_toJson {e : Entry} (h : e.isWhole = true) (s : List Char) :
    Gives (read Json.nestingLimit (e.toJson.render ++ s)) s
      ((Json.rereadWithin? (Json.nestingLimit - 1) e.data).map fun data => { e with data }) := by
  obtain ⟨hw, ht, hq⟩ := isWhole_iff.mp h
  have hslot : slots.find? (fun slot => slot.name == "data")
      = some (.store "data" .required Json.readObject fun a e => { e with data := a }) := rfl
  exact Json.readRecord_object "struct BufferEntry" blank (reads_filledFront e _)
    (reads_filledBack ht hq _) hslot (by simp [filledFront, filledBack])
    (by simp [slots, Slot.store, filledFront, filledBack]) hw s

/-- A line that is nothing but an entry's stored form. -/
theorem readAll_toJson_of_isWhole {e : Entry} (h : e.isWhole = true) :
    (Json.readAll (read Json.nestingLimit) e.toJson.render).toOption
      = (Json.rereadWithin? (Json.nestingLimit - 1) e.data).map fun data => { e with data } := by
  have hr := read_toJson h []
  rw [List.append_nil] at hr
  exact Json.readAll_of_gives hr

theorem readAll_toJson {e : Entry} (he : e.isRecordable = true) :
    (Json.readAll (read Json.nestingLimit) e.toJson.render).toOption = e.reread? := by
  obtain ⟨hw, hd, ht, hq⟩ := isRecordable_iff.mp he
  rw [readAll_toJson_of_isWhole (isWhole_iff.mpr ⟨hw, ht, hq⟩), Json.rereadWithin?,
    if_pos (Nat.le_sub_one_of_lt hd)]
  rfl

end Failsafe.Entry
