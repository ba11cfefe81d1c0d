import Failsafe.Proofs.Entry
import Failsafe.Proofs.Event
import Failsafe.Proofs.Json.Keys
import Failsafe.Proofs.Json.Literals
import Failsafe.Transition
/-
  Stored records and their texts.

  Reading accepts more than is ever written: fields in any order, as an array, left out or unknown,
  nested keys out of order or twice, offsets, escapes. Whatever text a record has been read from, if
  all numbers in it are whole, what is written for the record is read back as the record or not at
  all, and a transition always is (`stable_of_text`). An event or an entry is read back just if its
  members of any shape are steady (`Json.Members.isSteady`): not nested deeper than a reader may go,
  and with no object among them that begins with `Json.quotingKey`. Only a text with that key gives
  others.
-/

namespace Failsafe

/-! ## Members of any shape -/

namespace Json.Members

/-- A record with these members is read back: they leave one of the containers that may be open to
the record, and no object in them is taken for a quotation. -/
def isSteady (ms : Members) : Bool :=
  decide ((Value.obj ms).nesting < nestingLimit) && legibleMembers ms

theorem isSteady_iff {ms : Members} :
    ms.isSteady = true ↔ rereadWithin? (nestingLimit - 1) ms = some ms := by
  unfold isSteady rereadWithin?
  rw [Bool.and_eq_true, decide_eq_true_iff, ← reread?_eq_some_self_iff]
  constructor
  · rintro ⟨hd, hr⟩
    rwa [if_pos (Nat.le_sub_one_of_lt hd)]
  · intro h
    split at h
    · next hd => exact ⟨Nat.lt_of_le_of_lt hd (by decide), h⟩
    · cases h

end Json.Members

/-! ## Written forms -/

/-- How the values of a type are written and read. -/
structure Form (α : Type) where
  toJson : α → Json.Value
  read : Nat → Json.Reader α

namespace Form

open Json (Members)

/-- What is written for a value. -/
def text (f : Form α) (a : α) : String := (f.toJson a).compress

/-- What is written for the value is read back as a value that equals it and is written the same
way. -/
def IsStable (f : Form α) (a : α) : Prop :=
  ∃ b, Json.decode f.read (f.text a) = .ok b ∧ b = a ∧ f.text b = f.text a

/-- If what is written for the value is read back at all, then as the value. -/
def IsFaithful (f : Form α) (a : α) : Prop :=
  ∀ b, Json.decode f.read (f.text a) = .ok b → b = a

variable {f : Form α} {a : α}

theorem isStable_iff : f.IsStable a ↔ Json.decode f.read (f.text a) = .ok a := by
  constructor
  · rintro ⟨b, hb, rfl, -⟩
    exact hb
  · exact fun h => ⟨a, h, rfl, rfl⟩

/-- What is written for a value is read back as a reader of its whole text gives it. -/
theorem decode_of_gives {o : Option α}
    (h : ∀ s, Json.Gives (f.read Json.nestingLimit ((f.toJson a).render ++ s)) s o) :
    (Json.decode f.read (f.text a)).toOption = o := by
  have hs := h []
  rw [List.append_nil] at hs
  unfold Json.decode text Json.Value.compress
  rw [String.toList_ofList]
  exact Json.readAll_of_gives hs

/-- Values of the form hold members of any shape: reading gives them what reading the members does,
and what is written for a value comes back as its members do. -/
structure Carries (f : Form α) (rest : α → Prop) (members : α → Members)
    (restore : α → Members → α) : Prop where
  yields {p : List Char → Bool} {Q : Members → Prop}
    (hq : Json.Yields p (Json.readObject (Json.nestingLimit - 1)) Q) (h0 : Q []) :
    Json.Yields p (f.read Json.nestingLimit) fun a => Q (members a) ∧ rest a
  gives {a : α} (hw : (Json.Value.obj (members a)).isWhole = true) (hr : rest a) (s : List Char) :
    Json.Gives (f.read Json.nestingLimit ((f.toJson a).render ++ s)) s
      ((Json.rereadWithin? (Json.nestingLimit - 1) (members a)).map (restore a))
  restore_iff (a : α) (ms : Members) : restore a ms = a ↔ ms = members a

section
variable {rest : α → Prop} {members : α → Members} {restore : α → Members → α}

/-- Values of such a form that are read from a text in which all numbers are whole. -/
theorem Carries.of_decode (hc : f.Carries rest members restore) {s : String}
    (hs : Json.isWholeText s.toList = true) (h : Json.decode f.read s = .ok a) :
    (f.IsStable a ↔ (members a).isSteady = true) ∧ f.IsFaithful a ∧
      (Json.avoids Json.quotingKey s.toList = true → f.IsStable a) := by
  have hwhole := Json.holds_of_decode (hc.yields (Json.yields_isWhole _) rfl) hs h
  have hback := decode_of_gives (hc.gives hwhole.1 hwhole.2)
  have hstable : f.IsStable a ↔ (members a).isSteady = true := by
    rw [isStable_iff, ← toOption_eq_some_iff, hback, Json.Members.isSteady_iff,
      Option.map_eq_some_iff]
    constructor
    · rintro ⟨ms, hms, he⟩
      rw [hms, (hc.restore_iff a ms).mp he]
    · exact fun hms => ⟨members a, hms, (hc.restore_iff a _).mpr rfl⟩
  refine ⟨hstable, ?_, fun ha => hstable.mpr ?_⟩
  · intro b hb
    rw [← toOption_eq_some_iff, hback] at hb
    obtain ⟨ms, hms, rfl⟩ := Option.map_eq_some_iff.mp hb
    have hfaithful := Json.holds_of_decode
      (hc.yields (Json.yields_isFaithful _ _) fun _ he => (Option.some.inj he).symm) hs h
    unfold Json.rereadWithin? at hms
    split at hms
    · exact (hc.restore_iff a ms).mpr (hfaithful.1 ms hms)
    · cases hms
  · have hlegible := Json.holds_of_decode (hc.yields (Json.yields_isLegible _) ⟨by decide, rfl⟩)
      ha h
    exact Bool.and_eq_true_iff.mpr
      ⟨decide_eq_true (Nat.lt_of_le_of_lt hlegible.1.1 (by decide)), hlegible.1.2⟩

end

end Form

open Json (Filled Slot)

theorem Timestamp.yields_read (p : List Char → Bool) :
    Json.Yields p Timestamp.read fun t => t.isValid = true := by
  intro d s t rest hp h
  obtain ⟨text, htext⟩ := Json.yields_readFormatted _ _ d s t rest hp h
  cases hparse : Timestamp.parse text with
  | error e =>
    rw [hparse] at htext
    cases htext
  | ok t' =>
    rw [hparse] at htext
    cases htext
    exact Timestamp.isValid_of_parse hparse

/-! ## Events -/

namespace Event

/-- How events are stored. -/
def form : Form Event := ⟨toJson, read⟩

theorem isBalanced_slots : ∀ slot ∈ slots, ∀ depth, Json.IsBalanced (slot.read depth) := by
  simp only [slots, List.forall_mem_cons]
  exact ⟨Json.isBalanced_store (Json.isBalanced_readName _),
    Json.isBalanced_store (Json.isBalanced_readName _),
    Json.isBalanced_store (Json.isBalanced_readName _),
    Json.isBalanced_store (Json.isBalanced_readName _),
    Json.isBalanced_store Json.isBalanced_readObject,
    Json.isBalanced_store fun _ => Json.isBalanced_readFormatted _ _, List.forall_mem_nil _⟩

/-- The fields in front of the details. -/
def filledFront (e : Event) : List (Filled Event) :=
  [⟨"event_type", .str e.kind.name, fun a => { a with kind := e.kind }⟩,
    ⟨"source", .str e.source.name, fun a => { a with source := e.source }⟩,
    ⟨"severity", .str e.severity.name, fun a => { a with severity := e.severity }⟩,
    ⟨"reason_code", .str e.reason.name, fun a => { a with reason := e.reason }⟩]

/-- The field behind the details. -/
def filledBack (e : Event) : List (Filled Event) :=
  [⟨"timestamp", .str e.wall.write, fun a => { a with wall := e.wall }⟩]

theorem reads_filledFront (e : Event) (depth : Nat) : ∀ f ∈ e.filledFront, f.Reads slots depth := by
  simp only [filledFront, List.forall_mem_cons]
  exact ⟨⟨_, rfl, fun s _ => Json.store_read (Json.readName_str depth e.kind.lookup_name s)⟩,
    ⟨_, rfl, fun s _ => Json.store_read (Json.readName_str depth e.source.lookup_name s)⟩,
    ⟨_, rfl, fun s _ => Json.store_read (Json.readName_str depth e.severity.lookup_name s)⟩,
    ⟨_, rfl, fun s _ => Json.store_read (Json.readName_str depth e.reason.lookup_name s)⟩,
    List.forall_mem_nil _⟩

theorem reads_filledBack {e : Event} (ht : e.wall.isValid = true) (depth : Nat) :
    ∀ f ∈ e.filledBack, f.Reads slots depth := by
  simp only [filledBack, List.forall_mem_cons]
  exact ⟨⟨_, rfl, fun s _ => Json.store_read (Json.timestamp_read ht s)⟩, List.forall_mem_nil _⟩

theorem carries : form.Carries (fun e => e.wall.isValid = true) details
    fun e details => { e with details } where
  yields hq h0 := by
    refine Json.yields_readRecord isBalanced_slots ?_ ⟨h0, rfl⟩
    simp only [slots, List.forall_mem_cons]
    exact ⟨Json.yields_store (Json.yields_true _) fun _ _ _ he => he,
      Json.yields_store (Json.yields_true _) fun _ _ _ he => he,
      Json.yields_store (Json.yields_true _) fun _ _ _ he => he,
      Json.yields_store (Json.yields_true _) fun _ _ _ he => he,
      Json.yields_store hq fun _ ha _ he => ⟨ha, he.2⟩,
      Json.yields_store (Timestamp.yields_read _) fun _ ha _ he => ⟨he.1, ha⟩,
      List.forall_mem_nil _⟩
  gives {e} hw ht s := by
    have hslot : slots.find? (fun slot => slot.name == "details")
        = some (.store "details" .defaulted Json.readObject fun a e => { e with details := a }) :=
      rfl
    exact Json.readRecord_object "struct SystemEvent" blank (reads_filledFront e _)
      (reads_filledBack ht _) hslot (by simp [filledFront, filledBack])
      (by simp [slots, Slot.store, filledFront, filledBack]) hw s
  restore_iff e ms := ⟨fun h => congrArg details h, fun h => h ▸ rfl⟩

end Event

/-! ## Entries -/

namespace Entry

/-- How entries are stored. -/
def form : Form Entry := ⟨toJson, read⟩

theorem carries : form.Carries
    (fun e => e.wall.isValid = true ∧ e.seq.all (fun n => decide (n < Width.bound 64)) = true) data
    fun e data => { e with data } where
  yields hq h0 := by
    refine Json.yields_readRecord isBalanced_slots ?_ ⟨h0, rfl, rfl⟩
    simp only [slots, List.forall_mem_cons]
    exact ⟨Json.yields_store (Json.yields_true _) fun _ _ _ he => he,
      Json.yields_store (Json.yields_true _) fun _ _ _ he => he,
      Json.yields_store hq fun _ ha _ he => ⟨ha, he.2⟩,
      Json.yields_store (Timestamp.yields_read _) fun _ ha _ he => ⟨he.1, ha, he.2.2⟩,
      Json.yields_store (Json.yields_readOption (Json.yields_readNatural _ _))
        fun _ ha _ he => ⟨he.1, he.2.1,
          (Option.all_eq_true _ _).mpr fun n hn => decide_eq_true (ha n hn)⟩,
      Json.yields_store (Json.yields_true _) fun _ _ _ he => he,
      List.forall_mem_nil _⟩
  gives hw hr s := read_toJson (isWhole_iff.mpr ⟨hw, hr⟩) s
  restore_iff e ms := ⟨fun h => congrArg data h, fun h => h ▸ rfl⟩

end Entry

/-! ## Transitions -/

namespace Transition

/-- How transitions are stored. -/
def form : Form Transition := ⟨toJson, read⟩

/-- The transition's time exists, and its numbers have 64 bits. -/
structure IsWhole (t : Transition) : Prop where
  time : t.wall.isValid = true
  elapsed : t.elapsedMs < Width.bound 64
  ttl : ∀ n, t.ttlSeconds = some n → n < Width.bound 64

theorem isBalanced_slots : ∀ slot ∈ slots, ∀ depth, Json.IsBalanced (slot.read depth) := by
  simp only [slots, List.forall_mem_cons]
  exact ⟨Json.isBalanced_store (Json.isBalanced_readName _),
    Json.isBalanced_store (Json.isBalanced_readName _),
    Json.isBalanced_store (Json.isBalanced_readName _),
    Json.isBalanced_store (Json.isBalanced_readName _),
    Json.isBalanced_store fun _ => Json.isBalanced_readFormatted _ _,
    Json.isBalanced_store fun _ => Json.isBalanced_readNatural _ _,
    Json.isBalanced_store fun _ => Json.isBalanced_readOption (Json.isBalanced_readText _),
    Json.isBalanced_store fun _ => Json.isBalanced_readOption (Json.isBalanced_readNatural _ _),
    List.forall_mem_nil _⟩

theorem yields_read (p : List Char → Bool) : Json.Yields p (read Json.nestingLimit) IsWhole := by
  refine Json.yields_readRecord isBalanced_slots ?_ ⟨rfl, by decide, nofun⟩
  simp only [slots, List.forall_mem_cons]
  exact ⟨Json.yields_store (Json.yields_true _) fun _ _ _ ⟨ht, he, hn⟩ => ⟨ht, he, hn⟩,
    Json.yields_store (Json.yields_true _) fun _ _ _ ⟨ht, he, hn⟩ => ⟨ht, he, hn⟩,
    Json.yields_store (Json.yields_true _) fun _ _ _ ⟨ht, he, hn⟩ => ⟨ht, he, hn⟩,
    Json.yields_store (Json.yields_true _) fun _ _ _ ⟨ht, he, hn⟩ => ⟨ht, he, hn⟩,
    Json.yields_store (Timestamp.yields_read _) fun _ ha _ ⟨_, he, hn⟩ => ⟨ha, he, hn⟩,
    Json.yields_store (Json.yields_readNatural _ _) fun _ ha _ ⟨ht, _, hn⟩ => ⟨ht, ha, hn⟩,
    Json.yields_store (Json.yields_true _) fun _ _ _ ⟨ht, he, hn⟩ => ⟨ht, he, hn⟩,
    Json.yields_store (Json.yields_readOption (Json.yields_readNatural _ _))
      fun _ ha _ ⟨ht, he, _⟩ => ⟨ht, he, ha⟩,
    List.forall_mem_nil _⟩

/-- The fields that are always written. -/
def filledFront (t : Transition) : List (Filled Transition) :=
  [⟨"from_mode", .str t.fromMode.name, fun a => { a with fromMode := t.fromMode }⟩,
    ⟨"to_mode", .str t.toMode.name, fun a => { a with toMode := t.toMode }⟩,
    ⟨"reason_code", .str t.reason.name, fun a => { a with reason := t.reason }⟩,
    ⟨"source", .str t.source.name, fun a => { a with source := t.source }⟩,
    ⟨"wall_timestamp", .str t.wall.write, fun a => { a with wall := t.wall }⟩,
    ⟨"monotonic_ms", .nat t.elapsedMs, fun a => { a with elapsedMs := t.elapsedMs }⟩]

/-- The fields that are left out if they are absent. -/
def filledBack (t : Transition) : List (Filled Transition) :=
  (t.operator.toList.map fun s => ⟨"operator_id", .str s, fun a => { a with operator := some s }⟩)
    ++ t.ttlSeconds.toList.map fun n =>
      ⟨"override_ttl_secs", .nat n, fun a => { a with ttlSeconds := some n }⟩

theorem reads_filledFront {t : Transition} (h : t.IsWhole) (depth : Nat) :
    ∀ f ∈ t.filledFront, f.Reads slots depth := by
  simp only [filledFront, List.forall_mem_cons]
  exact ⟨⟨_, rfl, fun s _ => Json.store_read (Json.readName_str depth t.fromMode.lookup_name s)⟩,
    ⟨_, rfl, fun s _ => Json.store_read (Json.readName_str depth t.toMode.lookup_name s)⟩,
    ⟨_, rfl, fun s _ => Json.store_read (Json.readName_str depth t.reason.lookup_name s)⟩,
    ⟨_, rfl, fun s _ => Json.store_read (Json.readName_str depth t.source.lookup_name s)⟩,
    ⟨_, rfl, fun s _ => Json.store_read (Json.timestamp_read h.time s)⟩,
    ⟨_, rfl, fun _ hs => Json.store_read (Json.readNat64_nat h.elapsed hs)⟩,
    List.forall_mem_nil _⟩

theorem reads_filledBack {t : Transition} (h : t.IsWhole) (depth : Nat) :
    ∀ f ∈ t.filledBack, f.Reads slots depth := by
  intro f hf
  rcases List.mem_append.mp hf with hf | hf
  · obtain ⟨s, -, rfl⟩ := List.mem_map.mp hf
    exact ⟨_, rfl, fun u _ => Json.store_read (Json.readOption_text _ s u)⟩
  · obtain ⟨n, hn, rfl⟩ := List.mem_map.mp hf
    have hlt := h.ttl n (Option.mem_toList.mp hn)
    exact ⟨_, rfl, fun _ hs => Json.store_read (Json.readOption_nat hlt hs)⟩

theorem members_eq (t : Transition) :
    t.members = (t.filledFront ++ t.filledBack).map Filled.member := by
  obtain ⟨_, _, _, _, _, _, operator, ttl⟩ := t
  cases operator <;> cases ttl <;> rfl

theorem fill_eq (t : Transition) :
    (Filled.fill ⟨blank, []⟩ (t.filledFront ++ t.filledBack)).record = t := by
  obtain ⟨_, _, _, _, _, _, operator, ttl⟩ := t
  cases operator <;> cases ttl <;> rfl

theorem nodup_names (t : Transition) :
    ((t.filledFront ++ t.filledBack).map Filled.name).Nodup := by
  unfold filledFront filledBack
  cases t.operator <;> cases t.ttlSeconds <;> simp

/-- What is written for a transition is read back as the transition. -/
theorem read_toJson {t : Transition} (h : t.IsWhole) (s : List Char) :
    read Json.nestingLimit (t.toJson.render ++ s) = .ok (t, s) := by
  have hreads : ∀ f ∈ t.filledFront ++ t.filledBack, f.Reads slots (Json.nestingLimit - 1) :=
    List.forall_mem_append.mpr ⟨reads_filledFront h _, reads_filledBack h _⟩
  have hr := Json.readRecord_filled "struct ModeTransition" blank _ s hreads t.nodup_names
    (by simp [slots, Slot.store, filledFront])
  rwa [← members_eq, fill_eq] at hr

/-- A transition that is read from a text, of whatever shape, has a stable text. -/
theorem isStable_of_decode {t : Transition} {s : String} (h : Json.decode read s = .ok t) :
    form.IsStable t := by
  have hw := Json.holds_of_decode (yields_read fun _ => true) (Json.everywhere_true _ _) h
  exact Form.isStable_iff.mpr (toOption_eq_some_iff.mp (Form.decode_of_gives (o := some t)
    (read_toJson hw)))

end Transition

/-! ## Texts of any shape -/

namespace Form

/-- Whatever the shape of a text in which all numbers are whole, a transition that is read from it
has a stable text. An event or an entry that is read from it has a text that is read back as the
record or not at all. It is read back just if the members of any shape are steady, and they are if
no object in the text has the key by which objects quote. -/
theorem stable_of_text {s : String} (hs : Json.isWholeText s.toList = true) :
    (∀ e, Json.decode Event.read s = .ok e →
      (Event.form.IsStable e ↔ e.details.isSteady = true) ∧ Event.form.IsFaithful e ∧
        (Json.avoids Json.quotingKey s.toList = true → Event.form.IsStable e)) ∧
    (∀ t, Json.decode Transition.read s = .ok t → Transition.form.IsStable t) ∧
    ∀ e, Json.decode Entry.read s = .ok e →
      (Entry.form.IsStable e ↔ e.data.isSteady = true) ∧ Entry.form.IsFaithful e ∧
        (Json.avoids Json.quotingKey s.toList = true → Entry.form.IsStable e) :=
  ⟨fun _ h => Event.carries.of_decode hs h, fun _ h => Transition.isStable_of_decode h,
    fun _ h => Entry.carries.of_decode hs h⟩

/-- The parts of a text that is read as an event, as a transition and as an entry, and is none of
their stored forms. -/
def parts : List String :=
  ["\x7b\"extra\":[1,\x7b\x7d],", "\"source\":\x7b\"system\":null\x7d,",
    "\"timestamp\":", "\"2024-01-02T03:04:05.500+01:00\",", "\"severity\":\"info\",",
    "\"reason_code\":\"ALL_HEALTHY\",", "\"details\":\x7b\"b\":1,\"\\u0061\":[-1,2],\"b\":2\x7d,",
    "\"event_type\":\"HEALTH_REPORT\",", "\"from_mode\":\"NORMAL\",\"to_mode\":\"HALT\",",
    "\"wall_timestamp\":", "\"2024-01-02 03:04:05Z\",", "\"monotonic_ms\":5,\"operator_id\":null,",
    "\"resource_id\":\"1\",\"resource_type\":\"o\\u00e9\",",
    "\"data\":\x7b\"x\":1,\"a\":\x7b\x7d\x7d,\"seq_no\":null\x7d"]

/-- The text with these parts. -/
def mixed : String := String.ofList (parts.flatMap String.toList)

/-- An entry whose data holds the key of quotations, but not in the first place. -/
def quoting : String :=
  "[\"o\",\"1\",\x7b\"d\":\x7b\"x\":1,\"$serde_json::private::RawValue\":\"2\"\x7d\x7d," ++
  "\"2024-01-02T03:04:05Z\",3,\"o:1:3\"]"

/-- From the first text all three records have stable texts. From the second an entry is read whose
own text is not read at all. -/
theorem stable_of_text_mixed :
    (∃ e, Json.decode Event.read mixed = .ok e ∧ Event.form.IsStable e) ∧
    (∃ t, Json.decode Transition.read mixed = .ok t ∧ Transition.form.IsStable t) ∧
    (∃ e, Json.decode Entry.read mixed = .ok e ∧ Entry.form.IsStable e) ∧
    ∃ e, Json.decode Entry.read quoting = .ok e ∧
      ∀ b, Json.decode Entry.read (Entry.form.text e) ≠ .ok b := by
  have htext : mixed.toList = parts.flatMap String.toList := String.toList_ofList
  have hmixed : Json.isWholeText mixed.toList = true := by
    rw [htext]
    decide +kernel
  have havoids : Json.avoids Json.quotingKey mixed.toList = true := by
    rw [htext]
    decide +kernel
  have hevent : (Json.decode Event.read mixed).toOption.isSome = true := by
    rw [Json.decode, htext]
    decide +kernel
  have htransition : (Json.decode Transition.read mixed).toOption.isSome = true := by
    rw [Json.decode, htext]
    decide +kernel
  have hentry : (Json.decode Entry.read mixed).toOption.isSome = true := by
    rw [Json.decode, htext]
    decide +kernel
  have hquoting : Json.isWholeText quoting.toList = true := by decide +kernel
  have hunsteady : (Json.decode Entry.read quoting).toOption.map (fun e => e.data.isSteady)
      = some false := by decide +kernel
  obtain ⟨e, he⟩ := Option.isSome_iff_exists.mp hevent
  obtain ⟨t, ht⟩ := Option.isSome_iff_exists.mp htransition
  obtain ⟨w, hw⟩ := Option.isSome_iff_exists.mp hentry
  obtain ⟨q, hq, hdata⟩ := Option.map_eq_some_iff.mp hunsteady
  rw [toOption_eq_some_iff] at he ht hw hq
  obtain ⟨hevents, htransitions, hentries⟩ := stable_of_text hmixed
  refine ⟨⟨e, he, (hevents e he).2.2 havoids⟩, ⟨t, ht, htransitions t ht⟩,
    ⟨w, hw, (hentries w hw).2.2 havoids⟩, q, hq, fun b hb => ?_⟩
  obtain ⟨hstable, hfaithful, -⟩ := (stable_of_text hquoting).2.2 q hq
  obtain rfl := hfaithful b hb
  rw [hstable.mp (isStable_iff.mpr hb)] at hdata
  cases hdata

end Form

end Failsafe
