import Mathlib.Data.List.Nodup
import Failsafe.Proofs.Buffer.Relaying
/-
  How long a generated key names one write.

  A write without a number is stamped with the next one, and the number can be read back from the
  key (`numberOf_keyOf`). The next number goes up with every accepted write, outlives a flush and
  is found again in what the log gives back (`nextSeq_new`), so the keys of the accepted writes
  differ for as long as no process starts with nothing held (`numbers_run`). A process that
  does counts from zero again: its first write, if it is one of the resource that was written
  first, takes that write's key and its place in the record (`distinct_until_reset`).
-/

namespace Failsafe

namespace Entry

/-- The number in a key: what its digits behind the last colon say. -/
def numberOf (key : String) : Nat :=
  Nat.ofDigitChars 10 (key.toList.reverse.takeWhile fun c => c ≠ ':').reverse 0

theorem numberOf_keyOf (resource id : String) (n : Nat) :
    numberOf (keyOf resource id n) = n := by
  have hchars : (keyOf resource id n).toList
      = (resource ++ ":" ++ id).toList ++ ':' :: Nat.toDigits 10 n := by
    unfold keyOf
    rw [Nat.toString_eq_repr, String.toList_append, String.toList_append, Nat.toList_repr,
      List.append_assoc]
    rfl
  have hdigits : ∀ c ∈ (Nat.toDigits 10 n).reverse, decide (c ≠ ':') = true := by
    intro c hc
    have hd := Nat.isDigit_of_mem_toDigits (by omega) (by omega) (List.mem_reverse.mp hc)
    rw [decide_eq_true_iff]
    rintro rfl
    exact absurd hd (by decide)
  unfold numberOf
  rw [hchars, List.reverse_append, List.reverse_cons, List.append_assoc,
    List.takeWhile_append_of_pos hdigits]
  simp

/-- Keys with different numbers differ. -/
theorem number_of_keyOf_eq {resource id resource' id' : String} {m n : Nat}
    (h : keyOf resource id m = keyOf resource' id' n) : m = n := by
  rw [← numberOf_keyOf resource id m, h, numberOf_keyOf]

end Entry

namespace Buffer

/-- It is the one after a newly stamped entry's, wherever that one is put. -/
theorem foldl_seqAfter_upsert {l : List Entry} {e : Entry} {n : Nat}
    (hl : l.foldl seqAfter 0 ≤ n) (he : e.seq = some n) :
    (Entry.upsert e l).foldl seqAfter 0 = n + 1 := by
  apply Nat.le_antisymm
  · rw [foldl_seqAfter_le_iff]
    refine ⟨Nat.zero_le _, fun e' hm m hs => ?_⟩
    rcases Entry.mem_upsert hm with rfl | hm
    · rw [he] at hs
      cases hs
      exact Nat.lt_succ_self n
    · exact Nat.lt_succ_of_lt ((foldl_seqAfter_le_iff.mp hl).2 e' hm m hs)
  · exact (foldl_seqAfter_le_iff.mp (Nat.le_refl _)).2 e (Entry.self_mem_upsert e l) n he

end Buffer

namespace Relay

/-- The deed is a start of the process. -/
def Deed.isStart : Deed → Bool
  | .restart _ | .crash _ => true
  | _ => false

/-- The process starts with nothing held, although something had been accepted. -/
structure IsReset (s : Relay) (d : Deed) : Prop where
  start : d.isStart = true
  idle : s.buffer.entries = []
  used : s.accepted ≠ []

/-- No deed starts the process with nothing held after something had been accepted. -/
def IsSteady (s : Relay) (deeds : List Deed) : Prop :=
  ∀ front d, front ++ [d] <+: deeds → ¬ IsReset (run s front) d

/-- What holds of a relay whose writes were all stamped: the accepted writes have the keys that
belong to their numbers, which are below the next one, no two of them have the same key, and the
next number is the one after what is held, if anything is. -/
structure IsNumbered (s : Relay) : Prop where
  stamped : ∀ e ∈ s.accepted, ∃ n < s.buffer.nextSeq, e.key = Entry.keyOf e.resource e.id n
  distinct : (s.accepted.map Entry.key).Nodup
  next : s.buffer.entries ≠ [] → s.buffer.entries.foldl Buffer.seqAfter 0 = s.buffer.nextSeq

/-- Until something is accepted nothing is held and the next number is zero; then the first
accepted write has it. -/
structure IsFounded (s : Relay) : Prop where
  fresh : s.accepted = [] → s.buffer.entries = [] ∧ s.buffer.nextSeq = 0
  first : ∀ e, s.accepted.head? = some e → e.key = Entry.keyOf e.resource e.id 0

/-! ## One deed -/

section
variable {path : String} {s : Relay}

/-- A start keeps what is held and sets the next number behind it. -/
theorem numbers_restarted (h : s.IsSound path) (limits : BufferConfig) :
    (s.restarted limits).accepted = s.accepted ∧
    (s.restarted limits).buffer.entries = s.buffer.entries ∧
    (s.restarted limits).buffer.nextSeq = s.buffer.entries.foldl Buffer.seqAfter 0 := by
  have hw : { limits with wal := s.buffer.config.wal }.wal = some path := h.wal
  obtain ⟨b, hb, -, he, -⟩ := Buffer.new_of_holds hw h.holds
  have hs : s.restarted limits = { s with buffer := b } := by
    unfold restarted
    rw [hb]
  rw [hs]
  refine ⟨rfl, he, ?_⟩
  show b.nextSeq = _
  rw [Buffer.nextSeq_new hb, he]

/-- What a deed does to the numbers: nothing, though it may let go of what is held; it stamps one
more write; or it starts the process. -/
theorem numbers_cases (h : s.IsSound path) {d : Deed} (hu : ∀ e, d = .add e → e.seq = none) :
    ((d.perform s).accepted = s.accepted ∧ (d.perform s).buffer.nextSeq = s.buffer.nextSeq ∧
      ((d.perform s).buffer.entries = s.buffer.entries ∨ (d.perform s).buffer.entries = [])) ∨
    (∃ e, d = .add e ∧ let stamped := e.withSeq s.buffer.nextSeq
      (d.perform s).accepted = s.accepted ++ [stamped] ∧
      (d.perform s).buffer.nextSeq = s.buffer.nextSeq + 1 ∧
      (d.perform s).buffer.entries = Entry.upsert stamped s.buffer.entries) ∨
    (d.isStart = true ∧ (d.perform s).accepted = s.accepted ∧
      (d.perform s).buffer.entries = s.buffer.entries ∧
      (d.perform s).buffer.nextSeq = s.buffer.entries.foldl Buffer.seqAfter 0) := by
  cases d with
  | add e =>
    have hstamp : s.buffer.stamp e = e.withSeq s.buffer.nextSeq := by
      unfold Buffer.stamp
      rw [hu e rfl]
    rcases add_cases s e with ⟨-, left, -, hs⟩ | ⟨files', -, -, hs⟩
    · rw [hs]
      exact Or.inl ⟨rfl, rfl, Or.inl rfl⟩
    · rw [hs, hstamp]
      refine Or.inr (Or.inl ⟨e, rfl, rfl, ?_, rfl⟩)
      show max s.buffer.nextSeq (s.buffer.nextSeq + 1) = _
      omega
  | flush reply =>
    left
    rw [Deed.perform]
    rcases s.buffer.flush_cases reply s.files with hs | ⟨-, files', -, hs⟩
    · rw [hs]
      exact ⟨rfl, rfl, Or.inl rfl⟩
    · rw [hs]
      exact ⟨rfl, rfl, Or.inr rfl⟩
  | restart limits => exact Or.inr (Or.inr ⟨rfl, numbers_restarted h limits⟩)
  | crash limits =>
    exact Or.inr (Or.inr ⟨rfl, numbers_restarted (isSound_handed h fun _ => .ok ()) limits⟩)

theorem isFounded_perform (h : s.IsSound path) (hs : s.IsFounded) {d : Deed}
    (hu : ∀ e, d = .add e → e.seq = none) : (d.perform s).IsFounded := by
  rcases numbers_cases h hu with ⟨ha, hn, he⟩ | ⟨e, -, ha, -, -⟩ | ⟨-, ha, he, hn⟩
  · refine ⟨fun hnone => ?_, fun e hf => hs.first e (ha ▸ hf)⟩
    obtain ⟨hempty, hzero⟩ := hs.fresh (ha ▸ hnone)
    exact ⟨he.elim (·.trans hempty) id, hn.trans hzero⟩
  · refine ⟨fun hnone => absurd (ha ▸ hnone) (by simp), fun e' hf => ?_⟩
    rw [ha, List.head?_append] at hf
    cases hhead : s.accepted.head? with
    | none =>
      rw [hhead] at hf
      obtain rfl := Option.some.inj hf
      obtain ⟨-, hzero⟩ := hs.fresh (List.head?_eq_none_iff.mp hhead)
      rw [← hzero]
      rfl
    | some first =>
      rw [hhead] at hf
      exact hs.first e' (hhead.trans hf)
  · refine ⟨fun hnone => ?_, fun e hf => hs.first e (ha ▸ hf)⟩
    obtain ⟨hempty, -⟩ := hs.fresh (ha ▸ hnone)
    exact ⟨he.trans hempty, by rw [hn, hempty]; rfl⟩

/-- The next number is not below those of what is held. -/
theorem foldl_seqAfter_le (h : s.IsNumbered) :
    s.buffer.entries.foldl Buffer.seqAfter 0 ≤ s.buffer.nextSeq := by
  by_cases he : s.buffer.entries = []
  · rw [he]
    exact Nat.zero_le _
  · exact Nat.le_of_eq (h.next he)

/-- The key of a write that is stamped next is new. -/
theorem distinct_stamped (h : s.IsNumbered) (e : Entry) :
    ((s.accepted ++ [e.withSeq s.buffer.nextSeq]).map Entry.key).Nodup := by
  rw [List.map_append, List.nodup_append]
  refine ⟨h.distinct, List.nodup_singleton _, ?_⟩
  -- an earlier key has a number below the new one
  intro key hm key' hm' heq
  obtain ⟨e', he', rfl⟩ := List.mem_map.mp hm
  obtain ⟨n, hlt, hk⟩ := h.stamped e' he'
  rw [List.map_singleton, List.mem_singleton] at hm'
  rw [hk, hm'] at heq
  exact absurd (Entry.number_of_keyOf_eq heq) (Nat.ne_of_lt hlt)

/-- A deed that is no reset keeps the numbers in order. -/
theorem isNumbered_perform (h : s.IsSound path) (hf : s.IsFounded) (hn : s.IsNumbered) {d : Deed}
    (hu : ∀ e, d = .add e → e.seq = none) (hr : ¬ IsReset s d) : (d.perform s).IsNumbered := by
  rcases numbers_cases h hu with ⟨ha, hnext, he⟩ | ⟨e, -, ha, hnext, he⟩ | ⟨hd, ha, he, hnext⟩
  · refine ⟨?_, ha ▸ hn.distinct, fun hne => ?_⟩
    · rw [ha, hnext]
      exact hn.stamped
    · have hsame := he.resolve_right hne
      rw [hsame] at hne ⊢
      rw [hnext]
      exact hn.next hne
  · refine ⟨?_, ?_, fun _ => ?_⟩
    · rw [ha, hnext]
      intro e' hm
      rcases List.mem_append.mp hm with hm | hm
      · obtain ⟨n, hlt, hk⟩ := hn.stamped e' hm
        exact ⟨n, Nat.lt_succ_of_lt hlt, hk⟩
      · rw [List.mem_singleton.mp hm]
        exact ⟨s.buffer.nextSeq, Nat.lt_succ_self _, rfl⟩
    · rw [ha]
      exact distinct_stamped hn e
    · rw [he, hnext]
      exact Buffer.foldl_seqAfter_upsert (foldl_seqAfter_le hn) rfl
  · have hsame : (d.perform s).buffer.nextSeq = s.buffer.nextSeq := by
      rw [hnext]
      by_cases hidle : s.buffer.entries = []
      · have hnone : s.accepted = [] := not_not.mp fun hused => hr ⟨hd, hidle, hused⟩
        rw [hidle, (hf.fresh hnone).2]
        rfl
      · exact hn.next hidle
    refine ⟨?_, ha ▸ hn.distinct, fun _ => ?_⟩
    · rw [ha, hsame]
      exact hn.stamped
    · rw [he, hnext]

/-- With nothing held, the first write after a start has the number zero. If it is one of the
resource that was written first, it takes that write's key and its place in the record. -/
theorem numbers_reset (h : s.IsSound path) (hs : s.IsFounded) {first e : Entry}
    {limits : BufferConfig} (hfirst : s.accepted.head? = some first)
    (hidle : s.buffer.entries = []) (hseq : e.seq = none) (hresource : e.resource = first.resource)
    (hid : e.id = first.id)
    (ha : ((s.restarted limits).buffer.add e (s.restarted limits).files).answer = .ok true) :
    let again := (Deed.add e).perform (s.restarted limits)
    (e.withSeq 0).key = first.key ∧ again.accepted = s.accepted ++ [e.withSeq 0] ∧
      again.record first.key = some (e.withSeq 0) := by
  intro again
  obtain ⟨hacc, -, hnext⟩ := numbers_restarted h limits
  have hstamp : (s.restarted limits).buffer.stamp e = e.withSeq 0 := by
    unfold Buffer.stamp
    rw [hseq, hnext, hidle]
    rfl
  have hkey : (e.withSeq 0).key = first.key := by
    rw [hs.first first hfirst, ← hresource, ← hid]
    rfl
  rcases add_cases (s.restarted limits) e with ⟨hn, -⟩ | ⟨files', -, -, hagain⟩
  · exact absurd ha hn
  · rw [show again = _ from hagain, hstamp]
    refine ⟨hkey, congrArg (· ++ [e.withSeq 0]) hacc, ?_⟩
    rw [record, Table.write_concat, ← hkey]
    exact Function.update_self ..

end

/-! ## Many deeds -/

theorem isSteady_cons {s : Relay} {d : Deed} {deeds : List Deed} :
    IsSteady s (d :: deeds) ↔ ¬ IsReset s d ∧ IsSteady (d.perform s) deeds := by
  constructor
  · intro h
    refine ⟨h [] d (by simp), fun front d' hp => ?_⟩
    exact h (d :: front) d' (List.cons_prefix_cons.mpr ⟨rfl, hp⟩)
  · rintro ⟨hfirst, hrest⟩ front d' hp
    cases front with
    | nil =>
      obtain rfl : d' = d := by simpa using hp
      exact hfirst
    | cons c front =>
      obtain ⟨rfl, hfront⟩ := List.cons_prefix_cons.mp hp
      exact hrest front d' hfront

theorem isSteady_of_no_start {s : Relay} {deeds : List Deed}
    (h : ∀ d ∈ deeds, d.isStart = false) : IsSteady s deeds := by
  intro front d hp hr
  have hd : d ∈ deeds := hp.subset (List.mem_append_right _ List.mem_cons_self)
  exact absurd hr.start (by rw [h d hd]; decide)

section
variable {path : String}

/-- Deeds keep the first number in place, and the numbers in order unless one of them is a
reset. -/
theorem numbers_run {s : Relay} {deeds : List Deed} (h : s.IsSound path) (hs : s.IsFounded)
    (hu : ∀ e, .add e ∈ deeds → e.seq = none) (hc : (run s deeds).IsClean) :
    (run s deeds).IsFounded ∧
      (s.IsNumbered → IsSteady s deeds → (run s deeds).IsNumbered) := by
  induction deeds generalizing s with
  | nil => exact ⟨hs, fun hn _ => hn⟩
  | cons d deeds ih =>
    rw [run_cons] at hc ⊢
    have hfirst : ∀ e, d = .add e → e.seq = none := fun e he => hu e (he ▸ List.mem_cons_self)
    have hsound : (d.perform s).IsSound path :=
      isSound_perform h (isClean_of_earlier (accepted_run _ _) hc)
    obtain ⟨hfounded, hnumbered⟩ := ih hsound (isFounded_perform h hs hfirst)
      (fun e he => hu e (List.mem_cons_of_mem _ he)) hc
    refine ⟨hfounded, fun hn hsteady => ?_⟩
    obtain ⟨hr, hrest⟩ := isSteady_cons.mp hsteady
    exact hnumbered (isNumbered_perform h hs hn hfirst hr) hrest

end

/-- From an empty database and no log on, as long as every accepted write is legible: the keys of
all accepted writes differ if no process starts with nothing held after something had been
accepted. If one does, its first write to the resource that was written first is stamped with the
key of that write, and the record of this key is lost to the later one. -/
theorem distinct_until_reset {config : BufferConfig} {files : Files} {path : String}
    (hw : config.wal = some path) (hf : files.IsAbsent path) :
    ∃ b, (Buffer.new config files).1 = .ok b ∧ ∀ deeds : List Deed,
      (∀ e, .add e ∈ deeds → e.seq = none) →
      let s := run (new b files) deeds
      s.IsClean →
        (IsSteady (new b files) deeds → (s.accepted.map Entry.key).Nodup) ∧
        ∀ first limits e, s.accepted.head? = some first → s.buffer.entries = [] →
          e.seq = none → e.resource = first.resource → e.id = first.id →
          let started := s.restarted limits
          (started.buffer.add e started.files).answer = .ok true →
          let later := e.withSeq 0
          later.key = first.key ∧
            ((Deed.add e).perform started).accepted = s.accepted ++ [later] ∧
            ((Deed.add e).perform started).record first.key = some later := by
  have hb := Buffer.new_of_notFound hw hf.1
  refine ⟨_, hb, fun deeds hu hc => ?_⟩
  by_cases hp : files.HasParent path
  · have hsound := isSound_new hw hf hp hb
    have hfounded : (new ⟨config, [], 0, 0⟩ files).IsFounded := ⟨fun _ => ⟨rfl, rfl⟩, nofun⟩
    have hnumbered : (new ⟨config, [], 0, 0⟩ files).IsNumbered :=
      ⟨nofun, List.nodup_nil, fun hne => absurd rfl hne⟩
    obtain ⟨hrunf, hrunn⟩ := numbers_run hsound hfounded hu hc
    refine ⟨fun hsteady => (hrunn hnumbered hsteady).distinct, ?_⟩
    intro first limits e hfirst hidle hseq hresource hid started ha
    exact numbers_reset (isSound_run hsound hc) hrunf hfirst hidle hseq hresource hid ha
  · -- nothing is ever accepted
    have hnone := (isBarred_run (isBarred_new hw hf hp hb) deeds).accepted
    rw [hnone]
    exact ⟨fun _ => List.nodup_nil, nofun⟩

/-- A write of the quantity of an order, without a number. -/
def ordered (quantity : Nat) : Entry :=
  Entry.new ⟨0, .epoch⟩ "order" "1" [("qty", .nat quantity)]

/-- Two writes of one order, and a flush. -/
def orders : List Deed := [.add (ordered 1), .add (ordered 2), .flush fun _ => .ok ()]

/-- The relay after these deeds. -/
def flushed : Relay := run (new ⟨⟨10, 1000, some "w", false⟩, [], 0, 0⟩ .empty) orders

theorem accepted_flushed :
    flushed.accepted = [(ordered 1).withSeq 0, (ordered 2).withSeq 1] := by with_unfolding_all rfl

/-- The relay after a start. -/
def reopened : Relay := flushed.restarted ⟨10, 1000, none, false⟩

theorem answer_reopened : (reopened.buffer.add (ordered 3) reopened.files).answer = .ok true := by
  with_unfolding_all rfl

/-- Two writes of an order are accepted with two keys and flushed. After a start a third one has
the key of the first, and is what the record has under it. -/
theorem distinct_ordered :
    ∃ b, (Buffer.new ⟨10, 1000, some "w", false⟩ .empty).1 = .ok b ∧
      flushed = run (new b .empty) orders ∧
      flushed.accepted.map Entry.key = ["order:1:0", "order:1:1"] ∧
      (flushed.accepted.map Entry.key).Nodup ∧
      let again := (Deed.add (ordered 3)).perform reopened
      again.accepted.map Entry.key = ["order:1:0", "order:1:1", "order:1:0"] ∧
        again.record "order:1:0" = some ((ordered 3).withSeq 0) := by
  let config : BufferConfig := ⟨10, 1000, some "w", false⟩
  have hw : config.wal = some "w" := rfl
  have hnew := Buffer.new_of_notFound hw Buffer.isAbsent_empty.1
  obtain ⟨b, hb, hrun⟩ := distinct_until_reset hw Buffer.isAbsent_empty
  obtain rfl := Except.ok.inj (hb.symm.trans hnew)
  have hidle : flushed.buffer.entries = [] := by with_unfolding_all rfl
  have hu : ∀ e, .add e ∈ orders → e.seq = none := by
    intro e he
    simp only [orders, List.mem_cons, Deed.add.injEq, reduceCtorEq, List.not_mem_nil,
      or_false] at he
    rcases he with rfl | rfl <;> rfl
  have hclean : flushed.IsClean := by
    intro e he
    rw [accepted_flushed] at he
    simp only [List.mem_cons, List.not_mem_nil, or_false] at he
    rcases he with rfl | rfl <;> decide
  obtain ⟨hdistinct, hreset⟩ := hrun orders hu hclean
  have hnodup := hdistinct (isSteady_of_no_start (by simp [orders, Deed.isStart]))
  obtain ⟨-, hagain, hrecord⟩ := hreset ((ordered 1).withSeq 0) _ (ordered 3)
    (congrArg List.head? accepted_flushed) hidle rfl rfl rfl answer_reopened
  refine ⟨_, hb, rfl, congrArg (List.map Entry.key) accepted_flushed, hnodup, ?_, hrecord⟩
  exact congrArg (List.map Entry.key) (hagain.trans (congrArg (· ++ [_]) accepted_flushed))

end Relay

end Failsafe
