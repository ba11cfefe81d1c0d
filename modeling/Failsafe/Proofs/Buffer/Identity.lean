import Failsafe.Proofs.Buffer.Failures
import Failsafe.Proofs.Buffer.Numbering
import Failsafe.Proofs.Wal.Replaying
/-
  Which writes the buffer takes for one.

  The buffer tells writes apart by their keys, and a key is the kind of a resource, its name and the
  number of the write, joined by colons. Two writes with one number have one key exactly if their
  kinds and names are the same once they are joined (`keyOf_eq_iff`). So what is held of some
  writes is the last of every kind, name and number exactly if none of the accepted ones joins to
  the key of another (`isLastOfEach_iff`); that cannot happen as long as no kind, or no name, has a
  colon in it.
-/

namespace Failsafe

namespace Entry

/-- The kind of the resource, its name and the number of the write. -/
def origin (e : Entry) : String × String × Option Nat := (e.resource, e.id, e.seq)

/-- A write of a resource that has been given a number. -/
def IsMade (e : Entry) : Prop :=
  ∃ now resource id data n, e = (Entry.new now resource id data).withSeq n

/-- What is held is the last write of each origin, and nothing else. -/
structure IsLastOfEach (held writes : List Entry) : Prop where
  distinct : (held.map origin).Nodup
  last : ∀ e, e ∈ held ↔
    ∃ front back, writes = front ++ e :: back ∧ ∀ later ∈ back, later.origin ≠ e.origin

/-- No two of the writes have one key but different origins. -/
def IsUnmixed (writes : List Entry) : Prop :=
  ∀ e ∈ writes, ∀ e' ∈ writes, e.key = e'.key → e.origin = e'.origin

/-! ## Keys and origins -/

theorem key_of_isMade {e : Entry} (h : e.IsMade) :
    ∃ n, e.seq = some n ∧ e.key = keyOf e.resource e.id n := by
  obtain ⟨now, resource, id, data, n, rfl⟩ := h
  exact ⟨n, rfl, rfl⟩

theorem key_eq_of_origin_eq {e e' : Entry} (h : e.IsMade) (h' : e'.IsMade)
    (ho : e.origin = e'.origin) : e.key = e'.key := by
  obtain ⟨n, hn, hk⟩ := key_of_isMade h
  obtain ⟨n', hn', hk'⟩ := key_of_isMade h'
  obtain ⟨hresource, hid, hseq⟩ : e.resource = e'.resource ∧ e.id = e'.id ∧ e.seq = e'.seq := by
    simpa [origin] using ho
  rw [hn, hn'] at hseq
  rw [hk, hk', hresource, hid, Option.some.inj hseq]

/-- Keys are the same if the numbers are, and the kind and the name joined by a colon. -/
theorem keyOf_eq_iff {resource id resource' id' : String} {m n : Nat} :
    keyOf resource id m = keyOf resource' id' n ↔
      m = n ∧ resource ++ ":" ++ id = resource' ++ ":" ++ id' := by
  constructor
  · intro h
    obtain rfl := number_of_keyOf_eq h
    refine ⟨rfl, ?_⟩
    unfold keyOf at h
    exact (String.append_left_inj _).mp ((String.append_left_inj _).mp h)
  · rintro ⟨rfl, h⟩
    unfold keyOf
    rw [h]

theorem append_colon_inj {s s' t t' : List Char} (hs : ':' ∉ s) (hs' : ':' ∉ s')
    (h : s ++ ':' :: t = s' ++ ':' :: t') : s = s' ∧ t = t' := by
  induction s generalizing s' with
  | nil =>
    cases s' with
    | nil => exact ⟨rfl, (List.cons.inj h).2⟩
    | cons c s' => exact absurd (by rw [(List.cons.inj h).1]; exact List.mem_cons_self) hs'
  | cons c s ih =>
    cases s' with
    | nil => exact absurd (by rw [← (List.cons.inj h).1]; exact List.mem_cons_self) hs
    | cons d s' =>
      obtain ⟨rfl, hrest⟩ := List.cons.inj h
      obtain ⟨rfl, rfl⟩ := ih (mt (List.mem_cons_of_mem _) hs) (mt (List.mem_cons_of_mem _) hs')
        hrest
      exact ⟨rfl, rfl⟩

/-- A kind without a colon is what stands in front of the first one, a name without a colon what
stands behind the last one. -/
theorem resource_eq_of_joined_eq {resource id resource' id' : String}
    (h : resource ++ ":" ++ id = resource' ++ ":" ++ id')
    (hc : (':' ∉ resource.toList ∧ ':' ∉ resource'.toList) ∨
      (':' ∉ id.toList ∧ ':' ∉ id'.toList)) : resource = resource' ∧ id = id' := by
  have hchars : resource.toList ++ ':' :: id.toList = resource'.toList ++ ':' :: id'.toList := by
    have hlist := congrArg String.toList h
    rw [String.append_assoc, String.append_assoc] at hlist
    simpa using hlist
  rw [← String.toList_inj, ← String.toList_inj]
  rcases hc with ⟨hr, hr'⟩ | ⟨hi, hi'⟩
  · exact append_colon_inj hr hr' hchars
  · have hback := congrArg List.reverse hchars
    simp only [List.reverse_append, List.reverse_cons, List.append_assoc,
      List.singleton_append] at hback
    obtain ⟨hid, hresource⟩ := append_colon_inj (by simpa using hi) (by simpa using hi') hback
    exact ⟨List.reverse_injective hresource, List.reverse_injective hid⟩

theorem isUnmixed_of_no_colon {writes : List Entry} (hm : ∀ e ∈ writes, e.IsMade)
    (hc : (∀ e ∈ writes, ':' ∉ e.resource.toList) ∨ (∀ e ∈ writes, ':' ∉ e.id.toList)) :
    IsUnmixed writes := by
  intro e he e' he' hkey
  obtain ⟨n, hn, hk⟩ := key_of_isMade (hm e he)
  obtain ⟨n', hn', hk'⟩ := key_of_isMade (hm e' he')
  rw [hk, hk'] at hkey
  obtain ⟨rfl, hjoined⟩ := keyOf_eq_iff.mp hkey
  obtain ⟨hresource, hid⟩ := resource_eq_of_joined_eq hjoined
    (hc.imp (fun h => ⟨h e he, h e' he'⟩) (fun h => ⟨h e he, h e' he'⟩))
  rw [origin, origin, hresource, hid, hn, hn']

/-! ## The last writes -/

theorem mem_upsert_of_ne {e e' : Entry} {l : List Entry} (h : e' ∈ l) (hk : e'.key ≠ e.key) :
    e' ∈ upsert e l := by
  induction l with
  | nil => cases h
  | cons held rest ih =>
    rw [upsert]
    rcases List.mem_cons.mp h with rfl | h
    · rw [if_neg hk]
      exact List.mem_cons_self
    · split
      · exact List.mem_cons_of_mem _ h
      · exact List.mem_cons_of_mem _ (ih h)

/-- A write is kept if none behind it has its key. -/
theorem mem_lastWriteWins_of_last {front back : List Entry} {e : Entry}
    (h : ∀ later ∈ back, later.key ≠ e.key) : e ∈ lastWriteWins (front ++ e :: back) := by
  induction back using List.reverseRecOn with
  | nil =>
    rw [lastWriteWins_concat]
    exact self_mem_upsert e _
  | append_singleton back later ih =>
    rw [← List.cons_append, ← List.append_assoc, lastWriteWins_concat]
    refine mem_upsert_of_ne (ih fun x hx => h x (List.mem_append_left _ hx)) ?_
    exact Ne.symm (h later (by simp))

/-- Every origin has a last write. -/
theorem exists_last {l : List Entry} {e : Entry} (h : e ∈ l) :
    ∃ front x back, l = front ++ x :: back ∧ x.origin = e.origin ∧
      ∀ later ∈ back, later.origin ≠ x.origin := by
  induction l using List.reverseRecOn with
  | nil => cases h
  | append_singleton l y ih =>
    by_cases hy : y.origin = e.origin
    · exact ⟨l, y, [], rfl, hy, by simp⟩
    · have he : e ∈ l := by
        rcases List.mem_append.mp h with h | h
        · exact h
        · exact absurd (by rw [List.mem_singleton.mp h]) hy
      obtain ⟨front, x, back, rfl, hx, hback⟩ := ih he
      refine ⟨front, x, back ++ [y], by simp, hx, fun later hl => ?_⟩
      rcases List.mem_append.mp hl with hl | hl
      · exact hback later hl
      · rw [List.mem_singleton.mp hl, hx]
        exact hy

/-- What is kept under the keys of some writes is the last write of each origin exactly if no two of
them are mixed up. -/
theorem isLastOfEach_lastWriteWins_iff {writes : List Entry} (hm : ∀ e ∈ writes, e.IsMade) :
    IsLastOfEach (lastWriteWins writes) writes ↔ IsUnmixed writes := by
  have hkeys := nodup_lastWriteWins writes
  constructor
  · intro h e he e' he' hkey
    obtain ⟨front, x, back, hx, hxe, hback⟩ := exists_last he
    obtain ⟨front', x', back', hx', hxe', hback'⟩ := exists_last he'
    have hheld : x ∈ lastWriteWins writes := (h.last x).mpr ⟨front, back, hx, hback⟩
    have hheld' : x' ∈ lastWriteWins writes := (h.last x').mpr ⟨front', back', hx', hback'⟩
    have hmem : x ∈ writes := by rw [hx]; simp
    have hmem' : x' ∈ writes := by rw [hx']; simp
    have hsame : x.key = x'.key :=
      calc x.key = e.key := key_eq_of_origin_eq (hm x hmem) (hm e he) hxe
        _ = e'.key := hkey
        _ = x'.key := (key_eq_of_origin_eq (hm x' hmem') (hm e' he') hxe').symm
    obtain rfl : x = x' := List.inj_on_of_nodup_map hkeys hheld hheld' hsame
    rw [← hxe, ← hxe']
  · intro h
    have hmade : ∀ e ∈ lastWriteWins writes, e.IsMade :=
      fun e he => hm e (mem_of_mem_lastWriteWins he)
    refine ⟨?_, fun e => ⟨fun he => ?_, ?_⟩⟩
    · rw [List.Nodup, List.pairwise_map] at hkeys ⊢
      refine hkeys.imp_of_mem fun he he' hne ho => hne ?_
      exact key_eq_of_origin_eq (hmade _ he) (hmade _ he') ho
    · obtain ⟨front, back, hw, hback⟩ := last_of_mem_lastWriteWins he
      refine ⟨front, back, hw, fun later hl ho => hback later hl ?_⟩
      have hlater : later ∈ writes := by rw [hw]; simp [hl]
      exact key_eq_of_origin_eq (hm later hlater) (hmade e he) ho
    · rintro ⟨front, back, hw, hback⟩
      rw [hw]
      refine mem_lastWriteWins_of_last fun later hl hk => hback later hl ?_
      exact h later (by rw [hw]; simp [hl]) e (by rw [hw]; simp) hk

end Entry

namespace Buffer

/-! ## Writes one after the other -/

section
variable {s : Buffer × Files} {writes : List Entry}

theorem stamp_of_isMade {e : Entry} (b : Buffer) (h : e.IsMade) : b.stamp e = e := by
  obtain ⟨n, hn, -⟩ := Entry.key_of_isMade h
  unfold stamp
  rw [hn]

theorem accepted_subset (hm : ∀ e ∈ writes, e.IsMade) :
    ∀ e ∈ accepted s (writes.map .add), e ∈ writes := by
  induction writes generalizing s with
  | nil => intro e he; cases he
  | cons e writes ih =>
    intro e' he'
    rw [List.map_cons, accepted_cons, List.mem_append] at he'
    rcases he' with he' | he'
    · rcases accepted?_add s e with ⟨hn, -⟩ | ⟨files', ha, -, -⟩
      · rw [hn] at he'
        cases he'
      · rw [ha, stamp_of_isMade _ (hm e List.mem_cons_self)] at he'
        rw [List.mem_singleton.mp he']
        exact List.mem_cons_self
    · exact List.mem_cons_of_mem _ (ih (fun x hx => hm x (List.mem_cons_of_mem _ hx)) e' he')

/-- What is held is what was held, with the accepted writes written over it. -/
theorem entries_run_add (s : Buffer × Files) (writes : List Entry) :
    (run s (writes.map .add)).1.entries
      = (accepted s (writes.map .add)).foldl (fun held e => Entry.upsert e held) s.1.entries := by
  induction writes generalizing s with
  | nil => rfl
  | cons e writes ih =>
    rw [List.map_cons, run_cons, accepted_cons, ih, List.foldl_append]
    rcases accepted?_add s e with ⟨hn, left, -, hs⟩ | ⟨files', ha, -, hs⟩
    · rw [hn, hs]
      rfl
    · rw [ha, hs]
      rfl

/-- A line from which an entry is read back holds it. -/
theorem addLine_of_parse? {e : Entry} (h : Wal.parse? e.toJson.render = some e) (l : List Entry) :
    Wal.addLine l (Bytes.encode e.toJson.render) = .ok (Entry.upsert e l) := by
  unfold Wal.addLine
  rw [Bytes.decode?_encode]
  dsimp only
  rcases Wal.content_of_text (t := e.toJson.render) rfl with ⟨e', hc, hp⟩ | ⟨f, -, hp⟩
  · obtain rfl := Option.some.inj (hp.symm.trans h)
    rw [hc]
  · cases hp.symm.trans h

/-- Legible entries that can be stored are read back. -/
theorem parse?_of_isStorable {e : Entry} (hs : e.isStorable = true) (hl : e.isLegible = true) :
    Wal.parse? e.toJson.render = some e :=
  (Entry.readAll_toJson (Entry.isRecordable_of_isStorable hs)).trans
    ((Entry.reread?_eq_some_self_iff e).mpr hl)

/-- Writes whose lines are read back as they are leave a log that gives back what is held. -/
theorem holds_run_add {path : String} (hw : s.1.config.wal = some path)
    (h : Wal.Holds s.2 path s.1.entries)
    (hr : ∀ e ∈ accepted s (writes.map .add), Wal.parse? e.toJson.render = some e) :
    Wal.Holds (run s (writes.map .add)).2 path (run s (writes.map .add)).1.entries := by
  induction writes generalizing s with
  | nil => exact h
  | cons e writes ih =>
    rw [List.map_cons, accepted_cons, List.forall_mem_append] at hr
    rw [List.map_cons, run_cons]
    refine ih ?_ ?_ hr.2
    · rw [config_perform, hw]
    · rcases accepted?_add s e with ⟨-, left, hl, hs⟩ | ⟨files', ha, hf, hs⟩
      · rw [hs]
        exact holds_of_isLeft hw h hl
      · rw [ha, Option.toList_some] at hr
        rw [appendLog_of_wal hw] at hf
        rw [hs]
        exact Wal.holds_append h (addLine_of_parse? (hr.1 _ List.mem_cons_self)) hf

end

/-- Some numbered writes of resources are added to a buffer that starts with nothing. What is then
held is the last of the accepted writes of every kind, name and number exactly if no two of them
have one key but different kinds, names or numbers: then their numbers are the same, and the kind
and the name of the one joined by a colon are those of the other. That is not so if no kind has a
colon in it, nor if no name has. As long as the lines of the accepted writes are read back as they
are, which those of legible writes that can be stored are, a new buffer on the log holds the
same. -/
theorem isLastOfEach_iff {config : BufferConfig} {files : Files} {b : Buffer}
    {writes : List Entry} (hb : (Buffer.new config files).1 = .ok b) (hempty : b.entries = [])
    (hm : ∀ e ∈ writes, e.IsMade) :
    let s := run (b, files) (writes.map .add)
    let taken := accepted (b, files) (writes.map .add)
    (Entry.IsLastOfEach s.1.entries taken ↔ Entry.IsUnmixed taken) ∧
    (∀ e ∈ taken, ∀ e' ∈ taken, e.key = e'.key ↔
      e.seq = e'.seq ∧ e.resource ++ ":" ++ e.id = e'.resource ++ ":" ++ e'.id) ∧
    ((∀ e ∈ taken, ':' ∉ e.resource.toList) ∨ (∀ e ∈ taken, ':' ∉ e.id.toList) →
      Entry.IsLastOfEach s.1.entries taken) ∧
    (∀ e ∈ taken, e.isStorable = true → e.isLegible = true →
      Wal.parse? e.toJson.render = some e) ∧
    ∀ path, config.wal = some path → Wal.IsSound files path →
      (∀ e ∈ taken, Wal.parse? e.toJson.render = some e) →
      ∃ b', (Buffer.new config s.2).1 = .ok b' ∧ b'.entries = s.1.entries := by
  intro s taken
  have hmade : ∀ e ∈ taken, e.IsMade := fun e he => hm e (accepted_subset hm e he)
  have hheld : s.1.entries = Entry.lastWriteWins taken := by
    show (run (b, files) (writes.map .add)).1.entries = _
    rw [entries_run_add]
    show List.foldl _ b.entries _ = _
    rw [hempty]
    rfl
  rw [hheld]
  have hiff := Entry.isLastOfEach_lastWriteWins_iff hmade
  refine ⟨hiff, fun e he e' he' => ?_, fun hc => ?_, fun _ _ => parse?_of_isStorable,
    fun path hw hsound hr => ?_⟩
  · obtain ⟨n, hn, hk⟩ := Entry.key_of_isMade (hmade e he)
    obtain ⟨n', hn', hk'⟩ := Entry.key_of_isMade (hmade e' he')
    rw [hk, hk', hn, hn', Entry.keyOf_eq_iff, Option.some.injEq]
  · exact hiff.mpr (Entry.isUnmixed_of_no_colon hmade hc)
  · obtain ⟨l, hl⟩ := Wal.holds_of_isSound hsound
    obtain ⟨b', hb', hconfig, rfl, -⟩ := new_of_holds hw hl
    obtain rfl := Except.ok.inj (hb.symm.trans hb')
    have hafter := holds_run_add (s := (b, files)) (hconfig ▸ hw) hl hr
    obtain ⟨b'', hb'', -, he, -⟩ := new_of_holds hw hafter
    exact ⟨b'', hb'', he.trans hheld⟩

/-- A write of a quantity, with the number one. -/
def placed (resource id : String) (quantity : Nat) : Entry :=
  (Entry.new ⟨0, .epoch⟩ resource id [("qty", .nat quantity)]).withSeq 1

theorem isMade_placed (resource id : String) (quantity : Nat) :
    (placed resource id quantity).IsMade := ⟨_, _, _, _, _, rfl⟩

/-- Two writes of different resources, whose kinds and names are the same once they are joined: both
are accepted, and only the second one is held. -/
theorem not_isLastOfEach_colons :
    let config : BufferConfig := ⟨10, 1000, some "w", false⟩
    let writes := [placed "a:b" "c" 1, placed "a" "b:c" 2]
    ∃ b, (Buffer.new config .empty).1 = .ok b ∧ b.entries = [] ∧
      accepted (b, .empty) (writes.map .add) = writes ∧
      (run (b, .empty) (writes.map .add)).1.entries = [placed "a" "b:c" 2] ∧
      ¬ Entry.IsLastOfEach (run (b, .empty) (writes.map .add)).1.entries writes := by
  intro config writes
  have hnew := new_of_notFound (rfl : config.wal = some "w") isAbsent_empty.1
  have haccepted : accepted (⟨config, [], 0, 0⟩, .empty) (writes.map .add) = writes := by
    with_unfolding_all rfl
  have hrun : (run (⟨config, [], 0, 0⟩, .empty) (writes.map .add)).1.entries
      = [placed "a" "b:c" 2] := by
    rw [entries_run_add, haccepted]
    rfl
  refine ⟨_, hnew, rfl, haccepted, hrun, fun h => ?_⟩
  rw [hrun] at h
  have hlost : placed "a:b" "c" 1 ∈ [placed "a" "b:c" 2] :=
    (h.last _).mpr ⟨[], [placed "a" "b:c" 2], rfl, by decide⟩
  have hresource := congrArg Entry.resource (List.mem_singleton.mp hlost)
  exact absurd hresource (by decide)

/-- With names without colons both are held, and a new buffer holds them too. -/
theorem isLastOfEach_plain :
    let config : BufferConfig := ⟨10, 1000, some "w", false⟩
    let writes := [placed "a:b" "c" 1, placed "a" "b.c" 2]
    ∃ b, (Buffer.new config .empty).1 = .ok b ∧
      let s := run (b, .empty) (writes.map .add)
      accepted (b, .empty) (writes.map .add) = writes ∧ Entry.IsLastOfEach s.1.entries writes ∧
      ∃ b', (Buffer.new config s.2).1 = .ok b' ∧ b'.entries = s.1.entries := by
  intro config writes
  have hnew := new_of_notFound (rfl : config.wal = some "w") isAbsent_empty.1
  have hm : ∀ e ∈ writes, e.IsMade := by
    intro e he
    simp only [writes, List.mem_cons, List.not_mem_nil, or_false] at he
    rcases he with rfl | rfl <;> exact isMade_placed _ _ _
  have haccepted : accepted (⟨config, [], 0, 0⟩, .empty) (writes.map .add) = writes := by
    with_unfolding_all rfl
  obtain ⟨-, -, hplain, hread, hnext⟩ := isLastOfEach_iff hnew rfl hm
  rw [haccepted] at hplain hread hnext
  have hstorable : ∀ e ∈ writes, e.isStorable = true ∧ e.isLegible = true := by decide
  exact ⟨_, hnew, haccepted, hplain (Or.inr (by decide)), hnext "w" rfl isSound_empty
    fun e he => hread e he (hstorable e he).1 (hstorable e he).2⟩

end Buffer

end Failsafe
