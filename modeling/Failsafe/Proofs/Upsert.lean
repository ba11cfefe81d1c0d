import Mathlib.Data.List.Induction
import Failsafe.Entry
/-
  Putting entries in the place of those with their keys.

  What is kept of some writes is, for each key in the order in which the keys first occur
  (`keys_lastWriteWins`), the last write with it (`last_of_mem_lastWriteWins`). Of more writes the
  same is kept as if what is kept of the new ones were written over what was kept before
  (`lastWriteWins_append`).
-/

namespace Failsafe.Entry

/-- The first entry with a key. -/
abbrev find? (key : String) (l : List Entry) : Option Entry := l.find? fun held => held.key = key

theorem find?_cons_of_eq {held : Entry} {key : String} (h : held.key = key) (rest : List Entry) :
    find? key (held :: rest) = some held :=
  List.find?_cons_of_pos (decide_eq_true h)

theorem find?_cons_of_ne {held : Entry} {key : String} (h : held.key ≠ key) (rest : List Entry) :
    find? key (held :: rest) = find? key rest :=
  List.find?_cons_of_neg (by rw [decide_eq_true_iff]; exact h)

theorem find?_eq_none_iff {key : String} {l : List Entry} :
    find? key l = none ↔ key ∉ l.map Entry.key := by
  simp [find?, List.find?_eq_none]

/-- An entry changes nothing just where it is held already. -/
theorem upsert_eq_self_iff {e : Entry} {l : List Entry} :
    upsert e l = l ↔ find? e.key l = some e := by
  induction l with
  | nil => simp [upsert]
  | cons held rest ih =>
    rw [upsert]
    by_cases h : held.key = e.key
    · rw [if_pos h, find?_cons_of_eq h, List.cons.injEq, Option.some.injEq]
      exact ⟨fun he => he.1.symm, fun he => ⟨he.symm, rfl⟩⟩
    · rw [if_neg h, find?_cons_of_ne h, List.cons.injEq, ← ih]
      exact ⟨And.right, fun he => ⟨rfl, he⟩⟩

/-- Two entries with one key that are put into one list leave it the same only if they are. -/
theorem upsert_eq_upsert_iff {e e' : Entry} (hk : e'.key = e.key) {l : List Entry} :
    upsert e' l = upsert e l ↔ e' = e := by
  constructor
  · intro h
    induction l with
    | nil => exact (List.cons.inj h).1
    | cons held rest ih =>
      rw [upsert, upsert, hk] at h
      split at h
      · exact (List.cons.inj h).1
      · exact ih (List.cons.inj h).2
  · intro h
    rw [h]

theorem size_le_totalSize {e : Entry} {l : List Entry} (h : e ∈ l) : e.size ≤ totalSize l := by
  induction l with
  | nil => simp at h
  | cons held rest ih =>
    rw [totalSize]
    rcases List.mem_cons.mp h with rfl | h
    · exact Nat.le_add_right _ _
    · exact Nat.le_trans (ih h) (Nat.le_add_left _ _)

theorem totalSize_upsert_of_none {e : Entry} {l : List Entry} (h : find? e.key l = none) :
    totalSize (upsert e l) = totalSize l + e.size := by
  induction l with
  | nil => exact Nat.add_comm _ _
  | cons held rest ih =>
    by_cases hk : held.key = e.key
    · simp [find?_cons_of_eq hk] at h
    · rw [find?_cons_of_ne hk] at h
      rw [upsert, if_neg hk, totalSize, totalSize, ih h]
      omega

theorem totalSize_upsert_of_some {e held : Entry} {l : List Entry}
    (h : find? e.key l = some held) :
    totalSize (upsert e l) = totalSize l - held.size + e.size := by
  induction l with
  | nil => simp at h
  | cons first rest ih =>
    by_cases hk : first.key = e.key
    · rw [find?_cons_of_eq hk] at h
      obtain rfl := Option.some.inj h
      rw [upsert, if_pos hk, totalSize, totalSize]
      omega
    · rw [find?_cons_of_ne hk] at h
      have hle : held.size ≤ totalSize rest := size_le_totalSize (List.mem_of_find?_eq_some h)
      rw [upsert, if_neg hk, totalSize, totalSize, ih h]
      omega

theorem key_mem_upsert {e : Entry} {l : List Entry} {key : String}
    (h : key ∈ (upsert e l).map Entry.key) : key = e.key ∨ key ∈ l.map Entry.key := by
  induction l with
  | nil => exact Or.inl (by simpa [upsert] using h)
  | cons held rest ih =>
    rw [upsert] at h
    split at h
    · rcases List.mem_cons.mp h with h | h
      · exact Or.inl h
      · exact Or.inr (List.mem_cons_of_mem _ h)
    · rcases List.mem_cons.mp h with h | h
      · exact Or.inr (h ▸ List.mem_cons_self)
      · rcases ih h with h | h
        · exact Or.inl h
        · exact Or.inr (List.mem_cons_of_mem _ h)

theorem self_mem_upsert (e : Entry) (l : List Entry) : e ∈ upsert e l := by
  induction l with
  | nil => exact List.mem_cons_self
  | cons held rest ih =>
    rw [upsert]
    split
    · exact List.mem_cons_self
    · exact List.mem_cons_of_mem _ ih

theorem mem_upsert {e e' : Entry} {l : List Entry} (h : e' ∈ upsert e l) : e' = e ∨ e' ∈ l := by
  induction l with
  | nil => exact Or.inl (List.mem_singleton.mp h)
  | cons held rest ih =>
    rw [upsert] at h
    split at h
    · exact (List.mem_cons.mp h).imp_right (List.mem_cons_of_mem _)
    · rcases List.mem_cons.mp h with rfl | h
      · exact Or.inr List.mem_cons_self
      · exact (ih h).imp_right (List.mem_cons_of_mem _)

/-- No key is held twice. -/
theorem nodup_upsert {l : List Entry} (h : (l.map Entry.key).Nodup) (e : Entry) :
    ((upsert e l).map Entry.key).Nodup := by
  induction l with
  | nil => simp [upsert]
  | cons held rest ih =>
    rw [List.map_cons, List.nodup_cons] at h
    rw [upsert]
    split
    · next hk =>
      rw [List.map_cons, List.nodup_cons, ← hk]
      exact h
    · next hk =>
      rw [List.map_cons, List.nodup_cons]
      refine ⟨fun hm => ?_, ih h.2⟩
      rcases key_mem_upsert hm with hm | hm
      · exact hk hm
      · exact h.1 hm

theorem upsert_ne_nil (e : Entry) (l : List Entry) : upsert e l ≠ [] := by
  cases l with
  | nil => simp [upsert]
  | cons held rest =>
    rw [upsert]
    split <;> simp

/-! ## The last write of each key -/

theorem upsert_of_not_mem {e : Entry} {l : List Entry} (h : e.key ∉ l.map Entry.key) :
    upsert e l = l ++ [e] := by
  induction l with
  | nil => rfl
  | cons held rest ih =>
    rw [List.map_cons, List.mem_cons, not_or] at h
    rw [upsert, if_neg (Ne.symm h.1), ih h.2]
    rfl

theorem keys_upsert_of_mem {e : Entry} {l : List Entry} (h : e.key ∈ l.map Entry.key) :
    (upsert e l).map Entry.key = l.map Entry.key := by
  induction l with
  | nil => simp at h
  | cons held rest ih =>
    rw [upsert]
    split
    · next hk => rw [List.map_cons, List.map_cons, hk]
    · next hk =>
      have hrest : e.key ∈ rest.map Entry.key := (List.mem_cons.mp h).resolve_left (Ne.symm hk)
      rw [List.map_cons, List.map_cons, ih hrest]

theorem lastWriteWins_concat (l : List Entry) (e : Entry) :
    lastWriteWins (l ++ [e]) = upsert e (lastWriteWins l) := by
  unfold lastWriteWins
  rw [List.foldl_append]
  rfl

theorem nodup_foldl_upsert {held : List Entry} (h : (held.map Entry.key).Nodup) (l : List Entry) :
    ((l.foldl (fun held e => upsert e held) held).map Entry.key).Nodup := by
  induction l generalizing held with
  | nil => exact h
  | cons e rest ih => exact ih (nodup_upsert h e)

/-- Of each key one write is kept. -/
theorem nodup_lastWriteWins (l : List Entry) : ((lastWriteWins l).map Entry.key).Nodup :=
  have hnil : (([] : List Entry).map Entry.key).Nodup := List.nodup_nil
  nodup_foldl_upsert hnil l

theorem length_upsert_le (e : Entry) (l : List Entry) : (upsert e l).length ≤ l.length + 1 := by
  induction l with
  | nil => exact Nat.le_refl _
  | cons held rest ih =>
    rw [upsert]
    split
    · exact Nat.le_succ _
    · exact Nat.succ_le_succ ih

theorem length_lastWriteWins_le (l : List Entry) : (lastWriteWins l).length ≤ l.length := by
  induction l using List.reverseRecOn with
  | nil => exact Nat.le_refl _
  | append_singleton l e ih =>
    have hle := length_upsert_le e (lastWriteWins l)
    rw [lastWriteWins_concat, List.length_append, List.length_singleton]
    omega

/-- The keys stand in the order in which they first occur. -/
theorem keys_lastWriteWins (l : List Entry) :
    (lastWriteWins l).map Entry.key = (l.map Entry.key).eraseDups := by
  induction l using List.reverseRecOn with
  | nil => rfl
  | append_singleton l e ih =>
    have hmem : e.key ∈ (lastWriteWins l).map Entry.key ↔ e.key ∈ l.map Entry.key := by
      rw [ih, List.mem_eraseDups]
    rw [lastWriteWins_concat, List.map_append, List.eraseDups_append, ← ih, List.map_singleton]
    by_cases h : e.key ∈ l.map Entry.key
    · have hnone : [e.key].removeAll (l.map Entry.key) = [] := by
        rw [List.cons_removeAll, List.nil_removeAll, List.contains_eq_mem, decide_eq_true h]
        rfl
      rw [keys_upsert_of_mem (hmem.mpr h), hnone, List.eraseDups_nil, List.append_nil]
    · have hone : [e.key].removeAll (l.map Entry.key) = [e.key] := by
        rw [List.cons_removeAll, List.nil_removeAll, List.contains_eq_mem, decide_eq_false h]
        rfl
      rw [upsert_of_not_mem (mt hmem.mp h), List.map_append, hone]
      rfl

/-- An entry that stays while another is put into the list has a key of its own. -/
theorem key_ne_of_mem_upsert {e e' : Entry} {l : List Entry} (hl : (l.map Entry.key).Nodup)
    (h : e' ∈ upsert e l) (hne : e' ≠ e) : e' ∈ l ∧ e.key ≠ e'.key := by
  induction l with
  | nil => exact absurd (List.mem_singleton.mp h) hne
  | cons held rest ih =>
    rw [List.map_cons, List.nodup_cons] at hl
    rw [upsert] at h
    split at h
    · next hk =>
      have hrest : e' ∈ rest := (List.mem_cons.mp h).resolve_left hne
      refine ⟨List.mem_cons_of_mem _ hrest, fun heq => hl.1 ?_⟩
      rw [hk, heq]
      exact List.mem_map_of_mem hrest
    · next hk =>
      rcases List.mem_cons.mp h with rfl | h
      · exact ⟨List.mem_cons_self, Ne.symm hk⟩
      · exact (ih hl.2 h).imp_left (List.mem_cons_of_mem _)

/-- What is kept under a key is the last write with it. -/
theorem last_of_mem_lastWriteWins {l : List Entry} {e : Entry} (h : e ∈ lastWriteWins l) :
    ∃ front back, l = front ++ e :: back ∧ ∀ later ∈ back, later.key ≠ e.key := by
  induction l using List.reverseRecOn with
  | nil => simp [lastWriteWins] at h
  | append_singleton l x ih =>
    rw [lastWriteWins_concat] at h
    by_cases hx : e = x
    · exact ⟨l, [], by rw [hx], by simp⟩
    · obtain ⟨hmem, hkey⟩ := key_ne_of_mem_upsert (nodup_lastWriteWins l) h hx
      obtain ⟨front, back, rfl, hback⟩ := ih hmem
      refine ⟨front, back ++ [x], by simp, fun later hl => ?_⟩
      rcases List.mem_append.mp hl with hl | hl
      · exact hback later hl
      · rwa [List.mem_singleton.mp hl]

theorem mem_of_mem_lastWriteWins {l : List Entry} {e : Entry} (h : e ∈ lastWriteWins l) :
    e ∈ l := by
  obtain ⟨front, back, rfl, -⟩ := last_of_mem_lastWriteWins h
  exact List.mem_append_right _ List.mem_cons_self

/-! ## Writing what has been kept -/

theorem upsert_upsert_of_eq {e e' : Entry} (h : e.key = e'.key) (l : List Entry) :
    upsert e (upsert e' l) = upsert e l := by
  induction l with
  | nil =>
    show upsert e [e'] = [e]
    rw [upsert, if_pos h.symm]
  | cons held rest ih =>
    rw [upsert, upsert, h]
    split
    · rw [upsert, if_pos h.symm]
    · next hk => rw [upsert, h, if_neg hk, ih]

/-- Entries with different keys may change places where the first key is held already. -/
theorem upsert_comm {e e' : Entry} (h : e.key ≠ e'.key) {l : List Entry}
    (hl : e.key ∈ l.map Entry.key) : upsert e (upsert e' l) = upsert e' (upsert e l) := by
  induction l with
  | nil => simp at hl
  | cons held rest ih =>
    by_cases hk : held.key = e.key
    · have hk' : held.key ≠ e'.key := fun heq => h (hk.symm.trans heq)
      rw [upsert, if_neg hk', upsert, if_pos hk, upsert, if_pos hk, upsert, if_neg h]
    · have hrest : e.key ∈ rest.map Entry.key := (List.mem_cons.mp hl).resolve_left (Ne.symm hk)
      have hleft : upsert e (held :: rest) = held :: upsert e rest := by rw [upsert, if_neg hk]
      rw [hleft, upsert, upsert]
      split
      · rw [upsert, if_neg (Ne.symm h)]
      · rw [upsert, if_neg hk, ih hrest]

theorem foldl_upsert_comm {e : Entry} {l held : List Entry} (hl : e.key ∉ l.map Entry.key)
    (h : e.key ∈ held.map Entry.key) :
    l.foldl (fun held e => upsert e held) (upsert e held)
      = upsert e (l.foldl (fun held e => upsert e held) held) := by
  induction l generalizing held with
  | nil => rfl
  | cons x rest ih =>
    rw [List.map_cons, List.mem_cons, not_or] at hl
    have hx : e.key ∈ (upsert x held).map Entry.key := by
      by_cases hm : x.key ∈ held.map Entry.key
      · rwa [keys_upsert_of_mem hm]
      · rw [upsert_of_not_mem hm, List.map_append]
        exact List.mem_append_left _ h
    rw [List.foldl_cons, List.foldl_cons, ← upsert_comm hl.1 h, ih hl.2 hx]

/-- An entry put into a list is written last, whatever is written in front of it. -/
theorem foldl_upsert_upsert {l : List Entry} (hl : (l.map Entry.key).Nodup) (e : Entry)
    (held : List Entry) :
    (upsert e l).foldl (fun held e => upsert e held) held
      = upsert e (l.foldl (fun held e => upsert e held) held) := by
  induction l generalizing held with
  | nil => rfl
  | cons x rest ih =>
    rw [List.map_cons, List.nodup_cons] at hl
    rw [upsert]
    split
    · next hk =>
      have hnew : e.key ∉ rest.map Entry.key := hk ▸ hl.1
      have hheld : e.key ∈ (upsert x held).map Entry.key :=
        hk ▸ List.mem_map_of_mem (self_mem_upsert x held)
      rw [List.foldl_cons, List.foldl_cons, ← foldl_upsert_comm hnew hheld,
        upsert_upsert_of_eq hk.symm]
    · rw [List.foldl_cons, List.foldl_cons, ih hl.2]

/-- Writing what is kept of some writes has the effect of the writes themselves. -/
theorem foldl_upsert_lastWriteWins (l held : List Entry) :
    (lastWriteWins l).foldl (fun held e => upsert e held) held
      = l.foldl (fun held e => upsert e held) held := by
  induction l using List.reverseRecOn with
  | nil => rfl
  | append_singleton l e ih =>
    rw [lastWriteWins_concat, foldl_upsert_upsert (nodup_lastWriteWins l), ih, List.foldl_append]
    rfl

/-- What is kept of more writes is what was kept, with what is kept of the new ones written over
it. -/
theorem lastWriteWins_append (l l' : List Entry) :
    lastWriteWins (l ++ l')
      = (lastWriteWins l').foldl (fun held e => upsert e held) (lastWriteWins l) := by
  rw [foldl_upsert_lastWriteWins]
  exact List.foldl_append

end Failsafe.Entry
