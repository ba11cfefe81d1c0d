import Failsafe.Proofs.Json.Places
/-
  The key by which objects quote, in what is read from a text.

  If no object in a text has the key `quotingKey` (`avoids`), no object in the values that are read
  begins with it, and the values are nested no deeper than the reader may go (`yields_isLegible`);
  only what is quoted can be nested deeper. And whatever the text, a value that has been read is
  never taken for another one when its own text is read (`yields_isFaithful`).
-/

namespace Failsafe.Json

open Stance

/-! ## Parts of values -/

theorem legibleItems_iff {items : List Value} :
    legibleItems items = true ↔ ∀ v ∈ items, v.isLegible = true := by
  induction items with
  | nil => simp [legibleItems]
  | cons v rest ih => rw [legibleItems, Bool.and_eq_true, ih, List.forall_mem_cons]

theorem legibleMembers_iff {ms : Members} :
    legibleMembers ms = true ↔ ∀ m ∈ ms, m.2.isLegible = true := by
  induction ms with
  | nil => simp [legibleMembers]
  | cons m rest ih => rw [legibleMembers, Bool.and_eq_true, ih, List.forall_mem_cons]

theorem nestingItems_le_iff {items : List Value} {n : Nat} :
    nestingItems items ≤ n ↔ ∀ v ∈ items, v.nesting ≤ n := by
  induction items with
  | nil => simp [nestingItems]
  | cons v rest ih => rw [nestingItems, Nat.max_le, ih, List.forall_mem_cons]

theorem nestingMembers_le_iff {ms : Members} {n : Nat} :
    nestingMembers ms ≤ n ↔ ∀ m ∈ ms, m.2.nesting ≤ n := by
  induction ms with
  | nil => simp [nestingMembers]
  | cons m rest ih => rw [nestingMembers, Nat.max_le, ih, List.forall_mem_cons]

/-! ## Texts without a key -/

/-- No member with the key begins here. -/
def isOtherKey (key : String) : List Char → Bool
  | '"' :: t =>
    match readString t with
    | .ok (text, u) => text != key || !(readColon u).isOk
    | .error _ => true
  | _ => true

/-- No object in a text has a member with the key. -/
def avoids (key : String) (s : List Char) : Bool :=
  (outside 0 false).everywhere (isOtherKey key) s

theorem ne_of_isOtherKey {key text : String} {t u w : List Char}
    (hp : isOtherKey key ('"' :: t) = true) (h : readString t = .ok (text, u))
    (hcolon : readColon u = .ok w) : text ≠ key := by
  rw [isOtherKey, h] at hp
  simpa [hcolon, Except.isOk, Except.toBool] using hp

theorem isInherited_isLegible (whole : List Char → Except Fault Value) :
    IsInherited (isOtherKey quotingKey) whole
      (fun depth v => v.nesting ≤ depth ∧ v.isLegible = true)
      fun depth ms => ∀ m ∈ ms, m.1 ≠ quotingKey ∧ m.2.nesting ≤ depth ∧ m.2.isLegible = true where
  null _ := ⟨Nat.zero_le _, rfl⟩
  bool _ _ := ⟨Nat.zero_le _, rfl⟩
  str _ _ := ⟨Nat.zero_le _, rfl⟩
  negative _ _ _ := ⟨Nat.zero_le _, rfl⟩
  positive _ _ _ _ := ⟨Nat.zero_le _, rfl⟩
  list h := ⟨Nat.succ_le_succ (nestingItems_le_iff.mpr fun v hv => (h v hv).1),
    legibleItems_iff.mpr fun v hv => (h v hv).2⟩
  empty _ := List.forall_mem_nil _
  insert hp hkey hcolon hv h := by
    intro m hm
    rcases mem_of_mem_insert hm with rfl | hm
    · exact ⟨ne_of_isOtherKey hp hkey hcolon, hv⟩
    · exact h m hm
  map {depth ms} _ h := by
    refine ⟨Nat.succ_le_succ (nestingMembers_le_iff.mpr fun m hm => (h m hm).2.1), ?_⟩
    rw [Value.isLegible, Bool.and_eq_true, legibleMembers_iff]
    refine ⟨?_, fun m hm => (h m hm).2.2⟩
    cases ms with
    | nil => rfl
    | cons m rest => simpa using (h m List.mem_cons_self).1
  quoted _ _ ht _ hkey h := by
    obtain ⟨w, -, -, hcolon, -⟩ := readQuoted_eq_ok h
    exact absurd rfl (ne_of_isOtherKey ht hkey hcolon)

/-- Where no object has the key, none in what is read begins with it, and what is read is nested no
deeper than the reader goes. -/
theorem yields_isLegible (depth : Nat) : Yields (isOtherKey quotingKey) (readObject (depth + 1))
    fun ms => (Value.obj ms).nesting ≤ depth + 1 ∧ legibleMembers ms = true := by
  intro d s ms rest hp h
  have hm := yields_readObject (isInherited_isLegible _) depth d s ms rest hp h
  exact ⟨Nat.succ_le_succ (nestingMembers_le_iff.mpr fun m hm' => (hm m hm').2.1),
    legibleMembers_iff.mpr fun m hm' => (hm m hm').2.2⟩

/-! ## Values that are not taken for others -/

/-- If the text of the value is read at all, then as the value itself. -/
def Value.IsFaithful (whole : List Char → Except Fault Value) (v : Value) : Prop :=
  ∀ w, v.reread? whole = some w → w = v

section
variable {whole : List Char → Except Fault Value}

theorem eq_of_rereadItems? {items ws : List Value} (hf : ∀ v ∈ items, v.IsFaithful whole)
    (h : rereadItems? whole items = some ws) : ws = items := by
  induction items generalizing ws with
  | nil => exact (Option.some.inj h).symm
  | cons v rest ih =>
    rw [List.forall_mem_cons] at hf
    rw [rereadItems?_cons, Option.bind_eq_some_iff] at h
    obtain ⟨w, hw, h⟩ := h
    obtain ⟨ws, hws, rfl⟩ := Option.map_eq_some_iff.mp h
    rw [hf.1 w hw, ih hf.2 hws]

theorem eq_of_rereadMembers? {ms ws : Members} (hf : ∀ m ∈ ms, m.2.IsFaithful whole)
    (h : rereadMembers? whole ms = some ws) : ws = ms := by
  induction ms generalizing ws with
  | nil => exact (Option.some.inj h).symm
  | cons m rest ih =>
    rw [List.forall_mem_cons] at hf
    rw [rereadMembers?_cons, Option.bind_eq_some_iff] at h
    obtain ⟨w, hw, h⟩ := h
    obtain ⟨ws, hws, rfl⟩ := Option.map_eq_some_iff.mp h
    rw [hf.1 w hw, ih hf.2 hws]

/-- Only a quotation can be taken for something else. -/
theorem isFaithful_obj {ms : Members} (hne : ∀ t, Value.obj ms ≠ quotation t)
    (hf : ∀ m ∈ ms, m.2.IsFaithful whole) : (Value.obj ms).IsFaithful whole := by
  intro w h
  match ms, hne, hf with
  | [], _, _ => exact (Option.some.inj h).symm
  | (k, v) :: rest, hne, hf =>
    by_cases hk : k = quotingKey
    · subst hk
      rw [Value.reread?, if_pos rfl] at h
      · cases h
      · rintro s - rfl
        exact hne v rfl
    · rw [reread?_obj_of_ne whole hk] at h
      obtain ⟨ws, hws, rfl⟩ := Option.map_eq_some_iff.mp h
      rw [eq_of_rereadMembers? hf hws]

theorem isInherited_isFaithful {inner : List Char → Except Fault Value}
    (hw : ∀ s v, inner s = .ok v → v.IsFaithful whole) :
    IsInherited (fun _ => true) inner (fun _ v => v.IsFaithful whole)
      fun _ ms => ∀ m ∈ ms, m.2.IsFaithful whole where
  null _ := fun _ h => (Option.some.inj h).symm
  bool _ _ := fun _ h => (Option.some.inj h).symm
  str _ _ := fun _ h => (Option.some.inj h).symm
  negative _ _ _ := fun _ h => (Option.some.inj h).symm
  positive _ _ _ _ := fun _ h => (Option.some.inj h).symm
  list hf := by
    intro w h
    obtain ⟨ws, hws, rfl⟩ := Option.map_eq_some_iff.mp h
    rw [eq_of_rereadItems? hf hws]
  empty _ := List.forall_mem_nil _
  insert _ _ _ hv hf := by
    intro m hm
    rcases mem_of_mem_insert hm with rfl | hm
    · exact hv
    · exact hf m hm
  map := isFaithful_obj
  quoted _ _ _ _ _ h := by
    obtain ⟨-, text, -, -, -, hwhole, -⟩ := readQuoted_eq_ok h
    exact hw _ _ hwhole

theorem everywhere_true (a : Stance) (s : List Char) : a.everywhere (fun _ => true) s = true := by
  induction s generalizing a with
  | nil => rfl
  | cons c s ih => exact everywhere_cons.mpr ⟨fun _ => rfl, fun b _ => ih b⟩

theorem isFaithful_of_readQuotedText (n : Nat) (s : List Char) (v : Value)
    (h : readQuotedText n s = .ok v) : v.IsFaithful whole := by
  induction n generalizing s v with
  | zero => cases h
  | succ n ih =>
    obtain ⟨rest, hread, -⟩ := readAll_eq_ok h
    exact yields_readNested (isInherited_isFaithful ih) nestingLimit 0 _ _ _
      (everywhere_true _ _) hread

end

/-- Whatever the text, the members that are read come back as themselves if at all. -/
theorem yields_isFaithful (p : List Char → Bool) (depth : Nat) :
    Yields p (readObject (depth + 1)) fun ms => ∀ ws, ms.reread? = some ws → ws = ms := by
  intro d s ms rest _ h ws hws
  exact eq_of_rereadMembers? (yields_readObject
    (isInherited_isFaithful fun _ => isFaithful_of_readQuotedText _ _) depth d s ms rest
    (everywhere_true _ _) h) hws

end Failsafe.Json
