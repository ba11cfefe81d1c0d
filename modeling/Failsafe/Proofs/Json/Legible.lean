import Failsafe.Proofs.Json.Readings
import Failsafe.Proofs.Json.Rereading
/-
  Which values are read back as themselves: just those in which no object begins with
  `quotingKey` (`reread?_eq_some_self_iff`). A quotation never happens to be what it quotes,
  because no text at all is read as an object whose only key is `quotingKey`
  (`readQuotedText_ne_quotation`).
-/

namespace Failsafe.Json

mutual

/-- No object in the value begins with `quotingKey`. -/
def Value.isLegible : Value → Bool
  | .arr items => legibleItems items
  | .obj members => !(members.head?.map Prod.fst == some quotingKey) && legibleMembers members
  | _ => true

/-- No object in the items begins with `quotingKey`. -/
def legibleItems : List Value → Bool
  | [] => true
  | v :: rest => v.isLegible && legibleItems rest

/-- No object in the members' values begins with `quotingKey`. -/
def legibleMembers : List (String × Value) → Bool
  | [] => true
  | (_, v) :: rest => v.isLegible && legibleMembers rest

end

/-- An object that quotes `t`, or would if `t` were a string. -/
def quotation (t : Value) : Value := .obj [(quotingKey, t)]

/-! ## No text is read as a quotation -/

/-- What every member keeps, all of them keep. -/
theorem foldMembers_keeps {member : String → σ → Reader σ} {P : σ → Prop}
    (hstep : ∀ k state s state' rest, P state → member k state s = .ok (state', rest) → P state')
    {n : Nat} {first : Bool} {state state' : σ} {s rest : List Char} (hp : P state)
    (h : foldMembers member n first state s = .ok (state', rest)) : P state' := by
  induction n generalizing first state s with
  | zero => cases h
  | succ n ih =>
    obtain ⟨m, hn, ⟨-, rfl⟩ | ⟨t, key, u, next, v, -, -, hmember, hrest⟩⟩ := foldMembers_cases h
    · exact hp
    · obtain rfl := Nat.succ.inj hn
      exact ih (hstep _ _ _ _ _ hp hmember) hrest

/-- The object has a key other than `quotingKey`. -/
def HasOtherKey (ms : Members) : Prop := ∃ m ∈ ms, m.1 ≠ quotingKey

theorem mem_insert (k : String) (v : Value) (ms : Members) : (k, v) ∈ ms.insert k v := by
  induction ms with
  | nil => exact List.mem_cons_self
  | cons held rest ih =>
    obtain ⟨k', v'⟩ := held
    rw [Members.insert]
    split
    · exact List.mem_cons_self
    · split
      · exact List.mem_cons_self
      · exact List.mem_cons_of_mem _ ih

theorem mem_of_mem_insert {k : String} {v : Value} {ms : Members} {m : String × Value}
    (h : m ∈ ms.insert k v) : m = (k, v) ∨ m ∈ ms := by
  induction ms with
  | nil => exact Or.inl (List.mem_singleton.mp h)
  | cons held rest ih =>
    obtain ⟨k', v'⟩ := held
    rw [Members.insert] at h
    split at h
    · exact List.mem_cons.mp h
    split at h
    · rcases List.mem_cons.mp h with h | h
      · exact Or.inl h
      · exact Or.inr (List.mem_cons_of_mem _ h)
    · rcases List.mem_cons.mp h with h | h
      · exact Or.inr (h ▸ List.mem_cons_self)
      · exact (ih h).imp_right (List.mem_cons_of_mem _)

theorem hasOtherKey_insert {ms : Members} (h : HasOtherKey ms) (k : String) (v : Value) :
    HasOtherKey (ms.insert k v) := by
  induction ms with
  | nil =>
    obtain ⟨m, hm, -⟩ := h
    simp at hm
  | cons held rest ih =>
    obtain ⟨k', v'⟩ := held
    obtain ⟨m, hm, hk⟩ := h
    rw [Members.insert]
    split
    · exact ⟨m, List.mem_cons_of_mem _ hm, hk⟩
    · rcases List.mem_cons.mp hm with rfl | hm
      · split
        · next he => exact ⟨(k, v), List.mem_cons_self, he ▸ hk⟩
        · exact ⟨(k', v'), List.mem_cons_self, hk⟩
      · split
        · exact ⟨m, List.mem_cons_of_mem _ hm, hk⟩
        · obtain ⟨m', hm', hk'⟩ := ih ⟨m, hm, hk⟩
          exact ⟨m', List.mem_cons_of_mem _ hm', hk'⟩

theorem hasOtherKey_of_readMember {value : Reader Value} {k : String} {ms ms' : Members}
    {s rest : List Char} (h : readMember value k ms s = .ok (ms', rest))
    (hk : HasOtherKey ms ∨ k ≠ quotingKey) : HasOtherKey ms' := by
  obtain ⟨t, v, -, -, rfl⟩ := readMember_eq_ok h
  rcases hk with hk | hk
  · exact hasOtherKey_insert hk k v
  · exact ⟨(k, v), mem_insert k v ms, hk⟩

theorem ne_quotation_of_hasOtherKey {ms : Members} (h : HasOtherKey ms) (t : Value) :
    Value.obj ms ≠ quotation t := by
  intro he
  obtain rfl := Value.obj.inj he
  obtain ⟨m, hm, hne⟩ := h
  rw [List.mem_singleton] at hm
  exact hne (congrArg Prod.fst hm)

theorem hasOtherKey_of_foldMembers {value : Reader Value} {n : Nat} {ms ms' : Members}
    {s rest : List Char} (hm : HasOtherKey ms)
    (h : foldMembers (readMember value) n false ms s = .ok (ms', rest)) : HasOtherKey ms' :=
  foldMembers_keeps (fun _ _ _ _ _ hp hr => hasOtherKey_of_readMember hr (Or.inl hp)) hm h

theorem readFields_ne_quotation {whole : List Char → Except Fault Value} {value : Reader Value}
    (hq : ∀ s t, whole s ≠ .ok (quotation t)) (s : List Char) (t : Value) (rest : List Char) :
    readFields whole value s ≠ .ok (quotation t, rest) := by
  intro h
  rcases readFields_cases h with ⟨-, -, he, -⟩ | ⟨-, u, -, -, hquoted⟩ |
    ⟨-, key, u, first, w, members, x, -, -, hk, hfirst, hmembers, he, -⟩
  · cases he
  · obtain ⟨-, text, -, -, -, hwhole, -⟩ := readQuoted_eq_ok hquoted
    exact hq _ _ hwhole
  · have ho := hasOtherKey_of_readMember hfirst (Or.inr hk)
    exact ne_quotation_of_hasOtherKey (hasOtherKey_of_foldMembers ho hmembers) t he.symm

theorem readNested_ne_quotation {whole : List Char → Except Fault Value}
    (hq : ∀ s t, whole s ≠ .ok (quotation t)) (depth : Nat) (s : List Char) (t : Value)
    (rest : List Char) : readNested whole depth s ≠ .ok (quotation t, rest) := by
  intro h
  obtain ⟨c, u, -, hread⟩ := readNested_cases h
  unfold quotation at hread
  cases hread with
  | map hfields => exact readFields_ne_quotation hq _ _ _ hfields

/-- No quoted text is read as a quotation. -/
theorem readQuotedText_ne_quotation (n : Nat) (s : List Char) (t : Value) :
    readQuotedText n s ≠ .ok (quotation t) := by
  induction n generalizing s t with
  | zero => exact fun h => nomatch h
  | succ n ih =>
    intro h
    obtain ⟨rest, hread, -⟩ := readAll_eq_ok h
    exact readNested_ne_quotation ih _ _ _ _ hread

/-! ## What comes back as it was -/

mutual

/-- A value is read back as itself just if it is legible. -/
theorem reread?_eq_some_self_iff {whole : List Char → Except Fault Value}
    (hq : ∀ s t, whole s ≠ .ok (quotation t)) :
    ∀ v : Value, v.reread? whole = some v ↔ v.isLegible = true
  | .null => by simp [Value.reread?, Value.isLegible]
  | .bool _ => by simp [Value.reread?, Value.isLegible]
  | .num _ => by simp [Value.reread?, Value.isLegible]
  | .str _ => by simp [Value.reread?, Value.isLegible]
  | .arr items => by
    unfold Value.reread? Value.isLegible
    rw [← rereadItems?_eq_some_self_iff hq items]
    simp
  | .obj [] => by simp [Value.reread?, Value.isLegible, legibleMembers]
  | .obj ((k, v) :: rest) => by
    by_cases hk : k = quotingKey
    · subst hk
      have hl : (Value.obj ((quotingKey, v) :: rest)).isLegible = false := by
        simp [Value.isLegible]
      rw [hl]
      constructor
      · intro h
        exfalso
        unfold Value.reread? at h
        rw [if_pos rfl] at h
        split at h
        · next t =>
          cases hw : whole t.toList with
          | error f =>
            rw [hw] at h
            cases h
          | ok w =>
            rw [hw] at h
            cases h
            exact hq t.toList (.str t) hw
        · simp at h
      · intro h
        simp at h
    · have hl : (Value.obj ((k, v) :: rest)).isLegible = legibleMembers ((k, v) :: rest) := by
        simp [Value.isLegible, hk]
      rw [hl, ← rereadMembers?_eq_some_self_iff hq ((k, v) :: rest), reread?_obj_of_ne whole hk]
      simp

theorem rereadItems?_eq_some_self_iff {whole : List Char → Except Fault Value}
    (hq : ∀ s t, whole s ≠ .ok (quotation t)) : ∀ items : List Value,
    rereadItems? whole items = some items ↔ legibleItems items = true
  | [] => by simp [rereadItems?, legibleItems]
  | v :: rest => by
    rw [legibleItems, Bool.and_eq_true, ← reread?_eq_some_self_iff hq v,
      ← rereadItems?_eq_some_self_iff hq rest, rereadItems?]
    split <;> simp_all

theorem rereadMembers?_eq_some_self_iff {whole : List Char → Except Fault Value}
    (hq : ∀ s t, whole s ≠ .ok (quotation t)) : ∀ members : List (String × Value),
    rereadMembers? whole members = some members ↔ legibleMembers members = true
  | [] => by simp [rereadMembers?, legibleMembers]
  | (k, v) :: rest => by
    rw [legibleMembers, Bool.and_eq_true, ← reread?_eq_some_self_iff hq v,
      ← rereadMembers?_eq_some_self_iff hq rest, rereadMembers?]
    split <;> simp_all

end

namespace Members

/-- What the members of an object are read back as, where quoted texts are read like others. -/
def reread? (ms : Members) : Option Members :=
  rereadMembers? (fun s => readQuotedText (s.length + 1) s) ms

theorem reread?_eq_some_self_iff {ms : Members} :
    ms.reread? = some ms ↔ legibleMembers ms = true :=
  rereadMembers?_eq_some_self_iff (fun _ => readQuotedText_ne_quotation _ _) ms

end Members

end Failsafe.Json
