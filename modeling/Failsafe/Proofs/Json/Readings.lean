import Failsafe.Json.Record
import Failsafe.Proofs.Except
/-
  The ways in which values, objects and records are read.

  A reader that succeeds has come one of a few ways, and has on each of them called the readers of
  the parts. Which ways there are is said here once for each reader (`readNested_cases`,
  `readFields_cases`, `readRecord_cases`).
-/

namespace Failsafe.Json

/-! ## Items and members -/

section
variable {s rest : List Char} {n : Nat} {first : Bool}

/-- An array ends, or it has an item and goes on. -/
theorem readItems_cases {item : Reader α} {acc l : List α}
    (h : readItems item n first acc s = .ok (l, rest)) : ∃ m, n = m + 1 ∧
      ((∃ t, nextItem first s = .ok (false, t) ∧ l = acc.reverse ∧ rest = t.drop 1) ∨
        ∃ t a u, nextItem first s = .ok (true, t) ∧ item t = .ok (a, u) ∧
          readItems item m false (a :: acc) u = .ok (l, rest)) := by
  cases n with
  | zero => cases h
  | succ m =>
    refine ⟨m, rfl, ?_⟩
    rw [readItems] at h
    split at h
    · cases h
    · next t ht =>
      cases h
      exact Or.inl ⟨t, ht, rfl, rfl⟩
    · next t ht =>
      split at h
      · cases h
      · next a u hitem => exact Or.inr ⟨t, a, u, ht, hitem, h⟩

/-- The members of an object end, or there is a key with its member and they go on. -/
theorem foldMembers_cases {member : String → σ → Reader σ} {state state' : σ}
    (h : foldMembers member n first state s = .ok (state', rest)) : ∃ m, n = m + 1 ∧
      ((nextKey first s = .ok (false, rest) ∧ state' = state) ∨
        ∃ t key u next v, nextKey first s = .ok (true, t) ∧ readString t = .ok (key, u) ∧
          member key state u = .ok (next, v) ∧
          foldMembers member m false next v = .ok (state', rest)) := by
  cases n with
  | zero => cases h
  | succ m =>
    refine ⟨m, rfl, ?_⟩
    rw [foldMembers] at h
    split at h
    · cases h
    · next t ht =>
      cases h
      exact Or.inl ⟨ht, rfl⟩
    · next t ht =>
      split at h
      · cases h
      · next key u hkey =>
        split at h
        · cases h
        · next next v hmember => exact Or.inr ⟨t, key, u, next, v, ht, hkey, hmember, h⟩

end

/-! ## Values of any shape -/

section
variable {whole : List Char → Except Fault Value} {value : Reader Value} {v : Value}
  {s rest : List Char}

theorem readMember_eq_ok {key : String} {members members' : Members}
    (h : readMember value key members s = .ok (members', rest)) :
    ∃ t v, readColon s = .ok t ∧ value t = .ok (v, rest) ∧ members' = members.insert key v := by
  unfold readMember at h
  split at h
  · cases h
  · next t hcolon =>
    split at h
    · cases h
    · next v _ hvalue =>
      cases h
      exact ⟨t, v, hcolon, hvalue, rfl⟩

theorem readQuoted_eq_ok (h : readQuoted whole s = .ok (v, rest)) :
    ∃ t text u, readColon s = .ok t ∧ readText "raw value" t = .ok (text, u) ∧
      whole text.toList = .ok v ∧ skipBlank u = '\x7d' :: rest := by
  unfold readQuoted at h
  split at h
  · cases h
  · next t hcolon =>
    split at h
    · cases h
    · next text u htext =>
      split at h
      · cases h
      · next hwhole =>
        split at h
        · cases h
        · next hclose =>
          cases h
          exact ⟨t, text, u, hcolon, htext, hwhole, hclose⟩
        · cases h
        · cases h

/-- An object is empty, or quotes a value, or has members of which the first does not quote. -/
theorem readFields_cases (h : readFields whole value s = .ok (v, rest)) :
    (∃ t, nextKey true s = .ok (false, t) ∧ v = .obj [] ∧ rest = t.drop 1) ∨
    (∃ t u, nextKey true s = .ok (true, t) ∧ readString t = .ok (quotingKey, u) ∧
      readQuoted whole u = .ok (v, rest)) ∨
    ∃ t key u first w members x, nextKey true s = .ok (true, t) ∧ readString t = .ok (key, u) ∧
      key ≠ quotingKey ∧ readMember value key [] u = .ok (first, w) ∧
      foldMembers (readMember value) (w.length + 1) false first w = .ok (members, x) ∧
      v = .obj members ∧ rest = x.drop 1 := by
  unfold readFields at h
  split at h
  · cases h
  · next t ht =>
    cases h
    exact Or.inl ⟨t, ht, rfl, rfl⟩
  · next t ht =>
    split at h
    · cases h
    · next key u hkey =>
      split at h
      · next hq =>
        subst hq
        exact Or.inr (Or.inl ⟨t, u, ht, hkey, h⟩)
      · next hq =>
        split at h
        · cases h
        · next first w hfirst =>
          split at h
          · cases h
          · next members x hmembers =>
            cases h
            exact Or.inr (Or.inr ⟨t, key, u, first, w, members, x, ht, hkey, hq, hfirst,
              hmembers, rfl, rfl⟩)

/-- How a value is read that begins with the character `c` and goes on with the text `t`. -/
inductive IsReading (whole : List Char → Except Fault Value) :
    Nat → Char → List Char → Value → List Char → Prop
  | null {depth : Nat} {t rest : List Char} (h : readWord ['u', 'l', 'l'] t = .ok rest) :
    IsReading whole depth 'n' t .null rest
  | true {depth : Nat} {t rest : List Char} (h : readWord ['r', 'u', 'e'] t = .ok rest) :
    IsReading whole depth 't' t (.bool true) rest
  | false {depth : Nat} {t rest : List Char} (h : readWord ['a', 'l', 's', 'e'] t = .ok rest) :
    IsReading whole depth 'f' t (.bool false) rest
  | negative {depth : Nat} {t rest : List Char} {n : Number}
    (h : readNumber false t = .ok (n, rest)) : IsReading whole depth '-' t (.num n) rest
  | positive {depth : Nat} {c : Char} {t rest : List Char} {n : Number} (hc : c.isDigit = true)
    (h : readNumber true (c :: t) = .ok (n, rest)) : IsReading whole depth c t (.num n) rest
  | string {depth : Nat} {t rest : List Char} {str : String}
    (h : readString t = .ok (str, rest)) : IsReading whole depth '"' t (.str str) rest
  | list {depth : Nat} {t rest : List Char} {items : List Value}
    (h : readItems (readNested whole depth) (t.length + 1) true [] t = .ok (items, rest)) :
    IsReading whole (depth + 1) '[' t (.arr items) rest
  | map {depth : Nat} {t rest : List Char} {v : Value}
    (h : readFields whole (readNested whole depth) t = .ok (v, rest)) :
    IsReading whole (depth + 1) '\x7b' t v rest

theorem readNested_cases {depth : Nat} (h : readNested whole depth s = .ok (v, rest)) :
    ∃ c t, skipBlank s = c :: t ∧ IsReading whole depth c t v rest := by
  rw [readNested] at h
  split at h
  · cases h
  next c t hc =>
  refine ⟨c, t, hc, ?_⟩
  split at h
  · next hx =>
    subst hx
    split at h <;> cases h
    exact .null ‹_›
  split at h
  · next hx =>
    subst hx
    split at h <;> cases h
    exact .true ‹_›
  split at h
  · next hx =>
    subst hx
    split at h <;> cases h
    exact .false ‹_›
  split at h
  · next hx =>
    subst hx
    split at h <;> cases h
    exact .negative ‹_›
  split at h
  · next hx =>
    split at h <;> cases h
    exact .positive hx ‹_›
  split at h
  · next hx =>
    subst hx
    split at h <;> cases h
    exact .string ‹_›
  split at h
  · next hx =>
    subst hx
    cases depth with
    | zero => cases h
    | succ depth =>
      dsimp only at h
      split at h <;> cases h
      exact .list ‹_›
  split at h
  · next hx =>
    subst hx
    cases depth with
    | zero => cases h
    | succ depth => exact .map h
  · cases h

theorem readAll_eq_ok {reader : Reader α} {a : α} (h : readAll reader s = .ok a) :
    ∃ rest, reader s = .ok (a, rest) ∧ skipBlank rest = [] := by
  unfold readAll at h
  split at h
  · cases h
  · next rest hread =>
    split at h
    · next hend =>
      cases h
      exact ⟨rest, hread, hend⟩
    · cases h

end

/-! ## Fields of known shapes -/

section
variable {s rest : List Char}

theorem readFormatted_eq_ok {expected : String} {parse : String → Except String α} {a : α}
    (h : readFormatted expected parse s = .ok (a, rest)) :
    ∃ text, readText expected s = .ok (text, rest) ∧ parse text = .ok a := by
  unfold readFormatted at h
  split at h
  · cases h
  · next text _ htext =>
    split at h
    · next hparse =>
      cases h
      exact ⟨text, htext, hparse⟩
    · cases h

/-- A natural number is below the limit, and read like any number. -/
theorem readNatural_eq_ok {limit n : Nat} {expected : String}
    (h : readNatural limit expected s = .ok (n, rest)) :
    n < limit ∧ ∃ c t x, skipBlank s = c :: t ∧
      ((c = '-' ∧ readNumber false t = .ok (x, rest)) ∨
        (c.isDigit = true ∧ readNumber true (c :: t) = .ok (x, rest))) := by
  have hnat : ∀ k : Int, 0 ≤ k ∧ k < limit → k.toNat < limit := by omega
  unfold readNatural at h
  dsimp only at h
  split at h
  · cases h
  next c t hc =>
  split at h
  · next hminus =>
    split at h
    · cases h
    · next x _ hx =>
      split at h
      · split at h <;> cases h
        exact ⟨hnat _ ‹_›, c, t, _, hc, Or.inl ⟨hminus, hx⟩⟩
      · cases h
  split at h
  · next hdigit =>
    split at h
    · cases h
    · next x _ hx =>
      split at h
      · split at h <;> cases h
        exact ⟨hnat _ ‹_›, c, t, _, hc, Or.inr ⟨hdigit, hx⟩⟩
      · cases h
  · cases h

theorem readOption_eq_ok {reader : Reader α} {o : Option α}
    (h : readOption reader s = .ok (o, rest)) :
    (∃ t, skipBlank s = 'n' :: t ∧ readWord ['u', 'l', 'l'] t = .ok rest ∧ o = none) ∨
      ∃ a, reader (skipBlank s) = .ok (a, rest) ∧ o = some a := by
  unfold readOption at h
  split at h
  · next t ht =>
    obtain ⟨u, hnull, he⟩ := map_eq_ok_iff.mp h
    cases he
    exact Or.inl ⟨t, ht, hnull, rfl⟩
  · obtain ⟨⟨a, u⟩, ha, he⟩ := map_eq_ok_iff.mp h
    cases he
    exact Or.inr ⟨a, ha, rfl⟩

theorem readObject_eq_ok {depth : Nat} {members : Members}
    (h : readObject depth s = .ok (members, rest)) :
    ∃ d t x, depth = d + 1 ∧ skipBlank s = '\x7b' :: t ∧
      foldMembers (readMember (readValue d)) (t.length + 1) true [] t = .ok (members, x) ∧
      rest = x.drop 1 := by
  unfold readObject at h
  split at h
  · cases h
  · next t ht =>
    cases depth with
    | zero => cases h
    | succ d =>
      obtain ⟨⟨_, x⟩, hx, he⟩ := map_eq_ok_iff.mp h
      cases he
      exact ⟨d, t, x, rfl, ht, hx, rfl⟩
  · cases h

/-- A name stands for itself, or it is the only key of an object with a `null`. -/
theorem readName_cases {table : List (String × α)} {depth : Nat} {a : α}
    (h : readName table depth s = .ok (a, rest)) :
    (∃ t name, skipBlank s = '"' :: t ∧ readString t = .ok (name, rest)) ∨
    ∃ t u name v w x y, skipBlank s = '\x7b' :: t ∧ skipBlank t = '"' :: u ∧
      readString u = .ok (name, v) ∧ readColon v = .ok w ∧ skipBlank w = 'n' :: x ∧
      readWord ['u', 'l', 'l'] x = .ok y ∧ skipBlank y = '\x7d' :: rest := by
  have hsame : ∀ {b : α} {name : String} {u v : List Char},
      lookUp table name u = .ok (b, v) → v = u := by
    intro b name u v hl
    unfold lookUp at hl
    split at hl <;> cases hl
    rfl
  unfold readName at h
  split at h
  · cases h
  · next t ht =>
    split at h
    · cases h
    · next name u hname =>
      obtain rfl := hsame h
      exact Or.inl ⟨t, name, ht, hname⟩
  · next t ht =>
    split at h
    · cases h
    dsimp only at h
    split at h
    · cases h
    · next u hu =>
      obtain ⟨⟨name, v⟩, hname, h⟩ := bind_eq_ok_iff.mp h
      obtain ⟨⟨b, v'⟩, hlook, h⟩ := bind_eq_ok_iff.mp h
      obtain ⟨w, hcolon, h⟩ := bind_eq_ok_iff.mp h
      dsimp only at h
      split at h
      · cases h
      · next x hx =>
        obtain ⟨y, hnull, h⟩ := bind_eq_ok_iff.mp h
        split at h <;> cases h
        obtain rfl := hsame hlook
        exact Or.inr ⟨t, u, name, _, w, x, y, ht, hu, hname, hcolon, hx, hnull, ‹_›⟩
      · cases h
    · cases h
  · cases h

end

/-! ## Records -/

section
variable {slots : List (Slot σ)} {depth : Nat} {s rest : List Char}

/-- A member of a record's object is none of its fields and passed over, or it is read. -/
theorem readField_cases {key : String} {draft draft' : Draft σ}
    (h : readField slots depth key draft s = .ok (draft', rest)) :
    ∃ t, readColon s = .ok t ∧
      ((skipValue t = .ok rest ∧ draft' = draft) ∨
        ∃ slot ∈ slots, ∃ change, slot.read depth t = .ok (change, rest) ∧
          draft' = ⟨change draft.record, key :: draft.set⟩) := by
  unfold readField at h
  split at h
  · obtain ⟨t, hcolon, h⟩ := bind_eq_ok_iff.mp h
    obtain ⟨u, hskip, h⟩ := bind_eq_ok_iff.mp h
    cases h
    exact ⟨t, hcolon, Or.inl ⟨hskip, rfl⟩⟩
  · next slot hslot =>
    split at h
    · cases h
    · obtain ⟨t, hcolon, h⟩ := bind_eq_ok_iff.mp h
      obtain ⟨⟨change, u⟩, hread, h⟩ := bind_eq_ok_iff.mp h
      cases h
      exact ⟨t, hcolon, Or.inr ⟨slot, List.mem_of_find?_eq_some hslot, change, hread, rfl⟩⟩

/-- The fields of a record in slot order: one is left out, or it is read, and they go on. -/
theorem readSlots_cons {label : String} {count index : Nat} {slot : Slot σ} {record a : σ}
    (h : readSlots label count depth index (slot :: slots) record s = .ok (a, rest)) :
    (∃ t, nextItem (index = 0) s = .ok (false, t) ∧
      readSlots label count depth (index + 1) slots record t = .ok (a, rest)) ∨
    ∃ t change u, nextItem (index = 0) s = .ok (true, t) ∧ slot.read depth t = .ok (change, u) ∧
      readSlots label count depth (index + 1) slots (change record) u = .ok (a, rest) := by
  rw [readSlots] at h
  split at h
  · cases h
  · next t ht =>
    split at h
    · exact Or.inl ⟨t, ht, h⟩
    · cases h
  · next t ht =>
    split at h
    · cases h
    · next change u hread => exact Or.inr ⟨t, change, u, ht, hread, h⟩

/-- A record is written as an object or as an array. -/
theorem readRecord_cases {label : String} {blank a : σ}
    (h : readRecord label slots blank (depth + 1) s = .ok (a, rest)) :
    (∃ t draft u, skipBlank s = '\x7b' :: t ∧
      foldMembers (readField slots depth) (t.length + 1) true ⟨blank, []⟩ t = .ok (draft, u) ∧
      a = draft.record ∧ rest = u.drop 1) ∨
    ∃ t u, skipBlank s = '[' :: t ∧
      readSlots label slots.length depth 0 slots blank t = .ok (a, u) := by
  unfold readRecord at h
  split at h
  · cases h
  · next t ht =>
    dsimp only at h
    split at h
    · cases h
    · next draft u hmembers =>
      split at h
      · cases h
      · cases h
        exact Or.inl ⟨t, draft, u, ht, hmembers, rfl, rfl⟩
  · next t ht =>
    dsimp only at h
    split at h
    · cases h
    · next record u hslots =>
      obtain ⟨v, -, hv⟩ := map_eq_ok_iff.mp h
      cases hv
      exact Or.inr ⟨t, u, ht, hslots⟩
  · cases h

end

end Failsafe.Json
