import Failsafe.Proofs.Json.Balance
import Failsafe.Proofs.Json.Legible
/-
  What is true of everything that is read, because of what is true of all places of its text.

  The places of a text are the points outside of its strings: in front of a number, of a bracket or
  of the quote that opens a string. If all of them satisfy `p` (`Stance.everywhere`), so do those
  that a reader comes to. What values inherit from such a text is said by what is done with the
  parts of a value (`IsInherited`); `yields_readNested` is the induction over the value, and
  `yields_readRecord` goes on from the fields of a record to the record.
-/

namespace Failsafe.Json

namespace Stance

/-- Not in a string. -/
def isOutside : Stance → Bool
  | outside _ _ => true
  | _ => false

/-- All places of a text satisfy `p`, as far as the text can be followed. -/
def everywhere (p : List Char → Bool) : Stance → List Char → Bool
  | _, [] => true
  | a, c :: s => (!a.isOutside || p (c :: s)) && (a.next c).all fun b => b.everywhere p s

end Stance

open Stance

section
variable {p : List Char → Bool}

theorem everywhere_cons {a : Stance} {c : Char} {s : List Char} :
    a.everywhere p (c :: s) = true ↔
      (a.isOutside = true → p (c :: s) = true) ∧
        ∀ b, a.next c = some b → b.everywhere p s = true := by
  rw [everywhere, Bool.and_eq_true, Option.all_eq_true]
  cases a.isOutside <;> simp

theorem at_of_everywhere {d : Nat} {behind : Bool} {c : Char} {s : List Char}
    (h : (outside d behind).everywhere p (c :: s) = true) : p (c :: s) = true :=
  (everywhere_cons.mp h).1 rfl

/-- The places behind a part of a text are places of the text. -/
theorem everywhere_of_scans {a b : Stance} {s t : List Char} (h : a.everywhere p s = true)
    (hs : Scans a s b t) : b.everywhere p t = true := by
  obtain ⟨used, rfl, hfollow⟩ := hs
  induction used generalizing a with
  | nil =>
    obtain rfl := Option.some.inj hfollow
    exact h
  | cons c used ih =>
    rw [follow_cons] at hfollow
    obtain ⟨a', ha, hrest⟩ := Option.bind_eq_some_iff.mp hfollow
    exact ih hrest ((everywhere_cons.mp h).2 a' ha)

/-! ## Readers -/

/-- What a reader gives satisfies `Q`, if all places of the text satisfy `p`. -/
def Yields (p : List Char → Bool) (reader : Reader α) (Q : α → Prop) : Prop :=
  ∀ d s a rest, (outside d false).everywhere p s = true → reader s = .ok (a, rest) → Q a

/-- What a reader behind a key gives satisfies `I` if what it is given does. -/
def Keeps (p : List Char → Bool) (member : String → σ → Reader σ) (I : σ → Prop) : Prop :=
  ∀ d t key u a a' rest, p ('"' :: t) = true → readString t = .ok (key, u) →
    (outside d true).everywhere p u = true → I a → member key a u = .ok (a', rest) → I a'

theorem yields_true (reader : Reader α) : Yields p reader fun _ => True :=
  fun _ _ _ _ _ _ => trivial

variable {d n : Nat} {first behind : Bool} {s rest : List Char}

theorem forall_of_readItems {item : Reader α} {Q : α → Prop} (hb : IsBalanced item)
    (hy : Yields p item Q) {acc l : List α} (hf : first = true → behind = false)
    (hp : (outside (d + 1) behind).everywhere p s = true) (ha : ∀ a ∈ acc, Q a)
    (h : readItems item n first acc s = .ok (l, rest)) : ∀ a ∈ l, Q a := by
  induction n generalizing s first behind acc with
  | zero => cases h
  | succ n ih =>
    obtain ⟨m, hn, ⟨t, -, rfl, -⟩ | ⟨t, a, u, ht, hitem, hrest⟩⟩ := readItems_cases h
    · exact fun a hm => ha a (List.mem_reverse.mp hm)
    · obtain rfl := Nat.succ.inj hn
      have hpt := everywhere_of_scans hp (scans_nextItem hf ht)
      obtain ⟨behind', hs'⟩ := hb _ _ _ hitem (d + 1)
      exact ih (absurd · Bool.false_ne_true) (everywhere_of_scans hpt hs')
        (List.forall_mem_cons.mpr ⟨hy _ _ _ _ hpt hitem, ha⟩) hrest

theorem holds_of_foldMembers {member : String → σ → Reader σ} {I : σ → Prop}
    (hb : ∀ k a, IsMember (member k a)) (hk : Keeps p member I) {a a' : σ}
    (hf : first = true → behind = false) (hp : (outside d behind).everywhere p s = true) (ha : I a)
    (h : foldMembers member n first a s = .ok (a', rest)) : I a' := by
  induction n generalizing s first behind a with
  | zero => cases h
  | succ n ih =>
    obtain ⟨m, hn, ⟨-, rfl⟩ | ⟨t, key, u, next, v, ht, hkey, hmember, hrest⟩⟩ :=
      foldMembers_cases h
    · exact ha
    · obtain rfl := Nat.succ.inj hn
      have hs := scans_nextKey (d := d) hf ht
      have hpt := at_of_everywhere (everywhere_of_scans hp hs)
      have hpu := everywhere_of_scans hp (scans_key hs hkey)
      obtain ⟨behind', hs'⟩ := hb _ _ _ _ _ hmember d
      exact ih (absurd · Bool.false_ne_true) (everywhere_of_scans hpu hs')
        (hk _ _ _ _ _ _ _ hpt hkey hpu ha hmember) hrest

end

/-! ## Values of any shape -/

/-- What a value may be said to be if it is read from a text all places of which satisfy `p`: `P`
for values and `M` for the members of objects, where so many containers may still be opened. -/
structure IsInherited (p : List Char → Bool) (whole : List Char → Except Fault Value)
    (P : Nat → Value → Prop) (M : Nat → Members → Prop) : Prop where
  null (depth : Nat) : P depth .null
  bool (depth : Nat) (b : Bool) : P depth (.bool b)
  str (depth : Nat) (text : String) : P depth (.str text)
  negative {t rest : List Char} {x : Number} (depth : Nat) (hp : p ('-' :: t) = true)
    (h : readNumber false t = .ok (x, rest)) : P depth (.num x)
  positive {c : Char} {t rest : List Char} {x : Number} (depth : Nat) (hp : p (c :: t) = true)
    (hc : c.isDigit = true) (h : readNumber true (c :: t) = .ok (x, rest)) : P depth (.num x)
  list {depth : Nat} {items : List Value} (h : ∀ v ∈ items, P depth v) :
    P (depth + 1) (.arr items)
  empty (depth : Nat) : M depth []
  insert {depth : Nat} {t u w : List Char} {key : String} {v : Value} {members : Members}
    (hp : p ('"' :: t) = true) (hkey : readString t = .ok (key, u)) (hcolon : readColon u = .ok w)
    (hv : P depth v) (h : M depth members) : M depth (members.insert key v)
  map {depth : Nat} {members : Members} (hne : ∀ t, Value.obj members ≠ quotation t)
    (h : M depth members) : P (depth + 1) (.obj members)
  quoted {s t u rest : List Char} {v : Value} (depth : Nat) (hs : p ('{' :: s) = true)
    (ht : p ('"' :: t) = true) (hfirst : nextKey true s = .ok (true, t))
    (hkey : readString t = .ok (quotingKey, u)) (h : readQuoted whole u = .ok (v, rest)) :
    P (depth + 1) v

section
variable {p : List Char → Bool} {whole : List Char → Except Fault Value}
  {P : Nat → Value → Prop} {M : Nat → Members → Prop} {depth : Nat}

theorem keeps_readMember (h : IsInherited p whole P M) {value : Reader Value}
    (hy : Yields p value (P depth)) : Keeps p (readMember value) (M depth) := by
  intro d t key u members members' rest hp hkey hpu hm hr
  obtain ⟨w, v, hcolon, hvalue, rfl⟩ := readMember_eq_ok hr
  have hpw := everywhere_of_scans hpu (scans_readColon hcolon)
  exact h.insert hp hkey hcolon (hy _ _ _ _ hpw hvalue) hm

theorem yields_readFields (h : IsInherited p whole P M) {value : Reader Value}
    (hb : IsBalanced value) (hy : Yields p value (P depth)) {d : Nat} {s rest : List Char}
    {v : Value} (hs : p ('{' :: s) = true) (hp : (outside (d + 1) false).everywhere p s = true)
    (hr : readFields whole value s = .ok (v, rest)) : P (depth + 1) v := by
  have hkeeps := keeps_readMember h hy
  rcases readFields_cases hr with ⟨t, -, rfl, -⟩ | ⟨t, u, ht, hkey, hquoted⟩ |
    ⟨t, key, u, first, w, members, x, ht, hkey, hne, hfirst, hmembers, rfl, -⟩
  · exact h.map nofun (h.empty depth)
  · exact h.quoted depth hs (at_of_everywhere (everywhere_of_scans hp
      (scans_nextKey (fun _ => rfl) ht))) ht hkey hquoted
  · have hscan := scans_nextKey (d := d + 1) (fun _ => rfl) ht
    have hpt := at_of_everywhere (everywhere_of_scans hp hscan)
    have hpu := everywhere_of_scans hp (scans_key hscan hkey)
    obtain ⟨behind, hscan'⟩ := isMember_readMember hb _ _ _ _ _ hfirst (d + 1)
    have hother := hasOtherKey_of_readMember hfirst (Or.inr hne)
    refine h.map (ne_quotation_of_hasOtherKey (hasOtherKey_of_foldMembers hother hmembers))
      (holds_of_foldMembers (isMember_readMember hb) hkeeps (absurd · Bool.false_ne_true)
        (everywhere_of_scans hpu hscan') ?_ hmembers)
    exact hkeeps _ _ _ _ _ _ _ hpt hkey hpu (h.empty depth) hfirst

/-- A value has what values inherit from a text, if those in its containers do. -/
theorem yields_readNested_of (h : IsInherited p whole P M)
    (hinner : ∀ depth', depth = depth' + 1 → Yields p (readNested whole depth') (P depth')) :
    Yields p (readNested whole depth) (P depth) := by
  intro d s v rest hp hr
  obtain ⟨c, t, hc, hread⟩ := readNested_cases hr
  have hpc := everywhere_of_scans hp (scans_blank d s)
  rw [hc] at hpc
  have hat := at_of_everywhere hpc
  cases hread with
  | null _ => exact h.null depth
  | true _ => exact h.bool depth true
  | false _ => exact h.bool depth false
  | negative hn => exact h.negative depth hat hn
  | positive hdigit hn => exact h.positive depth hat hdigit hn
  | string _ => exact h.str depth _
  | list hitems =>
    have hpt := everywhere_of_scans hpc (scans_opening rfl t)
    exact h.list (forall_of_readItems (isBalanced_readNested whole _) (hinner _ rfl)
      (fun _ => rfl) hpt (List.forall_mem_nil _) hitems)
  | map hfields =>
    have hpt := everywhere_of_scans hpc (scans_opening rfl t)
    exact yields_readFields h (isBalanced_readNested whole _) (hinner _ rfl) hat hpt hfields

theorem yields_readNested (h : IsInherited p whole P M) (depth : Nat) :
    Yields p (readNested whole depth) (P depth) := by
  induction depth with
  | zero => exact yields_readNested_of h nofun
  | succ depth ih =>
    refine yields_readNested_of h fun depth' hd => ?_
    obtain rfl := Nat.succ.inj hd
    exact ih

/-- A plain object has what the members of objects inherit, whatever its first key. -/
theorem yields_readObject (h : IsInherited p (fun s => readQuotedText (s.length + 1) s) P M)
    (depth : Nat) : Yields p (readObject (depth + 1)) (M depth) := by
  intro d s members rest hp hr
  have hpc := everywhere_of_scans hp (scans_blank d s)
  obtain ⟨depth', t, x, hdepth, ht, hmembers, -⟩ := readObject_eq_ok hr
  obtain rfl := Nat.succ.inj hdepth
  rw [ht] at hpc
  exact holds_of_foldMembers (isMember_readMember (isBalanced_readNested _ depth))
    (keeps_readMember h (yields_readNested h depth)) (fun _ => rfl)
    (everywhere_of_scans hpc (scans_opening rfl t)) (h.empty depth) hmembers

end

/-! ## Fields and records -/

section
variable {p : List Char → Bool}

theorem yields_readFormatted (expected : String) (parse : String → Except String α) :
    Yields p (readFormatted expected parse) fun a => ∃ text, parse text = .ok a := by
  intro d s a rest _ h
  obtain ⟨text, -, hparse⟩ := readFormatted_eq_ok h
  exact ⟨text, hparse⟩

theorem yields_readNatural (limit : Nat) (expected : String) :
    Yields p (readNatural limit expected) fun n => n < limit :=
  fun _ _ _ _ _ h => (readNatural_eq_ok h).1

theorem yields_readOption {reader : Reader α} {Q : α → Prop} (h : Yields p reader Q) :
    Yields p (readOption reader) fun o => ∀ a, o = some a → Q a := by
  intro d s o rest hp hr a ha
  have hpb := everywhere_of_scans hp (scans_blank d s)
  rcases readOption_eq_ok hr with ⟨t, -, -, ho⟩ | ⟨b, hb, ho⟩
  · cases ho.symm.trans ha
  · obtain rfl := Option.some.inj (ho.symm.trans ha)
    exact h _ _ _ _ hpb hb

/-- A stored field keeps what is true of a record, whatever it is read as. -/
theorem yields_store {name : String} {presence : Presence} {reader : Nat → Reader α}
    {set : α → σ → σ} {depth : Nat} {Q : α → Prop} {R : σ → Prop} (h : Yields p (reader depth) Q)
    (hset : ∀ a, Q a → ∀ r, R r → R (set a r)) :
    Yields p ((Slot.store name presence reader set).read depth)
      fun change => ∀ r, R r → R (change r) := by
  intro d s change rest hp hr
  obtain ⟨⟨a, t⟩, ha, he⟩ := map_eq_ok_iff.mp hr
  cases he
  exact hset a (h _ _ _ _ hp ha)

variable {slots : List (Slot σ)} {depth : Nat} {R : σ → Prop}

theorem holds_of_readSlots {label : String} {count d index : Nat} {behind : Bool} {record a : σ}
    {s rest : List Char} (hb : ∀ slot ∈ slots, ∀ depth, IsBalanced (slot.read depth))
    (hy : ∀ slot ∈ slots, Yields p (slot.read depth) fun change => ∀ r, R r → R (change r))
    (hf : index = 0 → behind = false) (hp : (outside d behind).everywhere p s = true)
    (hr : R record) (h : readSlots label count depth index slots record s = .ok (a, rest)) :
    R a := by
  induction slots generalizing index behind record s with
  | nil =>
    cases h
    exact hr
  | cons slot slots ih =>
    rw [List.forall_mem_cons] at hb hy
    have hfirst : decide (index = 0) = true → behind = false := fun hi => hf (of_decide_eq_true hi)
    rcases readSlots_cons h with ⟨t, ht, hrest⟩ | ⟨t, change, u, ht, hread, hrest⟩
    · obtain ⟨behind', u, -, hs⟩ := scans_lastItem (d := d) ht
      exact ih hb.2 hy.2 (absurd · (Nat.succ_ne_zero index)) (everywhere_of_scans hp hs) hr hrest
    · have hpt := everywhere_of_scans hp (scans_nextItem hfirst ht)
      obtain ⟨behind', hs'⟩ := hb.1 depth _ _ _ hread d
      exact ih hb.2 hy.2 (absurd · (Nat.succ_ne_zero index)) (everywhere_of_scans hpt hs')
        (hy.1 _ _ _ _ hpt hread record hr) hrest

/-- A record in either of its forms has what its fields keep. -/
theorem yields_readRecord {label : String} {blank : σ}
    (hb : ∀ slot ∈ slots, ∀ depth, IsBalanced (slot.read depth))
    (hy : ∀ slot ∈ slots, Yields p (slot.read depth) fun change => ∀ r, R r → R (change r))
    (h : R blank) : Yields p (readRecord label slots blank (depth + 1)) R := by
  intro d s a rest hp hr
  have hpb := everywhere_of_scans hp (scans_blank d s)
  rcases readRecord_cases hr with ⟨t, draft, u, ht, hmembers, rfl, -⟩ | ⟨t, u, ht, hslots⟩
  · rw [ht] at hpb
    refine holds_of_foldMembers (I := fun draft => R draft.record)
      (isMember_readField hb depth) ?_ (fun _ => rfl)
      (everywhere_of_scans hpb (scans_opening rfl t)) h hmembers
    intro d t key u draft draft' rest _ _ hpu hd hfield
    obtain ⟨w, hcolon, ⟨-, rfl⟩ | ⟨slot, hslot, change, hread, rfl⟩⟩ := readField_cases hfield
    · exact hd
    · exact hy slot hslot _ _ _ _ (everywhere_of_scans hpu (scans_readColon hcolon)) hread _ hd
  · rw [ht] at hpb
    exact holds_of_readSlots hb hy (fun _ => rfl)
      (everywhere_of_scans hpb (scans_opening rfl t)) h hslots

theorem holds_of_decode {reader : Nat → Reader α} {Q : α → Prop} {text : String} {a : α}
    (hy : Yields p (reader nestingLimit) Q)
    (hp : (outside 0 false).everywhere p text.toList = true) (h : decode reader text = .ok a) :
    Q a := by
  obtain ⟨rest, hread, -⟩ := readAll_eq_ok h
  exact hy _ _ _ _ hp hread

end

end Failsafe.Json
