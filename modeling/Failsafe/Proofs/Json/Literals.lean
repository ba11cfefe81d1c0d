import Failsafe.Proofs.Json.Places
import Mathlib.Data.String.Basic
/-
  Texts in which all numbers are whole.

  If all numbers in a text are whole, in the texts that it quotes too (`isWholeText`), so are all
  numbers in the values that are read from it, and the keys of their objects ascend
  (`yields_isWhole`).
-/

namespace Failsafe.Json

open Stance

/-! ## Members that are inserted -/

theorem isAscending_cons {m : String × Value} {ms : Members} :
    Members.isAscending (m :: ms) = true ↔
      (∀ x ∈ ms, m.1 < x.1) ∧ Members.isAscending ms = true := by
  unfold Members.isAscending
  rw [decide_eq_true_iff, decide_eq_true_iff, List.map_cons, List.pairwise_cons,
    List.forall_mem_map]

theorem isAscending_insert {ms : Members} (h : Members.isAscending ms = true) (k : String)
    (v : Value) : Members.isAscending (ms.insert k v) = true := by
  induction ms with
  | nil => rfl
  | cons held rest ih =>
    obtain ⟨k', v'⟩ := held
    obtain ⟨hfirst, hrest⟩ := isAscending_cons.mp h
    rw [Members.insert]
    split
    · next hlt =>
      refine isAscending_cons.mpr ⟨fun x hx => ?_, h⟩
      rcases List.mem_cons.mp hx with rfl | hx
      · exact hlt
      · exact String.lt_trans hlt (hfirst x hx)
    split
    · next heq =>
      subst heq
      exact isAscending_cons.mpr ⟨hfirst, hrest⟩
    · next hge hne =>
      refine isAscending_cons.mpr ⟨fun x hx => ?_, ih hrest⟩
      rcases mem_of_mem_insert hx with rfl | hx
      · exact lt_of_le_of_ne (not_lt.mp hge) (Ne.symm hne)
      · exact hfirst x hx

/-! ## Parts of values -/

theorem wholeItems_iff {items : List Value} :
    wholeItems items = true ↔ ∀ v ∈ items, v.isWhole = true := by
  induction items with
  | nil => simp [wholeItems]
  | cons v rest ih => rw [wholeItems, Bool.and_eq_true, ih, List.forall_mem_cons]

theorem wholeMembers_iff {ms : Members} :
    wholeMembers ms = true ↔ ∀ m ∈ ms, m.2.isWhole = true := by
  induction ms with
  | nil => simp [wholeMembers]
  | cons m rest ih => rw [wholeMembers, Bool.and_eq_true, ih, List.forall_mem_cons]

/-! ## Numbers -/

/-- A whole number of 64 bits, with a sign or without, but no zero with a sign. -/
def isWholeLiteral : List Char → Bool
  | '-' :: ds => ds.all Char.isDigit && decide (0 < Nat.ofDigitChars 10 ds 0)
    && decide (Nat.ofDigitChars 10 ds 0 ≤ Width.bound 63)
  | ds => ds.all Char.isDigit && decide (Nat.ofDigitChars 10 ds 0 < Width.bound 64)

/-- No number begins here, or one that is whole. The digits in a literal behind its first one are
looked at as well, and stand for less. -/
def hasWholeLiteral : List Char → Bool
  | [] => true
  | c :: s => !(c.isDigit || c == '-') || isWholeLiteral ((c :: s).takeWhile isNumeral)

/-- The text that an object quotes, from behind its opening brace on. -/
def quotedText? (s : List Char) : Option (List Char) := do
  let (more, t) ← (nextKey true s).toOption
  let (key, u) ← (readString t).toOption
  let w ← (readColon u).toOption
  let (text, _) ← (readText "raw value" w).toOption
  if more ∧ key = quotingKey then some text.toList else none

/-- No number begins here that is not whole, and no object that quotes a text other than an
`inner` one. -/
def isWholePlace (inner : List Char → Bool) (s : List Char) : Bool :=
  hasWholeLiteral s && match s with
    | '\x7b' :: t => (quotedText? t).all inner
    | _ => true

/-- All numbers in a text are whole, and in the texts quoted in it, up to `n` texts deep. -/
def isWholeWithin : Nat → List Char → Bool
  | 0, _ => true
  | n + 1, s => (outside 0 false).everywhere (isWholePlace (isWholeWithin n)) s

/-- A place of a text in which all numbers are whole. -/
def isWholeAt : List Char → Bool := isWholePlace fun t => isWholeWithin (t.length + 1) t

/-- All numbers in a text are whole, and in the texts quoted in it. -/
def isWholeText (s : List Char) : Bool := (outside 0 false).everywhere isWholeAt s

theorem eq_of_readNumber {positive : Bool} {ds s rest : List Char} {x : Number}
    (hd : ∀ d ∈ ds, d.isDigit = true) (hn : Nat.ofDigitChars 10 ds 0 < Width.bound 64)
    (hs : IsEnded s) (h : readNumber positive (ds ++ s) = .ok (x, rest)) :
    x = wholeNumber positive (Nat.ofDigitChars 10 ds 0) := by
  cases ds with
  | nil =>
    cases s with
    | nil => cases h
    | cons c s =>
      rw [List.nil_append, readNumber] at h
      · rw [isDigit_of_isEnded hs] at h
        cases h
      · rintro rfl
        exact absurd (isDigit_of_isEnded hs) (by decide)
  | cons c ds =>
    rw [List.forall_mem_cons] at hd
    by_cases h0 : c = '0' → ds = []
    · rw [readNumber_digits positive hd.1 hd.2 h0 hn hs] at h
      cases h
      rfl
    · -- a zero in front of another digit
      rw [Classical.not_imp] at h0
      obtain ⟨rfl, hne⟩ := h0
      obtain ⟨d, ds, rfl⟩ := List.exists_cons_of_ne_nil hne
      have hdigit : d.isDigit = true := hd.2 d List.mem_cons_self
      rw [List.cons_append, List.cons_append, readNumber, hdigit] at h
      · cases h
      · exact ne_of_isDigit hdigit rfl
      · exact ne_of_isDigit hdigit rfl
      · exact ne_of_isDigit hdigit rfl

theorem isEnded_dropWhile (s : List Char) : IsEnded (s.dropWhile isNumeral) := by
  intro c t h
  have hhead := List.head?_dropWhile_not isNumeral s
  rw [h] at hhead
  simpa using hhead

theorem isWhole_of_negative {t rest : List Char} {x : Number}
    (hp : hasWholeLiteral ('-' :: t) = true) (h : readNumber false t = .ok (x, rest)) :
    x.isWhole = true := by
  have hl : isWholeLiteral ('-' :: t.takeWhile isNumeral) = true := hp
  rw [isWholeLiteral, Bool.and_eq_true, Bool.and_eq_true, List.all_eq_true] at hl
  obtain ⟨⟨hd, h0⟩, hn⟩ := hl
  have h0 := of_decide_eq_true h0
  have hn := of_decide_eq_true hn
  have h63 : Width.bound 63 = 9223372036854775808 := by decide
  have h64 : Width.bound 64 = 18446744073709551616 := by decide
  rw [← List.takeWhile_append_dropWhile (p := isNumeral) (l := t)] at h
  have hlow : Nat.ofDigitChars 10 (t.takeWhile isNumeral) 0 < Width.bound 64 := by omega
  have hnot : ¬(Nat.ofDigitChars 10 (t.takeWhile isNumeral) 0 = 0 ∨
      Width.bound 63 < Nat.ofDigitChars 10 (t.takeWhile isNumeral) 0) := by omega
  have hx := eq_of_readNumber hd hlow (isEnded_dropWhile t) h
  rw [wholeNumber, if_neg Bool.false_ne_true, if_neg hnot] at hx
  rw [hx, Number.isWhole, decide_eq_true_iff]
  omega

theorem isWhole_of_positive {c : Char} {t rest : List Char} {x : Number}
    (hp : hasWholeLiteral (c :: t) = true) (hc : c.isDigit = true)
    (h : readNumber true (c :: t) = .ok (x, rest)) : x.isWhole = true := by
  have hl : isWholeLiteral ((c :: t).takeWhile isNumeral) = true := by
    rwa [hasWholeLiteral, hc, Bool.true_or, Bool.not_true, Bool.false_or] at hp
  rw [isWholeLiteral, Bool.and_eq_true, List.all_eq_true] at hl
  · obtain ⟨hd, hn⟩ := hl
    have hn := of_decide_eq_true hn
    rw [← List.takeWhile_append_dropWhile (p := isNumeral) (l := c :: t)] at h
    rw [eq_of_readNumber hd hn (isEnded_dropWhile _) h, wholeNumber, if_pos rfl,
      Number.isWhole, decide_eq_true_iff]
    omega
  · intro ds hds
    rw [List.takeWhile_cons, isNumeral_of_isDigit hc, if_pos rfl] at hds
    exact ne_of_isDigit hc rfl (List.cons.inj hds).1

theorem quotedText?_of_readQuoted {whole : List Char → Except Fault Value}
    {s t u rest : List Char} {v : Value} (hfirst : nextKey true s = .ok (true, t))
    (hkey : readString t = .ok (quotingKey, u)) (h : readQuoted whole u = .ok (v, rest)) :
    ∃ text, quotedText? s = some text ∧ whole text = .ok v := by
  obtain ⟨w, text, r, hcolon, htext, hwhole, -⟩ := readQuoted_eq_ok h
  refine ⟨text.toList, ?_, hwhole⟩
  unfold quotedText?
  rw [hfirst]
  simp [Except.toOption, hkey, hcolon, htext]

theorem isInherited_isWhole {inner : List Char → Bool} {whole : List Char → Except Fault Value}
    (hw : ∀ t v, inner t = true → whole t = .ok v → v.isWhole = true) :
    IsInherited (isWholePlace inner) whole (fun _ v => v.isWhole = true)
      fun _ ms => (Value.obj ms).isWhole = true where
  null _ := rfl
  bool _ _ := rfl
  str _ _ := rfl
  negative _ hp h := isWhole_of_negative (Bool.and_eq_true_iff.mp hp).1 h
  positive _ hp hc h := isWhole_of_positive (Bool.and_eq_true_iff.mp hp).1 hc h
  list h := wholeItems_iff.mpr h
  empty _ := rfl
  insert _ _ _ hv h := by
    rw [Value.isWhole, Bool.and_eq_true, wholeMembers_iff] at h ⊢
    refine ⟨isAscending_insert h.1 _ _, fun m hm => ?_⟩
    rcases mem_of_mem_insert hm with rfl | hm
    · exact hv
    · exact h.2 m hm
  map _ h := h
  quoted _ hs _ hfirst hkey h := by
    obtain ⟨text, htext, hwhole⟩ := quotedText?_of_readQuoted hfirst hkey h
    have hq : (quotedText? _).all inner = true := (Bool.and_eq_true_iff.mp hs).2
    rw [htext] at hq
    exact hw text _ hq hwhole

/-- Texts that are quoted give whole values if all their numbers are whole. -/
theorem isWhole_of_readQuotedText (n : Nat) (s : List Char) (v : Value)
    (hp : isWholeWithin n s = true) (h : readQuotedText n s = .ok v) : v.isWhole = true := by
  induction n generalizing s v with
  | zero => cases h
  | succ n ih =>
    obtain ⟨rest, hread, -⟩ := readAll_eq_ok h
    exact yields_readNested (isInherited_isWhole ih) nestingLimit _ _ _ _ hp hread

/-- Objects that are read from a text in which all numbers are whole hold whole numbers only. -/
theorem yields_isWhole (depth : Nat) :
    Yields isWholeAt (readObject (depth + 1)) fun ms => (Value.obj ms).isWhole = true :=
  yields_readObject (isInherited_isWhole fun _ _ => isWhole_of_readQuotedText _ _ _) depth

/-- The bounds of 64 bits are whole numbers, a zero with a sign and a fraction are not. -/
example : isWholeText "[-9223372036854775808, 18446744073709551615]".toList = true ∧
    isWholeText "[-0]".toList = false ∧ isWholeText "[2.0]".toList = false := by
  decide +kernel

end Failsafe.Json
