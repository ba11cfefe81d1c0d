import Failsafe.Json.Record
/-
  Digits are read as the number that they stand for (`readNumber_digits`), as long as it fits into
  64 bits and something that ends a number follows; so whole numbers are read back
  (`readNumber_natural`). The text of any number, a float or not, is made of few characters
  (`isNumeral_render`).
-/

namespace Failsafe.Json

/-! ## The characters of numbers -/

/-- A character of a number's text; the letters are those of exponents, infinities and of what is
no number. -/
def isNumeral (c : Char) : Bool :=
  c.isDigit || ['-', '+', '.', 'e', 'E', 'i', 'n', 'f', 'N', 'a'].contains c

theorem isNumeral_of_all {l : List Char} (h : l.all isNumeral = true) :
    ∀ c ∈ l, isNumeral c = true :=
  List.all_eq_true.mp h

theorem isNumeral_of_isDigit {c : Char} (h : c.isDigit = true) : isNumeral c = true := by
  rw [isNumeral, h, Bool.true_or]

theorem ne_of_isNumeral {c d : Char} (h : isNumeral c = true) (hd : isNumeral d = false) :
    c ≠ d := by
  rintro rfl
  exact absurd (h.symm.trans hd) (by decide)

/-! ## Where numbers end -/

/-- Nothing follows, or something that ends a value inside a container. -/
def Delimited (s : List Char) : Prop :=
  ∀ c t, s = c :: t → c = ',' ∨ c = ']' ∨ c = '\x7d'

theorem delimited_cons {c : Char} (s : List Char) (h : c = ',' ∨ c = ']' ∨ c = '\x7d') :
    Delimited (c :: s) := by
  intro d t e
  cases e
  exact h

/-- Nothing follows that could be part of a number. -/
def IsEnded (s : List Char) : Prop := ∀ c t, s = c :: t → isNumeral c = false

/-- A number ends where a value does. -/
theorem isEnded_of_delimited {s : List Char} (h : Delimited s) : IsEnded s := by
  intro c t hs
  rcases h c t hs with rfl | rfl | rfl <;> rfl

theorem ne_of_isEnded {c d : Char} {s : List Char} (h : IsEnded (c :: s))
    (hd : isNumeral d = true) : c ≠ d :=
  (ne_of_isNumeral hd (h c s rfl)).symm

theorem isDigit_of_isEnded {c : Char} {s : List Char} (h : IsEnded (c :: s)) :
    c.isDigit = false := by
  cases hd : c.isDigit with
  | false => rfl
  | true => exact absurd rfl (ne_of_isEnded h (isNumeral_of_isDigit hd))

theorem dropWhile_isDigit_of_isEnded {s : List Char} (h : IsEnded s) :
    s.dropWhile Char.isDigit = s := by
  cases s with
  | nil => rfl
  | cons c s =>
    rw [List.dropWhile_cons, isDigit_of_isEnded h]
    rfl

/-! ## Digits -/

theorem isDigit_of_mem_natural {n : Nat} {c : Char} (h : c ∈ Decimal.natural n) :
    c.isDigit = true :=
  Nat.isDigit_of_mem_toDigits (by decide) (by decide) h

theorem natural_eq_digit_cons (n : Nat) :
    ∃ c ds, Decimal.natural n = c :: ds ∧ c.isDigit = true := by
  obtain ⟨c, ds, he⟩ := List.exists_cons_of_ne_nil (Nat.toDigits_ne_nil (n := n) (b := 10))
  refine ⟨c, ds, he, isDigit_of_mem_natural (n := n) ?_⟩
  unfold Decimal.natural
  rw [he]
  exact List.mem_cons_self

theorem natural_succ_digit {n : Nat} (h : 10 ≤ n) :
    Decimal.natural n = Decimal.natural (n / 10) ++ [Nat.digitChar (n % 10)] :=
  Nat.toDigits_of_base_le (by decide) h

theorem natural_of_lt {n : Nat} (h : n < 10) : Decimal.natural n = [Nat.digitChar n] :=
  Nat.toDigits_of_lt_base h

/-- A positive number does not begin with a zero. -/
theorem natural_eq_cons {n : Nat} (h : 0 < n) :
    ∃ c ds, Decimal.natural n = c :: ds ∧ c ≠ '0' ∧ c.isDigit = true := by
  induction n using Nat.strongRecOn with
  | ind n ih =>
    by_cases hn : n < 10
    · refine ⟨Nat.digitChar n, [], natural_of_lt hn, ?_, ?_⟩
      · have := Nat.toNat_digitChar_sub_48_of_lt_ten hn
        intro h0
        rw [h0] at this
        simp at this
        omega
      · exact isDigit_of_mem_natural (n := n) (by rw [natural_of_lt hn]; simp)
    · obtain ⟨c, ds, hd, h0, hc⟩ := ih (n / 10) (by omega) (by omega)
      refine ⟨c, ds ++ [Nat.digitChar (n % 10)], ?_, h0, hc⟩
      rw [natural_succ_digit (by omega), hd]
      rfl

theorem le_ofDigitChars (ds : List Char) (n : Nat) : n ≤ Nat.ofDigitChars 10 ds n := by
  rw [Nat.ofDigitChars_eq_ofDigitChars_zero]
  have : 1 * n ≤ 10 ^ ds.length * n := Nat.mul_le_mul_right n (Nat.one_le_pow _ _ (by decide))
  omega

theorem takeSignificand_of_isEnded (n : Nat) {s : List Char} (hs : IsEnded s) :
    takeSignificand n s = (n, s) := by
  cases s with
  | nil => rfl
  | cons c s =>
    rw [takeSignificand, isDigit_of_isEnded hs]
    rfl

theorem takeSignificand_append {ds : List Char} (hd : ∀ c ∈ ds, c.isDigit = true) {n : Nat}
    (hn : Nat.ofDigitChars 10 ds n < significandLimit) {s : List Char} (hs : IsEnded s) :
    takeSignificand n (ds ++ s) = (Nat.ofDigitChars 10 ds n, s) := by
  induction ds generalizing n with
  | nil => exact takeSignificand_of_isEnded n hs
  | cons c ds ih =>
    have hv : 10 * n + (c.toNat - '0'.toNat) = n * 10 + digit c := by
      rw [Nat.mul_comm]
      rfl
    rw [Nat.ofDigitChars_cons, hv] at hn ⊢
    have hlt : n * 10 + digit c < significandLimit :=
      Nat.lt_of_le_of_lt (le_ofDigitChars ds _) hn
    have hc : c.isDigit = true := hd c List.mem_cons_self
    rw [List.cons_append, takeSignificand, hc, decide_eq_true hlt]
    exact ih (fun d hm => hd d (List.mem_cons_of_mem c hm)) hn

/-- Digits of which only a single one may be a zero in front. -/
theorem readNumber_digits (positive : Bool) {c : Char} {ds s : List Char} (hc : c.isDigit = true)
    (hd : ∀ d ∈ ds, d.isDigit = true) (h0 : c = '0' → ds = [])
    (hn : Nat.ofDigitChars 10 (c :: ds) 0 < Width.bound 64) (hs : IsEnded s) :
    readNumber positive (c :: ds ++ s)
      = .ok (wholeNumber positive (Nat.ofDigitChars 10 (c :: ds) 0), s) := by
  by_cases hz : c = '0'
  · obtain rfl := h0 hz
    subst hz
    cases s with
    | nil => rfl
    | cons d s =>
      rw [List.cons_append, List.nil_append, readNumber, isDigit_of_isEnded hs]
      · rfl
      · exact ne_of_isEnded hs rfl
      · exact ne_of_isEnded hs rfl
      · exact ne_of_isEnded hs rfl
  · have ht := takeSignificand_append (List.forall_mem_cons.mpr ⟨hc, hd⟩) hn hs
    rw [List.cons_append] at ht ⊢
    rw [readNumber]
    · simp only [hc, ht, dropWhile_isDigit_of_isEnded hs]
      cases s with
      | nil => simp
      | cons d s =>
        have hpoint : d ≠ '.' := ne_of_isEnded hs rfl
        have hlower : d ≠ 'e' := ne_of_isEnded hs rfl
        have hupper : d ≠ 'E' := ne_of_isEnded hs rfl
        simp [hpoint, hlower, hupper]
    · exact hz

/-- The digits of a number of 64 bits are read as that number. -/
theorem readNumber_natural (positive : Bool) {n : Nat} (hn : n < Width.bound 64) {s : List Char}
    (hs : Delimited s) :
    readNumber positive (Decimal.natural n ++ s) = .ok (wholeNumber positive n, s) := by
  have hv : Nat.ofDigitChars 10 (Decimal.natural n) 0 = n := Nat.ofDigitChars_ten_toDigits
  have hdigits : ∀ d ∈ Decimal.natural n, d.isDigit = true := fun d => isDigit_of_mem_natural
  obtain ⟨c, ds, he, h0⟩ : ∃ c ds, Decimal.natural n = c :: ds ∧ (c = '0' → ds = []) := by
    by_cases hz : n = 0
    · subst hz
      exact ⟨'0', [], rfl, fun _ => rfl⟩
    · obtain ⟨c, ds, he, hc, -⟩ := natural_eq_cons (Nat.pos_of_ne_zero hz)
      exact ⟨c, ds, he, fun h => absurd h hc⟩
  rw [he] at hv hdigits ⊢
  rw [List.forall_mem_cons] at hdigits
  rw [readNumber_digits positive hdigits.1 hdigits.2 h0 (hv.symm ▸ hn) (isEnded_of_delimited hs),
    hv]

/-! ## The texts of numbers -/

theorem isNumeral_natural (n : Nat) : ∀ c ∈ Decimal.natural n, isNumeral c = true :=
  fun _ hc => isNumeral_of_isDigit (isDigit_of_mem_natural hc)

theorem isNumeral_integer (n : Int) : ∀ c ∈ Decimal.integer n, isNumeral c = true := by
  unfold Decimal.integer
  split
  · rw [List.forall_mem_cons]
    exact ⟨rfl, isNumeral_natural _⟩
  · exact isNumeral_natural _

theorem isNumeral_replicate (n : Nat) : ∀ c ∈ List.replicate n '0', isNumeral c = true := by
  intro c hc
  rw [List.eq_of_mem_replicate hc]
  rfl

theorem isNumeral_digits (style : Decimal.Style) (d : Decimal.Digits) :
    ∀ c ∈ d.write style, isNumeral c = true := by
  have hds := isNumeral_natural d.digits
  have hzeros := isNumeral_replicate
  unfold Decimal.Digits.write
  dsimp only
  split
  · split
    · rw [List.forall_mem_append, List.forall_mem_append]
      refine ⟨⟨hds, hzeros _⟩, ?_⟩
      split <;> exact isNumeral_of_all rfl
    · split
      · rw [List.forall_mem_append, List.forall_mem_cons]
        exact ⟨fun c hc => hds c (List.mem_of_mem_take hc), rfl,
          fun c hc => hds c (List.mem_of_mem_drop hc)⟩
      · rw [List.forall_mem_append, List.forall_mem_cons, List.forall_mem_cons]
        exact ⟨⟨rfl, rfl, hzeros _⟩, hds⟩
  · rw [List.forall_mem_append, List.forall_mem_cons, List.forall_mem_cons]
    refine ⟨?_, rfl, ?_, isNumeral_natural _⟩
    · split
      · exact nofun
      · next c h =>
        rw [h] at hds
        exact hds
      · next c rest _ h =>
        rw [h, List.forall_mem_cons] at hds
        rw [List.forall_mem_cons, List.forall_mem_cons]
        exact ⟨hds.1, rfl, hds.2⟩
    · split <;> rfl

theorem isNumeral_write (style : Decimal.Style) (bits : UInt64) :
    ∀ c ∈ Decimal.write style bits, isNumeral c = true := by
  have hsign : ∀ c ∈ (if Decimal.Binary.isNegative bits then ['-'] else []),
      isNumeral c = true := by
    split <;> exact isNumeral_of_all rfl
  unfold Decimal.write
  dsimp only
  split
  · split
    · rw [List.forall_mem_append]
      exact ⟨hsign, isNumeral_of_all rfl⟩
    · exact isNumeral_of_all rfl
  · split
    · rw [List.forall_mem_append]
      refine ⟨hsign, ?_⟩
      split <;> exact isNumeral_of_all rfl
    · rw [List.forall_mem_append]
      exact ⟨hsign, isNumeral_digits style _⟩

/-- The text of a number has no other characters. -/
theorem isNumeral_render (n : Number) : ∀ c ∈ n.render, isNumeral c = true := by
  cases n with
  | int n => exact isNumeral_integer n
  | float bits => exact isNumeral_write floatStyle bits

end Failsafe.Json
