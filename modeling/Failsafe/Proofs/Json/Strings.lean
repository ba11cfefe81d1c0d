import Failsafe.Json.Reader
/-
  Strings are read back from their quoted form (`readString_quote`), whatever their characters:
  each character costs the reader one escape or one letter.
-/

namespace Failsafe.Json

/-- A hexadecimal digit stands for its value. -/
theorem hexValue_hexDigit : ∀ n, n < 16 → hexValue (hexDigit n) = some n := by decide

theorem readHex_control {c : Char} (h : c.toNat < 32) (s : List Char) :
    readHex ('0' :: '0' :: hexDigit (c.toNat / 16) :: hexDigit (c.toNat % 16) :: s)
      = .ok (c.toNat, s) := by
  have h1 := hexValue_hexDigit (c.toNat / 16) (by omega)
  have h2 := hexValue_hexDigit (c.toNat % 16) (by omega)
  have h0 : hexValue '0' = some 0 := by decide
  have hv : ((0 * 16 + 0) * 16 + c.toNat / 16) * 16 + c.toNat % 16 = c.toNat := by omega
  simp only [readHex, h0, h1, h2, hv]

theorem readEscape_control {c : Char} (h : c.toNat < 32) (s : List Char) :
    readEscape ('u' :: '0' :: '0' :: hexDigit (c.toNat / 16) :: hexDigit (c.toNat % 16) :: s)
      = .ok (c, s) := by
  have hn : ¬ (0xDC00 ≤ c.toNat ∧ c.toNat ≤ 0xDFFF) := by omega
  have hs : c.toNat < 0xD800 ∨ 0xDBFF < c.toNat := by omega
  rw [readEscape, if_pos rfl, readHex_control h]
  simp only [if_neg hn, if_pos hs, Char.ofNat_toNat]

/-- The reader takes back one written character. -/
theorem readChars_escape (n : Nat) (acc : List Char) (c : Char) (s : List Char) :
    readChars (n + 1) acc (escape c ++ s) = readChars n (c :: acc) s := by
  unfold escape
  split
  · next h => subst h; rfl
  split
  · next h => subst h; rfl
  split
  · next h => subst h; rfl
  split
  · next h => subst h; rfl
  split
  · next h => subst h; rfl
  split
  · next h => subst h; rfl
  split
  · next h => subst h; rfl
  split
  · next h =>
    rw [List.cons_append, readChars, if_neg (by decide), if_pos rfl]
    simp only [List.cons_append, List.nil_append, readEscape_control h]
  · next hq hb _ _ _ _ _ hc =>
    rw [List.cons_append, readChars, if_neg hq, if_neg hb, if_neg hc]
    rfl

theorem readChars_flatMap (cs : List Char) (n : Nat) (hn : cs.length < n) (acc s : List Char) :
    readChars n acc (cs.flatMap escape ++ '"' :: s) = .ok (acc.reverse ++ cs, s) := by
  induction cs generalizing n acc with
  | nil =>
    obtain ⟨m, rfl⟩ : ∃ m, n = m + 1 := ⟨n - 1, by simp at hn; omega⟩
    simp [readChars]
  | cons c cs ih =>
    obtain ⟨m, rfl⟩ : ∃ m, n = m + 1 := ⟨n - 1, by omega⟩
    rw [List.flatMap_cons, List.append_assoc, readChars_escape,
      ih m (by simpa using hn), List.reverse_cons, List.append_assoc]
    rfl

theorem length_le_flatMap_escape (cs : List Char) : cs.length ≤ (cs.flatMap escape).length := by
  induction cs with
  | nil => exact Nat.le_refl 0
  | cons c cs ih =>
    have hc : 0 < (escape c).length := by
      unfold escape
      repeat' split
      all_goals simp
    rw [List.flatMap_cons, List.length_append, List.length_cons]
    omega

/-- A string is read back from behind its opening quote. -/
theorem readString_quote (cs s : List Char) :
    readString (cs.flatMap escape ++ '"' :: s) = .ok (String.ofList cs, s) := by
  have hl : cs.length < (cs.flatMap escape ++ '"' :: s).length + 1 := by
    have := length_le_flatMap_escape cs
    rw [List.length_append]
    omega
  unfold readString
  rw [readChars_flatMap cs _ hl]
  rfl

theorem quote_append (cs s : List Char) :
    quote cs ++ s = '"' :: (cs.flatMap escape ++ '"' :: s) := by
  unfold quote
  rw [List.cons_append, List.append_assoc]
  rfl

/-- A string is read back where a string is expected. -/
theorem readText_quote (expected t : String) (s : List Char) :
    readText expected (quote t.toList ++ s) = .ok (t, s) := by
  rw [quote_append]
  show readString (t.toList.flatMap escape ++ '"' :: s) = .ok (t, s)
  rw [readString_quote, String.ofList_toList]

/-! ## Written strings stay on their line -/

theorem lineFeed_not_mem_escape (c : Char) : '\n' ∉ escape c := by
  unfold escape
  split
  · decide
  split
  · decide
  split
  · decide
  split
  · decide
  split
  · decide
  split
  · decide
  split
  · decide
  split
  · next h =>
    have hd : ∀ n, n < 16 → hexDigit n ≠ '\n' := by decide
    have h1 := hd (c.toNat / 16) (by omega)
    have h2 := hd (c.toNat % 16) (by omega)
    simp [Ne.symm h1, Ne.symm h2]
  · next hn _ _ _ =>
    rw [List.mem_singleton]
    exact Ne.symm hn

theorem lineFeed_not_mem_quote (cs : List Char) : '\n' ∉ quote cs := by
  unfold quote
  simp only [List.mem_cons, List.mem_append, List.mem_flatMap, List.not_mem_nil, or_false]
  rintro (h | ⟨c, -, h⟩ | h)
  · exact absurd h (by decide)
  · exact lineFeed_not_mem_escape c h
  · exact absurd h (by decide)

end Failsafe.Json
