import Failsafe.Proofs.Text.Lines
/-
  Texts that are cut after a number of bytes.

  No character begins with all the bytes of another one, so a text that stands in front of a text
  in bytes stands in front of it in characters (`eq_append_of_encode`). Hence the first bytes of a
  text are a text exactly if the cut is between two characters (`decode?_take`). Texts are in the
  order of their bytes (`encode_lt_encode`).
-/

namespace Failsafe

namespace Text

theorem byteLength_append (s t : List Char) :
    byteLength (s ++ t) = byteLength s + byteLength t := by
  induction s with
  | nil => simp [byteLength]
  | cons c s ih =>
    rw [List.cons_append, byteLength, byteLength, ih]
    omega

theorem byteLength_pos {s : List Char} (h : s ≠ []) : 0 < byteLength s := by
  obtain ⟨c, t, rfl⟩ := List.exists_cons_of_ne_nil h
  exact Nat.add_pos_left (Char.utf8Size_pos c) _

theorem splitAt?_byteLength (a b : List Char) : splitAt? (byteLength a) (a ++ b) = some (a, b) := by
  induction a with
  | nil => cases b <;> rfl
  | cons c a ih =>
    have hc := c.utf8Size_pos
    rw [List.cons_append, byteLength, splitAt?, if_neg (by omega), if_neg (by omega),
      Nat.add_sub_cancel_left, ih]
    rfl

theorem eq_append_of_splitAt? {n : Nat} {s a b : List Char} (h : splitAt? n s = some (a, b)) :
    s = a ++ b ∧ byteLength a = n := by
  induction s generalizing n a with
  | nil =>
    rw [splitAt?] at h
    split at h
    · next hn =>
      cases h
      exact ⟨rfl, hn.symm⟩
    · cases h
  | cons c s ih =>
    rw [splitAt?] at h
    split at h
    · next hn =>
      cases h
      exact ⟨rfl, hn.symm⟩
    split at h
    · cases h
    · obtain ⟨⟨front, back⟩, hcut, hab⟩ := Option.map_eq_some_iff.mp h
      cases hab
      obtain ⟨rfl, hlen⟩ := ih hcut
      refine ⟨rfl, ?_⟩
      rw [byteLength, hlen]
      omega

/-- A text is cut into two parts, the first of which has so many bytes. -/
theorem splitAt?_eq_some_iff {n : Nat} {s a b : List Char} :
    splitAt? n s = some (a, b) ↔ s = a ++ b ∧ byteLength a = n := by
  constructor
  · exact eq_append_of_splitAt?
  · rintro ⟨rfl, rfl⟩
    exact splitAt?_byteLength a b

end Text

namespace Bytes

theorem length_encode (s : List Char) : (encode s).length = Text.byteLength s := by
  induction s with
  | nil => rfl
  | cons c s ih =>
    rw [encode_cons, List.length_append, ih, String.length_utf8EncodeChar]
    rfl

/-- What bytes begin with tells the first character. -/
theorem utf8EncodeChar_append_inj {c d : Char} {b b' : Bytes}
    (h : String.utf8EncodeChar c ++ b = String.utf8EncodeChar d ++ b') : c = d ∧ b = b' := by
  have hdecode : ∀ (x : Char) (l : Bytes),
      (String.utf8EncodeChar x ++ l).toByteArray.utf8DecodeChar? 0 = some x := by
    intro x l
    rw [List.toByteArray_append]
    exact ByteArray.utf8DecodeChar?_utf8EncodeChar_append
  have hcd : c = d := Option.some.inj ((hdecode c b).symm.trans (h ▸ hdecode d b'))
  subst hcd
  exact ⟨rfl, List.append_cancel_left h⟩

theorem eq_append_of_encode {t s : List Char} {b : Bytes} (h : encode t ++ b = encode s) :
    ∃ u, s = t ++ u ∧ b = encode u := by
  induction t generalizing s with
  | nil => exact ⟨s, rfl, h⟩
  | cons c t ih =>
    cases s with
    | nil =>
      rw [encode_cons, List.append_assoc] at h
      exact absurd (List.append_eq_nil_iff.mp h).1 String.utf8EncodeChar_ne_nil
    | cons d s =>
      rw [encode_cons, encode_cons, List.append_assoc] at h
      obtain ⟨rfl, hrest⟩ := utf8EncodeChar_append_inj h
      obtain ⟨u, rfl, hu⟩ := ih hrest
      exact ⟨u, rfl, hu⟩

/-- What stands in a text in front of a byte below 128 is a text. -/
theorem exists_encode_of_append {a b : Bytes} {x : UInt8} {s : List Char} (hx : x.toNat < 128)
    (h : a ++ x :: b = encode s) : ∃ t, a = encode t := by
  induction s generalizing a with
  | nil => exact absurd (List.append_eq_nil_iff.mp h).2 (List.cons_ne_nil x b)
  | cons c s ih =>
    rw [encode_cons] at h
    rcases List.append_eq_append_iff.mp h with ⟨m, hc, hm⟩ | ⟨m, rfl, hs⟩
    · cases m with
      | nil =>
        rw [List.append_nil] at hc
        exact ⟨[c], by rw [encode_cons, hc]; exact (List.append_nil a).symm⟩
      | cons y m =>
        -- the byte is one of the character's, which then has no other
        obtain rfl := (List.cons.inj hm).1
        have hmem : x ∈ String.utf8EncodeChar c := by rw [hc]; simp
        have hval := toNat_eq_of_mem_utf8EncodeChar hmem hx
        have hascii : c.toNat ≤ 127 := by omega
        have hsize : c.utf8Size = 1 := Char.utf8Size_eq_one_iff.mpr hascii
        have hlength := congrArg List.length hc
        rw [String.length_utf8EncodeChar, hsize, List.length_append, List.length_cons] at hlength
        exact ⟨[], List.length_eq_zero_iff.mp (by omega)⟩
    · obtain ⟨t, rfl⟩ := ih hs.symm
      exact ⟨c :: t, (encode_cons c t).symm⟩

/-- The first bytes of a text are the text in front of a cut between two characters. -/
theorem decode?_take {n : Nat} {s : List Char} (hn : n ≤ (encode s).length) :
    decode? ((encode s).take n) = (Text.splitAt? n s).map Prod.fst := by
  cases hs : Text.splitAt? n s with
  | some cut =>
    obtain ⟨rfl, hlen⟩ := Text.splitAt?_eq_some_iff.mp hs
    rw [encode_append, ← hlen, ← length_encode, List.take_left, decode?_encode]
    rfl
  | none =>
    cases hd : decode? ((encode s).take n) with
    | none => rfl
    | some t =>
      have ht := decode?_eq_some_iff.mp hd
      have happ : encode t ++ (encode s).drop n = encode s := by
        rw [← ht, List.take_append_drop]
      obtain ⟨u, rfl, -⟩ := eq_append_of_encode happ
      have hlen : Text.byteLength t = n := by
        rw [← length_encode, ← ht, List.length_take, Nat.min_eq_left hn]
      rw [Text.splitAt?_eq_some_iff.mpr ⟨rfl, hlen⟩] at hs
      cases hs

/-! ## The order of texts -/

/-- Of two numbers with the base 64 the last digits decide only where the others are the same. -/
theorem digits_lt {m n : Nat} (h : m < n) :
    m / 64 < n / 64 ∨ m / 64 = n / 64 ∧ m % 64 < n % 64 := by
  omega

/-- The bytes of a character come before those of a greater one, whatever stands behind them. -/
theorem utf8EncodeChar_append_lt {c d : Char} (h : c < d) (b b' : Bytes) :
    String.utf8EncodeChar c ++ b < String.utf8EncodeChar d ++ b' := by
  have hlt : c.val.toNat < d.val.toNat := h
  have hmax : d.val.toNat < 1114112 := by
    have hv := d.valid
    simp only [UInt32.isValidChar, Nat.isValidChar] at hv
    omega
  unfold String.utf8EncodeChar
  dsimp only
  -- behind the first byte there are digits with the base 64, one in each byte
  rcases digits_lt hlt with h | h
  rcases digits_lt h with h' | h'
  all_goals repeat' split
  all_goals
    simp only [List.cons_append, List.nil_append, List.cons_lt_cons_iff, UInt8.lt_iff_toNat_lt,
      ← UInt8.toNat_inj, UInt8.toNat_ofNat']
    omega

theorem encode_lt_encode {s t : List Char} (h : s < t) : encode s < encode t := by
  induction s generalizing t with
  | nil =>
    cases t with
    | nil => exact absurd h (List.lt_irrefl [])
    | cons d t =>
      obtain ⟨b, rest, hb⟩ := List.exists_cons_of_ne_nil (encode_ne_nil (List.cons_ne_nil d t))
      rw [hb]
      exact List.nil_lt_cons b rest
  | cons c s ih =>
    cases t with
    | nil => exact absurd h (List.not_lt_nil _)
    | cons d t =>
      rw [encode_cons, encode_cons]
      rcases List.cons_lt_cons_iff.mp h with hcd | ⟨rfl, hst⟩
      · exact utf8EncodeChar_append_lt hcd _ _
      · exact List.append_left_lt (ih hst)

end Bytes

end Failsafe
