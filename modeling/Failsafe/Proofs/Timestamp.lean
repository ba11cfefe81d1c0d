import Failsafe.Proofs.Except
import Failsafe.Timestamp
/-
  Timestamps are read back from their written form (`parse_write`), leap seconds and years of more
  than four digits included. Whatever else is read as a timestamp is a point in time that exists
  (`isValid_of_parse`).
-/

namespace Failsafe.Timestamp

/-- The fields are those of a point in time. -/
def isValid (t : Timestamp) : Bool :=
  t.date.isValid && decide (t.hour < 24) && decide (t.minute < 60) && decide (t.second ≤ 60)
    && decide (t.nanos < 1000000000)

/-! ## Digits -/

theorem numberOf_eq (ds : List Char) : numberOf ds = Nat.ofDigitChars 10 ds 0 := by
  have h : ∀ n, ds.foldl (fun n c => n * 10 + digitValue c) n = Nat.ofDigitChars 10 ds n := by
    induction ds with
    | nil => exact fun _ => rfl
    | cons c ds ih =>
      intro n
      rw [List.foldl_cons, Nat.ofDigitChars_cons, ih, Nat.mul_comm]
      rfl
  exact h 0

theorem isDigit_of_mem_padded {w n : Nat} {c : Char} (h : c ∈ padded w n) : c.isDigit = true := by
  unfold padded at h
  rcases List.mem_append.mp h with h | h
  · rw [(List.mem_replicate.mp h).2]
    rfl
  · exact Nat.isDigit_of_mem_toDigits (by decide) (by decide) h

theorem numberOf_padded (w n : Nat) : numberOf (padded w n) = n := by
  rw [numberOf_eq, padded, Nat.ofDigitChars_append, Nat.ofDigitChars_replicate_zero,
    Nat.mul_zero]
  exact Nat.ofDigitChars_ten_toDigits

theorem length_padded {w n : Nat} (hw : 0 < w) (h : n < Nat.pow 10 w) :
    (padded w n).length = w := by
  have hl : (Decimal.natural n).length ≤ w := (Nat.length_toDigits_le_iff (by decide) hw).mpr h
  unfold padded
  rw [List.length_append, List.length_replicate]
  omega

/-- A padded number begins with a digit. -/
theorem padded_eq_cons (w n : Nat) : ∃ c t, padded w n = c :: t ∧ c.isDigit = true := by
  have hne : padded w n ≠ [] := by
    unfold padded
    exact fun h => Nat.toDigits_ne_nil (List.append_eq_nil_iff.mp h).2
  obtain ⟨c, t, he⟩ := List.exists_cons_of_ne_nil hne
  exact ⟨c, t, he, isDigit_of_mem_padded (w := w) (n := n) (by rw [he]; exact List.mem_cons_self)⟩

theorem isSpace_of_isDigit {c : Char} (h : c.isDigit = true) : Text.isSpace c = false := by
  rw [Char.isDigit, Bool.and_eq_true, decide_eq_true_iff, decide_eq_true_iff] at h
  have h1 : 48 ≤ c.toNat := h.1
  have h2 : c.toNat ≤ 57 := h.2
  simp [Text.isSpace]
  omega

theorem trimStart_cons {c : Char} (h : Text.isSpace c = false) (s : List Char) :
    Text.trimStart (c :: s) = c :: s := by
  unfold Text.trimStart
  rw [List.dropWhile_cons, h]
  rfl

theorem trimStart_padded (w n : Nat) (s : List Char) :
    Text.trimStart (padded w n ++ s) = padded w n ++ s := by
  obtain ⟨c, t, he, hc⟩ := padded_eq_cons w n
  rw [he, List.cons_append, trimStart_cons (isSpace_of_isDigit hc)]

/-- The next character is no digit, if there is one. -/
def Ends (s : List Char) : Prop := ∀ c t, s = c :: t → c.isDigit = false

theorem ends_cons {c : Char} (h : c.isDigit = false) (s : List Char) : Ends (c :: s) := by
  intro d t he
  cases he
  exact h

theorem leadingDigits_append {ds s : List Char} {most : Nat} (hd : ∀ c ∈ ds, c.isDigit = true)
    (hl : ds.length ≤ most) (hs : Ends s) : leadingDigits most (ds ++ s) = ds := by
  induction ds generalizing most with
  | nil =>
    cases most with
    | zero => rfl
    | succ n =>
      cases s with
      | nil => rfl
      | cons c s =>
        rw [List.nil_append, leadingDigits, hs c s rfl]
        rfl
  | cons c ds ih =>
    obtain ⟨n, rfl⟩ : ∃ n, most = n + 1 := ⟨most - 1, by rw [List.length_cons] at hl; omega⟩
    rw [List.cons_append, leadingDigits, hd c List.mem_cons_self, if_pos rfl,
      ih (fun d hm => hd d (List.mem_cons_of_mem c hm)) (by simpa using hl)]

/-- A padded number is read back as far as digits are wanted. -/
theorem readNumber_padded {w n m : Nat} {s : List Char} (hn : n < Width.bound 63)
    (hl : (padded w n).length ≤ m) (hs : Ends s) :
    readNumber m (padded w n ++ s) = .ok (n, s) := by
  obtain ⟨c, t, he, -⟩ := padded_eq_cons w n
  have hd : leadingDigits m (padded w n ++ s) = padded w n :=
    leadingDigits_append (fun c => isDigit_of_mem_padded) hl hs
  have h1 : (padded w n ++ s).isEmpty = false := by
    rw [he]
    rfl
  have h2 : (padded w n).isEmpty = false := by
    rw [he]
    rfl
  unfold readNumber
  simp only [hd, h1, h2, numberOf_padded, if_neg (Nat.not_le.mpr hn), List.drop_left]
  rfl

/-! ## Fields -/

theorem width63 : Width.bound 63 = 9223372036854775808 := by decide

theorem readField_padded {l g n : Nat} {s : List Char} (hl : l ≤ n)
    (hg : n ≤ g) (hn : n < 100) (hs : Ends s) :
    readField l g (padded 2 n ++ s) = .ok (n, s) := by
  have hr := readNumber_padded (w := 2) (m := 2) (by rw [width63]; omega)
    (Nat.le_of_eq (length_padded (by decide) hn)) hs
  unfold readField
  rw [trimStart_padded]
  simp only [hr, if_pos (And.intro hl hg)]

theorem readMark_cons {c : Char} (h : Text.isSpace c = false) (s : List Char) :
    readMark c (c :: s) = .ok s := by
  unfold readMark
  rw [trimStart_cons h]
  simp only [if_pos]

theorem readYear_writeYear {y : Int} (hl : -262143 ≤ y) (hg : y ≤ 262142) {s : List Char}
    (hs : Ends s) : readYear (writeYear y ++ s) = .ok (y, s) := by
  have h31 : Width.bound 31 = 2147483648 := by decide
  have hb : -(Width.bound 31 : Int) ≤ y ∧ y < Width.bound 31 := by omega
  have hlong : (padded 4 y.natAbs).length ≤ (padded 4 y.natAbs ++ s).length := by
    rw [List.length_append]
    omega
  unfold writeYear
  split
  · next hy =>
    obtain ⟨c, t, he, hc⟩ := padded_eq_cons 4 y.toNat
    have hn : y.toNat < 10000 := by omega
    have hr := readNumber_padded (w := 4) (n := y.toNat) (m := 4) (by rw [width63]; omega)
      (Nat.le_of_eq (length_padded (by decide) hn)) hs
    have hi : (y.toNat : Int) = y := by omega
    unfold readYear
    rw [trimStart_padded]
    rw [he, List.cons_append] at hr ⊢
    split
    · next h => exact absurd hc (by rw [(List.cons.inj h).1]; decide)
    · next h => exact absurd hc (by rw [(List.cons.inj h).1]; decide)
    · simp only [hr, hi, if_pos hb]
  · split
    · next hneg =>
      have hi : -(y.natAbs : Int) = y := by omega
      have hr := readNumber_padded (w := 4) (n := y.natAbs) (by rw [width63]; omega) hlong hs
      rw [List.cons_append, readYear, trimStart_cons (c := '-') rfl]
      simp only [hr, hi, if_pos hb]
    · next hpos =>
      have hi : (y.natAbs : Int) = y := by omega
      have hr := readNumber_padded (w := 4) (n := y.natAbs) (by rw [width63]; omega) hlong hs
      rw [List.cons_append, readYear, trimStart_cons (c := '+') rfl]
      simp only [hr, hi, if_pos hb]

theorem readFraction_padded {w n nanos : Nat} (hw : 0 < w) (hw9 : w ≤ 9)
    (hn : n < Nat.pow 10 w) (he : n * Nat.pow 10 (9 - w) = nanos) :
    readFraction ('.' :: (padded w n ++ ['Z'])) = .ok (nanos, ['Z']) := by
  have hle : Nat.pow 10 w ≤ 1000000000 := Nat.pow_le_pow_right (n := 10) (by decide) hw9
  have hlen := length_padded hw hn
  have hr := readNumber_padded (w := w) (n := n) (m := 9) (by rw [width63]; omega)
    (by omega) (ends_cons (c := 'Z') rfl [])
  have hcount : (padded w n ++ ['Z']).length - ['Z'].length = w := by
    rw [List.length_append, hlen]
    exact Nat.add_sub_cancel w _
  unfold readFraction
  simp only [hr, hcount]
  rw [← he]
  rfl

theorem readFraction_writeFraction {nanos : Nat} (h : nanos < 1000000000) :
    readFraction (writeFraction nanos ++ ['Z']) = .ok (nanos, ['Z']) := by
  unfold writeFraction
  split
  · next h0 =>
    subst h0
    rfl
  · split
    · have hn : nanos / 1000000 < 1000 := by omega
      have he : nanos / 1000000 * 1000000 = nanos := by omega
      exact readFraction_padded (w := 3) (by decide) (by decide) hn he
    · split
      · have hn : nanos / 1000 < 1000000 := by omega
        have he : nanos / 1000 * 1000 = nanos := by omega
        exact readFraction_padded (w := 6) (by decide) (by decide) hn he
      · exact readFraction_padded (w := 9) (by decide) (by decide) h (Nat.mul_one nanos)

/-- What follows the seconds is no digit. -/
theorem ends_writeFraction (nanos : Nat) : Ends (writeFraction nanos ++ ['Z']) := by
  unfold writeFraction
  split
  · exact ends_cons rfl _
  · split
    · exact ends_cons rfl _
    · split <;> exact ends_cons rfl _

/-! ## Whole timestamps -/

theorem removeOffset_zero {t : Timestamp} (hh : t.hour < 24) (hm : t.minute < 60) :
    t.removeOffset 0 = t := by
  have h1 : ¬ ((t.hour : Int) * 60 + t.minute - 0 < 0) := by omega
  have h2 : ¬ (1440 ≤ (t.hour : Int) * 60 + t.minute - 0) := by omega
  have h3 : ((t.hour : Int) * 60 + t.minute - 0) % 1440
      = ((t.hour * 60 + t.minute : Nat) : Int) := by
    omega
  unfold removeOffset
  simp only [if_neg h1, if_neg h2, h3, Int.toNat_natCast]
  have h4 : (t.hour * 60 + t.minute) / 60 = t.hour := by omega
  have h5 : (t.hour * 60 + t.minute) % 60 = t.minute := by omega
  rw [h4, h5]

theorem ofFields_of_isValid {t : Timestamp} (h : t.isValid = true) : ofFields t 0 = .ok t := by
  simp only [isValid, Bool.and_eq_true, decide_eq_true_iff] at h
  obtain ⟨⟨⟨⟨hd, hh⟩, hm⟩, -⟩, -⟩ := h
  unfold ofFields
  rw [removeOffset_zero hh hm, hd]
  rfl

theorem parseChars_write {t : Timestamp} (h : t.isValid = true) :
    parseChars (t.writeLocal ++ ['Z']) = .ok t := by
  have hv := h
  simp only [isValid, Date.isValid, Date.yearRange, Bool.and_eq_true, decide_eq_true_iff] at hv
  obtain ⟨⟨⟨⟨⟨⟨⟨⟨⟨hy1, hy2⟩, hm1⟩, hm2⟩, hd1⟩, hd2⟩, hh⟩, hmin⟩, hs⟩, hn⟩ := hv
  have hdays : t.date.day ≤ 31 := by
    refine Nat.le_trans hd2 ?_
    unfold Date.daysIn
    repeat' split
    all_goals decide
  have hsep : ∀ s, readSeparator ('T' :: s) = .ok s := fun _ => rfl
  have hz : readZone (Text.trimStart ['Z']) = .ok (0, []) := rfl
  unfold writeLocal
  simp only [List.append_assoc, List.cons_append]
  simp only [parseChars, bind, Except.bind, hsep, hz,
    readYear_writeYear (of_decide_eq_true hy1) (of_decide_eq_true hy2) (ends_cons (c := '-') rfl _),
    readMark_cons (c := '-') rfl, readMark_cons (c := ':') rfl,
    readField_padded hm1 hm2 (by omega) (ends_cons (c := '-') rfl _),
    readField_padded hd1 hdays (by omega) (ends_cons (c := 'T') rfl _),
    readField_padded (g := 23) (Nat.zero_le t.hour) (by omega) (by omega)
      (ends_cons (c := ':') rfl _),
    readField_padded (g := 59) (Nat.zero_le t.minute) (by omega) (by omega)
      (ends_cons (c := ':') rfl _),
    readField_padded (Nat.zero_le t.second) hs (by omega) (ends_writeFraction t.nanos),
    readFraction_writeFraction hn]
  exact ofFields_of_isValid h

/-- A timestamp is read back from its written form. -/
theorem parse_write {t : Timestamp} (h : t.isValid = true) : parse t.write = .ok t := by
  unfold parse write
  rw [String.toList_ofList]
  exact parseChars_write h

/-! ## What is read -/

theorem numberOf_lt {ds : List Char} (hd : ∀ c ∈ ds, c.isDigit = true) :
    numberOf ds < Nat.pow 10 ds.length := by
  have h : ∀ n, ds.foldl (fun n c => n * 10 + digitValue c) n
      < (n + 1) * Nat.pow 10 ds.length := by
    induction ds with
    | nil => intro n; simp
    | cons c ds ih =>
      intro n
      rw [List.forall_mem_cons] at hd
      have hc : digitValue c < 10 := by
        have hle : 48 ≤ c.toNat ∧ c.toNat ≤ 57 := Char.isDigit_iff_toNat.mp hd.1
        show c.toNat - 48 < 10
        omega
      have hpow : Nat.pow 10 (c :: ds).length = 10 * Nat.pow 10 ds.length := Nat.pow_succ'
      rw [List.foldl_cons, hpow, ← Nat.mul_assoc]
      exact Nat.lt_of_lt_of_le (ih hd.2 _) (Nat.mul_le_mul_right _ (by omega))
  have h0 := h 0
  rwa [Nat.zero_add, Nat.one_mul] at h0

theorem leadingDigits_spec (most : Nat) (s : List Char) :
    (leadingDigits most s).length ≤ most ∧ (leadingDigits most s).length ≤ s.length ∧
      ∀ c ∈ leadingDigits most s, c.isDigit = true := by
  induction most generalizing s with
  | zero => simp [leadingDigits]
  | succ n ih =>
    cases s with
    | nil => simp [leadingDigits]
    | cons c s =>
      rw [leadingDigits]
      split
      · next hc =>
        obtain ⟨hn, hs, hd⟩ := ih s
        exact ⟨Nat.succ_le_succ hn, Nat.succ_le_succ hs, List.forall_mem_cons.mpr ⟨hc, hd⟩⟩
      · simp

/-- What is read has no more digits than the text and no more than are wanted. -/
theorem lt_of_readNumber {most n : Nat} {s rest : List Char}
    (h : readNumber most s = .ok (n, rest)) :
    s.length - rest.length ≤ most ∧ n < Nat.pow 10 (s.length - rest.length) := by
  unfold readNumber at h
  dsimp only at h
  split at h
  · cases h
  split at h
  · cases h
  split at h
  · cases h
  obtain ⟨hn, hs, hd⟩ := leadingDigits_spec most s
  cases h
  rw [List.length_drop, Nat.sub_sub_self hs]
  exact ⟨hn, numberOf_lt hd⟩

theorem le_of_readField {least greatest n : Nat} {s rest : List Char}
    (h : readField least greatest s = .ok (n, rest)) : n ≤ greatest := by
  unfold readField at h
  split at h
  · cases h
  · split at h
    · next hn =>
      cases h
      exact hn.2
    · cases h

theorem lt_of_readFraction {nanos : Nat} {s rest : List Char}
    (h : readFraction s = .ok (nanos, rest)) : nanos < 1000000000 := by
  unfold readFraction at h
  split at h
  · next t =>
    split at h
    · cases h
    · next n u hn =>
      cases h
      obtain ⟨hmost, hlt⟩ := lt_of_readNumber hn
      calc n * Nat.pow 10 (9 - (t.length - u.length))
        _ < Nat.pow 10 (t.length - u.length) * Nat.pow 10 (9 - (t.length - u.length)) :=
          Nat.mul_lt_mul_of_pos_right hlt (Nat.pow_pos (by decide))
        _ = Nat.pow 10 (t.length - u.length + (9 - (t.length - u.length))) :=
          (Nat.pow_add 10 _ _).symm
        _ = 1000000000 := by rw [Nat.add_sub_cancel' hmost]
  · cases h
    decide

theorem isValid_of_ofFields {civil t : Timestamp} {offset : Int} (hs : civil.second ≤ 60)
    (hn : civil.nanos < 1000000000) (h : ofFields civil offset = .ok t) : t.isValid = true := by
  unfold ofFields at h
  split at h
  · cases h
  split at h
  · cases h
  split at h
  · next hdate =>
    cases h
    have hhour : (civil.removeOffset offset).hour < 24 := by
      dsimp only [removeOffset]
      omega
    have hminute : (civil.removeOffset offset).minute < 60 := by
      dsimp only [removeOffset]
      omega
    unfold isValid
    simp only [Bool.and_eq_true, decide_eq_true_iff]
    exact ⟨⟨⟨⟨hdate, hhour⟩, hminute⟩, hs⟩, hn⟩
  · cases h

/-- A timestamp that is read is a point in time. -/
theorem isValid_of_parse {s : String} {t : Timestamp} (h : parse s = .ok t) :
    t.isValid = true := by
  unfold parse parseChars at h
  obtain ⟨⟨year, s1⟩, -, h⟩ := bind_eq_ok_iff.mp h
  obtain ⟨s2, -, h⟩ := bind_eq_ok_iff.mp h
  obtain ⟨⟨month, s3⟩, -, h⟩ := bind_eq_ok_iff.mp h
  obtain ⟨s4, -, h⟩ := bind_eq_ok_iff.mp h
  obtain ⟨⟨day, s5⟩, -, h⟩ := bind_eq_ok_iff.mp h
  obtain ⟨s6, -, h⟩ := bind_eq_ok_iff.mp h
  obtain ⟨⟨hour, s7⟩, -, h⟩ := bind_eq_ok_iff.mp h
  obtain ⟨s8, -, h⟩ := bind_eq_ok_iff.mp h
  obtain ⟨⟨minute, s9⟩, -, h⟩ := bind_eq_ok_iff.mp h
  obtain ⟨s10, -, h⟩ := bind_eq_ok_iff.mp h
  obtain ⟨⟨second, s11⟩, hsecond, h⟩ := bind_eq_ok_iff.mp h
  obtain ⟨⟨nanos, s12⟩, hnanos, h⟩ := bind_eq_ok_iff.mp h
  obtain ⟨⟨offset, s13⟩, -, h⟩ := bind_eq_ok_iff.mp h
  dsimp only at h
  split at h
  · exact isValid_of_ofFields (le_of_readField hsecond) (lt_of_readFraction hnanos) h
  · cases h

end Failsafe.Timestamp
