import Failsafe.Text.Utf8
/-
  Lines of texts.

  A file that holds a text is cut into lines each of which is a text (`lines_encode`): a line feed
  is never a byte of another character. A file whose lines are texts holds one (`encode_of_lines`).
  What is appended behind a finished line is cut by itself (`lines_append`), and a text without
  line feeds that ends with no carriage return, closed by a line feed, is one line (`lines_line`).
-/

namespace Failsafe.Bytes

/-- Nothing, or bytes that end with a line feed. -/
def IsClosed (b : Bytes) : Prop := b = [] ∨ b.getLast? = some lineFeed

theorem encode_append (s t : List Char) : encode (s ++ t) = encode s ++ encode t := by
  unfold encode
  exact List.flatMap_append

theorem encode_cons (c : Char) (s : List Char) :
    encode (c :: s) = String.utf8EncodeChar c ++ encode s := by
  unfold encode
  exact List.flatMap_cons

/-- What is decoded is the UTF-8 form of the text it gives. -/
theorem decode?_eq_some_iff {b : Bytes} {s : List Char} : decode? b = some s ↔ b = encode s := by
  constructor
  · intro h
    unfold decode? at h
    obtain ⟨a, ha, rfl⟩ := Option.map_eq_some_iff.mp h
    have hsome : b.toByteArray.utf8Decode?.isSome = true := by rw [ha]; rfl
    have hget : b.toByteArray.utf8Decode?.get hsome = a := by simp [ha]
    have henc := ByteArray.utf8Encode_get_utf8Decode? (b := b.toByteArray) (h := hsome)
    rw [hget] at henc
    have hdata := congrArg (fun x : ByteArray => x.data.toList) henc
    simpa [List.utf8Encode, encode] using hdata.symm
  · rintro rfl
    exact decode?_encode s

theorem encode_ne_nil {s : List Char} (h : s ≠ []) : encode s ≠ [] := by
  obtain ⟨c, s, rfl⟩ := List.exists_cons_of_ne_nil h
  rw [encode_cons]
  exact List.append_ne_nil_of_left_ne_nil String.utf8EncodeChar_ne_nil _

theorem encode_lineFeed : encode ['\n'] = [lineFeed] := by decide

/-- A byte below 128 stands for the character with its number. -/
theorem toNat_eq_of_mem_utf8EncodeChar {b : UInt8} {c : Char}
    (hb : b ∈ String.utf8EncodeChar c) (hlt : b.toNat < 128) : b.toNat = c.toNat := by
  have hv : c.toNat = c.val.toNat := rfl
  unfold String.utf8EncodeChar at hb
  dsimp only at hb
  split at hb
  · rw [List.mem_singleton] at hb
    rw [hb, UInt8.toNat_ofNat', hv]
    omega
  -- the bytes of longer characters are 128 and more
  · exfalso
    split at hb
    · simp only [List.mem_cons, List.not_mem_nil, or_false] at hb
      rcases hb with h | h <;> rw [h, UInt8.toNat_ofNat'] at hlt <;> omega
    · split at hb
      · simp only [List.mem_cons, List.not_mem_nil, or_false] at hb
        rcases hb with h | h | h <;> rw [h, UInt8.toNat_ofNat'] at hlt <;> omega
      · simp only [List.mem_cons, List.not_mem_nil, or_false] at hb
        rcases hb with h | h | h | h <;> rw [h, UInt8.toNat_ofNat'] at hlt <;> omega

theorem eq_of_mem_utf8EncodeChar {b : UInt8} {c d : Char} (hb : b ∈ String.utf8EncodeChar c)
    (hlt : b.toNat < 128) (hd : b.toNat = d.toNat) : c = d := by
  have hn : c.toNat = d.toNat := (toNat_eq_of_mem_utf8EncodeChar hb hlt).symm.trans hd
  exact Char.ext (UInt32.toNat_inj.mp hn)

theorem lineFeed_not_mem_utf8EncodeChar {c : Char} (h : c ≠ '\n') :
    lineFeed ∉ String.utf8EncodeChar c :=
  fun hm => h (eq_of_mem_utf8EncodeChar hm (by decide) (by decide))

theorem lineFeed_not_mem_encode {s : List Char} (h : '\n' ∉ s) : lineFeed ∉ encode s := by
  induction s with
  | nil => simp [encode]
  | cons c s ih =>
    rw [List.mem_cons, not_or] at h
    rw [encode_cons, List.mem_append, not_or]
    exact ⟨lineFeed_not_mem_utf8EncodeChar (Ne.symm h.1), ih h.2⟩

/-! ## Cutting -/

theorem linesFrom_append_of_not_mem {b : Bytes} (hb : lineFeed ∉ b) (current rest : Bytes) :
    linesFrom current (b ++ rest) = linesFrom (b.reverse ++ current) rest := by
  induction b generalizing current with
  | nil => rfl
  | cons x b ih =>
    rw [List.mem_cons, not_or] at hb
    rw [List.cons_append, linesFrom, if_neg (Ne.symm hb.1), ih hb.2, List.reverse_cons,
      List.append_assoc]
    rfl

theorem linesFrom_append {a : Bytes} (ha : a.getLast? = some lineFeed) (current b : Bytes) :
    linesFrom current (a ++ b) = linesFrom current a ++ linesFrom [] b := by
  induction a generalizing current with
  | nil => simp at ha
  | cons x a ih =>
    cases a with
    | nil =>
      have hx : x = lineFeed := by simpa using ha
      rw [List.cons_append, List.nil_append, linesFrom, linesFrom, if_pos hx, if_pos hx]
      rfl
    | cons y a =>
      have hl : (y :: a).getLast? = some lineFeed := by simpa using ha
      rw [List.cons_append, linesFrom, linesFrom]
      split
      · rw [ih hl, List.cons_append]
      · rw [ih hl]

theorem lines_append {a : Bytes} (ha : a.IsClosed) (b : Bytes) :
    lines (a ++ b) = lines a ++ lines b := by
  rcases ha with rfl | ha
  · rfl
  · exact linesFrom_append ha [] b

theorem finished_reverse {b : Bytes} (h : b.getLast? ≠ some carriageReturn) :
    finished b.reverse = b := by
  cases hr : b.reverse with
  | nil =>
    rw [List.reverse_eq_nil_iff.mp hr]
    rfl
  | cons x r =>
    have hb : b = (x :: r).reverse := by rw [← hr, List.reverse_reverse]
    have hx : x ≠ carriageReturn := by
      intro hc
      rw [hb, List.reverse_cons, List.getLast?_append, hc] at h
      exact h rfl
    rw [finished, if_neg hx, hb]

theorem lines_line {b : Bytes} (hb : lineFeed ∉ b) (hr : b.getLast? ≠ some carriageReturn) :
    lines (b ++ [lineFeed]) = [b] := by
  unfold lines
  rw [linesFrom_append_of_not_mem hb, List.append_nil, linesFrom, if_pos rfl,
    finished_reverse hr]
  rfl

/-- What follows the last line feed is a line too. -/
theorem lines_last {b : Bytes} (hb : lineFeed ∉ b) (hne : b ≠ []) : lines b = [b] := by
  have h := linesFrom_append_of_not_mem hb [] []
  rw [List.append_nil, List.append_nil] at h
  unfold lines
  rw [h, linesFrom, if_neg, List.reverse_reverse]
  rw [List.isEmpty_iff, List.reverse_eq_nil_iff]
  exact hne

/-! ## Lines of a text -/

/-- A text without line feeds is a line, also if none follows. -/
theorem lines_unfinished {s : List Char} (h : '\n' ∉ s) (hne : s ≠ []) :
    lines (encode s) = [encode s] :=
  lines_last (lineFeed_not_mem_encode h) (encode_ne_nil hne)

theorem getLast?_encode {s : List Char} {c : Char} (hs : s.getLast? = some c) :
    (encode s).getLast? = (String.utf8EncodeChar c).getLast? := by
  obtain ⟨t, rfl⟩ := List.getLast?_eq_some_iff.mp hs
  rw [encode_append, List.getLast?_append, encode_cons, show encode [] = [] from rfl,
    List.append_nil, List.getLast?_eq_some_getLast String.utf8EncodeChar_ne_nil]
  rfl

theorem isClosed_encode {s : List Char} (h : s = [] ∨ s.getLast? = some '\n') :
    (encode s).IsClosed := by
  rcases h with rfl | h
  · exact Or.inl rfl
  · right
    rw [getLast?_encode h]
    decide

/-- A finished line of a text is a text: a carriage return is a character of its own. -/
theorem finished_encode (s : List Char) : ∃ t, finished (encode s).reverse = encode t := by
  by_cases h : (encode s).getLast? = some carriageReturn
  · cases hs : s.getLast? with
    | none =>
      rw [List.getLast?_eq_none_iff] at hs
      subst hs
      exact ⟨[], rfl⟩
    | some c =>
      obtain ⟨t, rfl⟩ := List.getLast?_eq_some_iff.mp hs
      rw [getLast?_encode hs] at h
      have hm : carriageReturn ∈ String.utf8EncodeChar c := List.mem_of_getLast? h
      obtain rfl : c = '\r' := eq_of_mem_utf8EncodeChar hm (by decide) (by decide)
      refine ⟨t, ?_⟩
      rw [encode_append, List.reverse_append]
      show finished (carriageReturn :: (encode t).reverse) = encode t
      rw [finished, if_pos rfl, List.reverse_reverse]
  · exact ⟨s, finished_reverse h⟩

theorem linesFrom_encode (s t : List Char) :
    ∀ l ∈ linesFrom (encode t).reverse (encode s), ∃ u, l = encode u := by
  induction s generalizing t with
  | nil =>
    intro l hl
    rw [show encode [] = [] from rfl, linesFrom] at hl
    split at hl
    · simp at hl
    · rw [List.reverse_reverse, List.mem_singleton] at hl
      exact ⟨t, hl⟩
  | cons c s ih =>
    intro l hl
    rw [encode_cons] at hl
    by_cases hc : c = '\n'
    · subst hc
      change l ∈ linesFrom (encode t).reverse (lineFeed :: encode s) at hl
      rw [linesFrom, if_pos rfl, List.mem_cons] at hl
      rcases hl with rfl | hl
      · exact finished_encode t
      · exact ih [] l hl
    · rw [linesFrom_append_of_not_mem (lineFeed_not_mem_utf8EncodeChar hc), ← List.reverse_append]
        at hl
      refine ih (t ++ [c]) l ?_
      rw [encode_append]
      simpa [encode] using hl

/-- Every line of a text is a text. -/
theorem lines_encode (s : List Char) : ∀ l ∈ lines (encode s), ∃ t, l = encode t :=
  linesFrom_encode s []

/-- A finished line that is a text was one before: what it lost are characters. -/
theorem encode_of_finished {b : Bytes} {t : List Char} (h : finished b.reverse = encode t) :
    ∃ s, b = encode s := by
  by_cases hb : b.getLast? = some carriageReturn
  · obtain ⟨front, rfl⟩ := List.getLast?_eq_some_iff.mp hb
    rw [List.reverse_append] at h
    change finished (carriageReturn :: front.reverse) = encode t at h
    rw [finished, if_pos rfl, List.reverse_reverse] at h
    refine ⟨t ++ ['\r'], ?_⟩
    rw [encode_append, h]
    rfl
  · rw [finished_reverse hb] at h
    exact ⟨t, h⟩

theorem encode_of_linesFrom (b current : Bytes)
    (h : ∀ l ∈ linesFrom current b, ∃ t, l = encode t) : ∃ s, current.reverse ++ b = encode s := by
  induction b generalizing current with
  | nil =>
    rw [List.append_nil]
    cases current with
    | nil => exact ⟨[], rfl⟩
    | cons x current => exact h _ (by simp [linesFrom])
  | cons x b ih =>
    rw [linesFrom] at h
    split at h
    · next hx =>
      rw [List.forall_mem_cons] at h
      obtain ⟨⟨t, ht⟩, hrest⟩ := h
      rw [← List.reverse_reverse current] at ht
      obtain ⟨s, hs⟩ := encode_of_finished ht
      obtain ⟨u, hu⟩ := ih [] hrest
      refine ⟨s ++ '\n' :: u, ?_⟩
      rw [encode_append, encode_cons, ← hs, ← hu, hx]
      rfl
    · obtain ⟨s, hs⟩ := ih (x :: current) h
      refine ⟨s, ?_⟩
      rw [← hs, List.reverse_cons, List.append_assoc]
      rfl

/-- A file whose lines are texts is a text. -/
theorem encode_of_lines {b : Bytes} (h : ∀ l ∈ lines b, ∃ t, l = encode t) : ∃ s, b = encode s :=
  encode_of_linesFrom b [] h

end Failsafe.Bytes
