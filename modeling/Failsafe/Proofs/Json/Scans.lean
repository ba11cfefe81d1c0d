import Mathlib.Data.List.TakeWhile
import Failsafe.Json.Skipping
import Failsafe.Proofs.Json.Structure
/-
  What the readers of words, numbers and strings pass over, in terms of structure.

  Words and numbers have none (`Passes`). The rest of a string leads out of it, whether its
  characters are read or passed over (`scans_readString`, `scans_skipString`). `Scans` is what
  leads from one stance to another and can be put together.
-/

namespace Failsafe.Json

open Stance

/-! ## Words and numbers -/

/-- What is passed over has no structure: neither brackets nor strings nor separators. -/
def Passes (s rest : List Char) : Prop := ∃ used, s = used ++ rest ∧ ∀ c ∈ used, role c = .other

theorem passes_refl (s : List Char) : Passes s s := ⟨[], rfl, by simp⟩

theorem passes_trans {s t u : List Char} (h : Passes s t) (h' : Passes t u) : Passes s u := by
  obtain ⟨p, rfl, hp⟩ := h
  obtain ⟨q, rfl, hq⟩ := h'
  exact ⟨p ++ q, (List.append_assoc ..).symm, List.forall_mem_append.mpr ⟨hp, hq⟩⟩

theorem passes_cons {c : Char} {s t : List Char} (hc : role c = .other) (h : Passes s t) :
    Passes (c :: s) t := by
  obtain ⟨p, rfl, hp⟩ := h
  exact ⟨c :: p, rfl, List.forall_mem_cons.mpr ⟨hc, hp⟩⟩

theorem role_of_isDigit {c : Char} (h : c.isDigit = true) : role c = .other :=
  role_of_isNumeral (isNumeral_of_isDigit h)

theorem passes_dropWhile (s : List Char) : Passes s (s.dropWhile Char.isDigit) :=
  ⟨s.takeWhile Char.isDigit, List.takeWhile_append_dropWhile.symm,
    fun _ hc => role_of_isDigit (List.mem_takeWhile_imp hc)⟩

theorem passes_takeSignificand (n : Nat) (s : List Char) :
    Passes s (takeSignificand n s).2 := by
  induction s generalizing n with
  | nil => exact passes_refl []
  | cons c s ih =>
    unfold takeSignificand
    split
    · next h =>
      rw [Bool.and_eq_true] at h
      exact passes_cons (role_of_isDigit h.1) (ih _)
    · exact passes_refl _

theorem passes_takeExponent (n : Nat) (s : List Char) : Passes s (takeExponent n s).2.1 := by
  induction s generalizing n with
  | nil => exact passes_refl []
  | cons c s ih =>
    unfold takeExponent
    split
    · next h =>
      dsimp only
      split
      · exact passes_cons (role_of_isDigit h) (passes_refl s)
      · exact passes_cons (role_of_isDigit h) (ih _)
    · exact passes_refl _

section
variable {positive : Bool} {significand : Nat} {exponent : Int} {x : Number} {s rest : List Char}

theorem passes_finish (h : finish positive significand exponent s = .ok (x, rest)) :
    Passes s rest := by
  unfold finish at h
  split at h
  · cases h
    exact passes_refl s
  · cases h

theorem passes_readExponent (h : readExponent positive significand exponent s = .ok (x, rest)) :
    Passes s rest := by
  unfold readExponent at h
  split at h
  next raised t ht =>
  have hs : Passes s t := by
    split at ht <;> cases ht
    · exact passes_cons rfl (passes_refl _)
    · exact passes_cons rfl (passes_refl _)
    · exact passes_refl _
  refine passes_trans hs ?_
  have he := passes_takeExponent 0 t
  split at h
  · cases h
  · next c t' =>
    split at h
    · cases h
    · dsimp only at h
      split at h
      · split at h
        · cases h
        · cases h
          exact passes_trans he (passes_dropWhile _)
      · exact passes_trans he (passes_finish h)

theorem passes_readScale (h : readScale positive significand exponent s = .ok (x, rest)) :
    Passes s rest := by
  unfold readScale at h
  split at h
  · exact passes_cons rfl (passes_readExponent h)
  · exact passes_cons rfl (passes_readExponent h)
  · exact passes_finish h

theorem passes_readFraction (h : readFraction positive significand exponent s = .ok (x, rest)) :
    Passes s rest := by
  unfold readFraction at h
  split at h
  · cases h
  · next c t =>
    split at h
    · cases h
    · exact passes_trans (passes_takeSignificand significand _)
        (passes_trans (passes_dropWhile _) (passes_readScale h))

theorem passes_readNumber (h : readNumber positive s = .ok (x, rest)) : Passes s rest := by
  unfold readNumber at h
  split at h
  · cases h
  · refine passes_cons rfl ?_
    split at h
    · exact passes_cons rfl (passes_readFraction h)
    · exact passes_cons rfl (passes_readExponent h)
    · exact passes_cons rfl (passes_readExponent h)
    · split at h
      · cases h
      · cases h
        exact passes_refl _
    · cases h
      exact passes_refl _
  · next c t _ =>
    split at h
    · cases h
    · dsimp only at h
      have ht : Passes (c :: t) ((takeSignificand 0 (c :: t)).2.dropWhile Char.isDigit) :=
        passes_trans (passes_takeSignificand 0 _) (passes_dropWhile _)
      refine passes_trans ht ?_
      split at h
      · next e => rw [e]; exact passes_cons rfl (passes_readFraction h)
      · next e => rw [e]; exact passes_cons rfl (passes_readExponent h)
      · next e => rw [e]; exact passes_cons rfl (passes_readExponent h)
      · split at h
        · cases h
          exact passes_refl _
        · exact passes_finish h

theorem passes_readWord {word : List Char} (hw : ∀ c ∈ word, role c = .other)
    (h : readWord word s = .ok rest) : Passes s rest := by
  induction word generalizing s with
  | nil =>
    cases h
    exact passes_refl _
  | cons w word ih =>
    cases s with
    | nil => cases h
    | cons c s =>
      rw [List.forall_mem_cons] at hw
      rw [readWord] at h
      split at h
      · next hc =>
        rw [hc]
        exact passes_cons hw.1 (ih hw.2 h)
      · cases h

theorem passes_skipExponent (h : skipExponent s = .ok rest) : Passes s rest := by
  unfold skipExponent at h
  dsimp only at h
  split at h
  · cases h
  next c t ht =>
  have hs : Passes s (c :: t) := by
    split at ht <;> cases ht
    · exact passes_cons rfl (passes_refl _)
    · exact passes_cons rfl (passes_refl _)
    · exact passes_refl _
  split at h
  · next hc =>
    cases h
    exact passes_trans hs (passes_cons (role_of_isDigit hc) (passes_dropWhile t))
  · cases h

theorem passes_skipFraction (h : skipFraction s = .ok rest) : Passes s rest := by
  unfold skipFraction at h
  split at h
  · cases h
  · next c t =>
    split at h
    · cases h
    · next hc =>
      rw [Bool.not_eq_true', Bool.not_eq_false] at hc
      refine passes_cons (role_of_isDigit hc) (passes_trans (passes_dropWhile t) ?_)
      split at h
      · next e => rw [e]; exact passes_cons rfl (passes_skipExponent h)
      · next e => rw [e]; exact passes_cons rfl (passes_skipExponent h)
      · cases h
        exact passes_refl _

theorem passes_skipNumber (h : skipNumber s = .ok rest) : Passes s rest := by
  unfold skipNumber at h
  split at h
  · cases h
  · next c t =>
    split at h
    · cases h
    · next hc =>
      rw [Bool.not_eq_true', Bool.not_eq_false] at hc
      refine passes_cons (role_of_isDigit hc) ?_
      dsimp only at h
      have ht : Passes t (if c = '0' then t else t.dropWhile Char.isDigit) := by
        split
        · exact passes_refl t
        · exact passes_dropWhile t
      refine passes_trans ht ?_
      split at h
      · next e => rw [e]; exact passes_cons rfl (passes_skipFraction h)
      · next e => rw [e]; exact passes_cons rfl (passes_skipExponent h)
      · next e => rw [e]; exact passes_cons rfl (passes_skipExponent h)
      · split at h
        · cases h
        · next e _ =>
          cases h
          exact passes_refl _
      · next e =>
        cases h
        rw [e]
        exact passes_refl _

end

/-! ## Steps through a text -/

/-- What is passed over leads from one stance to another. -/
def Scans (a : Stance) (s : List Char) (b : Stance) (rest : List Char) : Prop :=
  ∃ used, s = used ++ rest ∧ a.follow used = some b

section
variable {a b c : Stance} {s t u : List Char} {d : Nat} {behind : Bool} {x : Char}

theorem scans_refl (a : Stance) (s : List Char) : Scans a s a s := ⟨[], rfl, rfl⟩

theorem scans_trans (h : Scans a s b t) (h' : Scans b t c u) : Scans a s c u := by
  obtain ⟨p, rfl, hp⟩ := h
  obtain ⟨q, rfl, hq⟩ := h'
  refine ⟨p ++ q, (List.append_assoc ..).symm, ?_⟩
  rw [follow_append, hp]
  exact hq

theorem scans_cons (hx : a.next x = some b) (h : Scans b s c t) : Scans a (x :: s) c t := by
  obtain ⟨p, rfl, hp⟩ := h
  refine ⟨x :: p, rfl, ?_⟩
  rw [follow_cons, hx]
  exact hp

theorem scans_of_passes (h : Passes s t) (d : Nat) :
    Scans (outside d false) s (outside d false) t := by
  obtain ⟨p, rfl, hp⟩ := h
  exact ⟨p, rfl, follow_of_other d hp⟩

theorem scans_separator (hx : role x = .separator) (s : List Char) :
    Scans (outside d behind) (x :: s) (outside d false) s := by
  refine scans_cons (b := outside d false) ?_ (scans_refl _ s)
  rw [next, hx]
  rfl

theorem scans_closing (hx : role x = .closing) (s : List Char) :
    Scans (outside (d + 1) behind) (x :: s) (outside d false) s := by
  refine scans_cons (b := outside d false) ?_ (scans_refl _ s)
  rw [next, hx]
  rfl

theorem scans_opening (hx : role x = .opening) (s : List Char) :
    Scans (outside d false) (x :: s) (outside (d + 1) false) s := by
  refine scans_cons (b := outside (d + 1) false) ?_ (scans_refl _ s)
  rw [next, hx]
  rfl

theorem scans_quote (s : List Char) : Scans (outside d false) ('"' :: s) (inside d) s :=
  scans_cons rfl (scans_refl _ s)

theorem role_of_isBlank (h : isBlank x = true) : role x = .separator := by
  simp only [isBlank, Bool.or_eq_true, beq_iff_eq] at h
  rcases h with ((rfl | rfl) | rfl) | rfl <;> rfl

theorem scans_blank (d : Nat) (s : List Char) :
    Scans (outside d false) s (outside d false) (skipBlank s) := by
  induction s with
  | nil => exact scans_refl _ _
  | cons x s ih =>
    unfold skipBlank
    rw [List.dropWhile_cons]
    split
    · next h => exact scans_trans (scans_separator (role_of_isBlank h) s) ih
    · exact scans_refl _ _

/-- Blanks may follow a string too. -/
theorem scans_blanks (d : Nat) (behind : Bool) (s : List Char) :
    ∃ behind', Scans (outside d behind) s (outside d behind') (skipBlank s) := by
  cases s with
  | nil => exact ⟨behind, scans_refl _ _⟩
  | cons x s =>
    unfold skipBlank
    rw [List.dropWhile_cons]
    split
    · next h =>
      exact ⟨false, scans_trans (scans_separator (role_of_isBlank h) s) (scans_blank d s)⟩
    · exact ⟨behind, scans_refl _ _⟩

/-- A separator behind blanks. -/
theorem scans_next (h : skipBlank s = x :: t) (hx : role x = .separator) :
    Scans (outside d behind) s (outside d false) t := by
  obtain ⟨behind', hs⟩ := scans_blanks d behind s
  rw [h] at hs
  exact scans_trans hs (scans_separator hx t)

theorem scans_readColon (h : readColon s = .ok t) :
    Scans (outside d behind) s (outside d false) t := by
  unfold readColon at h
  split at h
  · cases h
  · next hs =>
    cases h
    exact scans_next hs rfl
  · cases h

end

/-! ## Strings -/

section
variable {s rest : List Char} {d : Nat}

theorem ne_of_hexValue {c : Char} {n : Nat} (h : hexValue c = some n) : c ≠ '"' ∧ c ≠ '\\' := by
  have hq : hexValue '"' = none := by decide
  have hb : hexValue '\\' = none := by decide
  constructor
  · rintro rfl
    exact absurd (hq.symm.trans h) nofun
  · rintro rfl
    exact absurd (hb.symm.trans h) nofun

theorem scans_readHex {n : Nat} (h : readHex s = .ok (n, rest)) :
    Scans (inside d) s (inside d) rest := by
  have hx : ∀ {c : Char} {k : Nat} {t : List Char}, hexValue c = some k →
      Scans (inside d) (c :: t) (inside d) t := fun hk =>
    scans_cons (next_inside d (ne_of_hexValue hk).1 (ne_of_hexValue hk).2) (scans_refl _ _)
  unfold readHex at h
  dsimp only at h
  split at h
  · split at h
    · next h1 h2 h3 h4 =>
      cases h
      exact scans_trans (hx h1) (scans_trans (hx h2) (scans_trans (hx h3) (hx h4)))
    · split at h <;> cases h
  · split at h <;> cases h

theorem scans_readPair {high : Nat} {c : Char} (h : readPair high s = .ok (c, rest)) :
    Scans (inside d) s (inside d) rest := by
  unfold readPair at h
  split at h
  · cases h
  · split at h
    · cases h
    · split at h
      · cases h
      · next hr =>
        split at h
        · cases h
        · obtain rfl := (Prod.mk.inj (Except.ok.inj h)).2
          exact scans_cons (b := escaped d) rfl
            (scans_cons (b := inside d) rfl (scans_readHex hr))
    · cases h
  · cases h

theorem scans_readEscape {c : Char} (h : readEscape s = .ok (c, rest)) :
    Scans (escaped d) s (inside d) rest := by
  unfold readEscape at h
  split at h
  · cases h
  · refine scans_cons rfl ?_
    split at h
    · split at h
      · cases h
      · next hr =>
        split at h
        · cases h
        · split at h
          · cases h
            exact scans_readHex hr
          · exact scans_trans (scans_readHex hr) (scans_readPair h)
    · split at h
      · cases h
        exact scans_refl _ _
      · cases h

theorem scans_readChars {n : Nat} {acc cs : List Char} (h : readChars n acc s = .ok (cs, rest)) :
    Scans (inside d) s (outside d true) rest := by
  induction n generalizing acc s with
  | zero => cases h
  | succ n ih =>
    cases s with
    | nil => cases h
    | cons c s =>
      rw [readChars] at h
      split at h
      · next hq =>
        cases h
        subst hq
        exact scans_cons rfl (scans_refl _ _)
      · next hq =>
        split at h
        · next hb =>
          subst hb
          split at h
          · cases h
          · next hr => exact scans_cons rfl (scans_trans (scans_readEscape hr) (ih h))
        · next hb =>
          split at h
          · cases h
          · exact scans_cons (next_inside d hq hb) (ih h)

theorem scans_readString {t : String} (h : readString s = .ok (t, rest)) :
    Scans (inside d) s (outside d true) rest := by
  unfold readString at h
  split at h
  · cases h
  · next hr =>
    cases h
    exact scans_readChars hr

theorem scans_skipString {n : Nat} (h : skipString n s = .ok rest) :
    Scans (inside d) s (outside d true) rest := by
  induction n generalizing s with
  | zero => cases h
  | succ n ih =>
    cases s with
    | nil => cases h
    | cons c s =>
      unfold skipString at h
      split at h
      · next hq =>
        cases h
        subst hq
        exact scans_cons rfl (scans_refl _ _)
      · next hq =>
        split at h
        · next hb =>
          subst hb
          refine scans_cons rfl ?_
          split at h
          · cases h
          · refine scans_cons rfl ?_
            split at h
            · split at h
              · cases h
              · next hr => exact scans_trans (scans_readHex hr) (ih h)
            · split at h
              · exact ih h
              · cases h
        · next hb =>
          split at h
          · cases h
          · exact scans_cons (next_inside d hq hb) (ih h)

end

end Failsafe.Json
