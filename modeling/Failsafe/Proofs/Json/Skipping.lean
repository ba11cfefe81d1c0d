import Failsafe.Proofs.Json.Scans
/-
  A value that nobody asked for is passed over as a whole: what `skipValue` leaves out closes every
  bracket that it opens (`scans_skipValue`). The invariant is that the open containers are the
  brackets that are still to be closed (`Resumes`); a step of `skipFrom` keeps it in front of a
  value (`resumes_value`), after an item (`resumes_array`) and after a member (`resumes_object`).
-/

namespace Failsafe.Json

open Stance

section
variable {s t rest : List Char} {d : Nat} {behind : Bool}

theorem scans_skipKey (h : skipKey s = .ok rest) :
    Scans (outside d false) s (outside d false) rest := by
  have hs := scans_blank d s
  unfold skipKey at h
  split at h
  · cases h
  · next hq =>
    rw [hq] at hs
    split at h
    · cases h
    · next hkey =>
      exact scans_trans hs (scans_trans (scans_quote _)
        (scans_trans (scans_skipString hkey) (scans_readColon h)))
  · cases h

theorem scans_skipScalar {c : Char} (h : skipScalar c t = .ok rest) :
    ∃ behind, Scans (outside d false) (c :: t) (outside d behind) rest := by
  have hplain : role c = .other → Passes t rest →
      ∃ behind, Scans (outside d false) (c :: t) (outside d behind) rest := fun hx hp =>
    ⟨false, scans_of_passes (passes_cons hx hp) d⟩
  unfold skipScalar at h
  split at h
  · next hx => exact hplain (by rw [hx]; rfl) (passes_readWord (other_of_all rfl) h)
  split at h
  · next hx => exact hplain (by rw [hx]; rfl) (passes_readWord (other_of_all rfl) h)
  split at h
  · next hx => exact hplain (by rw [hx]; rfl) (passes_readWord (other_of_all rfl) h)
  split at h
  · next hx => exact hplain (by rw [hx]; rfl) (passes_skipNumber h)
  split at h
  · exact ⟨false, scans_of_passes (passes_skipNumber h) d⟩
  split at h
  · next hx =>
    subst hx
    exact ⟨true, scans_trans (scans_quote t) (scans_skipString h)⟩
  · cases h

/-- Where `skipFrom` stands: right behind a string only if a comma may follow. -/
def Turn.Fits : Turn → Bool → Prop
  | .value, behind => behind = false
  | .after comma, behind => comma = false → behind = false

theorem fits_false (turn : Turn) : turn.Fits false := by
  cases turn with
  | value => rfl
  | after comma => exact fun _ => rfl

/-- What has been passed over leads from a stance to one that fits, where the rest of a value is
passed over next; the open containers are the brackets that are still to be closed. -/
def Resumes (d n : Nat) (a : Stance) (s rest : List Char) : Prop :=
  ∃ turn opened behind t, Turn.Fits turn behind ∧ skipFrom n turn opened t = .ok rest ∧
    Scans a s (outside (d + opened.length) behind) t

section
variable {n : Nat} {comma : Bool} {opened : List Container}

theorem resumes_of_scans {a : Stance} {turn : Turn} (hf : turn.Fits behind)
    (h : skipFrom n turn opened t = .ok rest)
    (hs : Scans a s (outside (d + opened.length) behind) t) : Resumes d n a s rest :=
  ⟨turn, opened, behind, t, hf, h, hs⟩

/-- In front of a value a container is opened or a scalar passed over. -/
theorem resumes_value (h : skipFrom (n + 1) .value opened s = .ok rest) :
    Resumes d n (outside (d + opened.length) false) s rest := by
  have hs := scans_blank (d + opened.length) s
  rw [skipFrom] at h
  split at h
  · cases h
  next c t hc =>
  rw [hc] at hs
  split at h
  · next hx =>
    subst hx
    exact resumes_of_scans (fits_false _) h (scans_trans hs (scans_opening rfl t))
  split at h
  · next hx =>
    subst hx
    exact resumes_of_scans (fits_false _) h (scans_trans hs (scans_opening rfl t))
  split at h
  · cases h
  · next hscalar =>
    obtain ⟨behind', hs'⟩ := scans_skipScalar hscalar
    have hf : (Turn.after true).Fits behind' := nofun
    exact resumes_of_scans hf h (scans_trans hs hs')

/-- After an item the next one follows, or the array is closed. -/
theorem resumes_array (hf : (Turn.after comma).Fits behind)
    (h : skipFrom (n + 1) (.after comma) (.array :: opened) s = .ok rest) :
    Resumes d n (outside (d + opened.length + 1) behind) s rest := by
  obtain ⟨behind', hs⟩ := scans_blanks (d + opened.length + 1) behind s
  rw [skipFrom] at h
  split at h
  · cases h
  next c t hc =>
  rw [hc] at hs
  split at h
  · next hx => exact resumes_of_scans (fits_false _) h (scans_next hc (by rw [hx.1]; rfl))
  split at h
  · next hx =>
    subst hx
    exact resumes_of_scans (fits_false _) h (scans_trans hs (scans_closing rfl t))
  split at h
  · cases h
  · next hcomma =>
    rw [Bool.not_eq_true] at hcomma
    obtain rfl := hf hcomma
    have hs' := scans_blank (d + opened.length + 1) s
    rw [hc] at hs'
    exact resumes_of_scans (fits_false _) h hs'

/-- After a member the key of the next one follows, or the object is closed. -/
theorem resumes_object (hf : (Turn.after comma).Fits behind)
    (h : skipFrom (n + 1) (.after comma) (.object :: opened) s = .ok rest) :
    Resumes d n (outside (d + opened.length + 1) behind) s rest := by
  obtain ⟨behind', hs⟩ := scans_blanks (d + opened.length + 1) behind s
  rw [skipFrom] at h
  split at h
  · cases h
  next c t hc =>
  rw [hc] at hs
  split at h
  · next hx =>
    subst hx
    exact resumes_of_scans (fits_false _) h (scans_trans hs (scans_closing rfl t))
  split at h
  · cases h
  next hx =>
  split at h
  · cases h
  next hkey =>
  cases comma with
  | true =>
    obtain rfl : c = ',' := by simpa using hx
    exact resumes_of_scans (fits_false _) h (scans_trans (scans_next hc rfl) (scans_skipKey hkey))
  | false =>
    obtain rfl := hf rfl
    have hs' := scans_blank (d + opened.length + 1) s
    rw [hc] at hs'
    exact resumes_of_scans (fits_false _) h (scans_trans hs' (scans_skipKey hkey))

end

/-- What is left of a value closes the containers that are open. -/
theorem scans_skipFrom {n : Nat} {turn : Turn} {opened : List Container} (hf : turn.Fits behind)
    (h : skipFrom n turn opened s = .ok rest) :
    ∃ behind', Scans (outside (d + opened.length) behind) s (outside d behind') rest := by
  induction n generalizing turn opened s behind with
  | zero => cases h
  | succ n ih =>
    have hthen : ∀ {a : Stance}, Resumes d n a s rest →
        ∃ behind', Scans a s (outside d behind') rest := by
      rintro a ⟨turn', opened', behind', t, hf', ht, hs⟩
      obtain ⟨behind'', hrest⟩ := ih hf' ht
      exact ⟨behind'', scans_trans hs hrest⟩
    cases turn with
    | value =>
      obtain rfl := hf
      exact hthen (resumes_value h)
    | after comma =>
      cases opened with
      | nil =>
        rw [skipFrom] at h
        cases h
        exact ⟨behind, scans_refl _ _⟩
      | cons container opened =>
        cases container with
        | array => exact hthen (resumes_array hf h)
        | object => exact hthen (resumes_object hf h)

theorem scans_skipValue (h : skipValue s = .ok rest) :
    ∃ behind, Scans (outside d false) s (outside d behind) rest := by
  unfold skipValue at h
  exact scans_skipFrom (fits_false .value) h

end

end Failsafe.Json
