import Failsafe.Proofs.Json.Readings
import Failsafe.Proofs.Json.Skipping
/-
  Whatever is read successfully is balanced.

  What a reader passes over leads back to the depth where it began, for values of any shape
  (`isBalanced_readNested`) and for records (`scans_readRecord`). So an object is read to its own
  end, whatever it holds (`rest_of_readObject`), and a text that leaves a bracket open is not read
  whole (`readAll_of_cut`).
-/

namespace Failsafe.Json

open Stance

/-! ## Containers -/

/-- What a reader passes over leads back to the depth where it began. -/
def IsBalanced (reader : Reader α) : Prop :=
  ∀ s a rest, reader s = .ok (a, rest) →
    ∀ d, ∃ behind, Scans (outside d false) s (outside d behind) rest

/-- What a reader passes over behind the key of a member leads back to the depth of the key. -/
def IsMember (reader : Reader α) : Prop :=
  ∀ s a rest, reader s = .ok (a, rest) →
    ∀ d, ∃ behind, Scans (outside d true) s (outside d behind) rest

section
variable {s t rest : List Char} {d : Nat} {first behind : Bool}

theorem scans_nextItem (hf : first = true → behind = false) (h : nextItem first s = .ok (true, t)) :
    Scans (outside d behind) s (outside d false) t := by
  unfold nextItem at h
  split at h
  · cases h
  · cases h
  · next c u _ hs =>
    split at h
    · next hfirst =>
      cases h
      obtain rfl := hf hfirst
      have hblank := scans_blank d s
      rwa [hs] at hblank
    · split at h
      · next hc =>
        subst hc
        split at h <;> cases h
        exact scans_trans (scans_next hs rfl) (scans_blank d u)
      · cases h

theorem scans_lastItem (h : nextItem first s = .ok (false, t)) :
    ∃ behind' u, t = ']' :: u ∧ Scans (outside d behind) s (outside d behind') t := by
  obtain ⟨behind', hblank⟩ := scans_blanks d behind s
  unfold nextItem at h
  split at h
  · cases h
  · next hs =>
    cases h
    rw [hs] at hblank
    exact ⟨behind', _, rfl, hblank⟩
  · split at h
    · cases h
    · split at h
      · split at h <;> cases h
      · cases h

/-- A key is opened by a quote outside of strings. -/
theorem scans_nextKey (hf : first = true → behind = false) (h : nextKey first s = .ok (true, t)) :
    Scans (outside d behind) s (outside d false) ('"' :: t) := by
  unfold nextKey at h
  split at h
  · cases h
  · cases h
  · next c u _ hs =>
    split at h
    · next hfirst =>
      split at h
      · next hc =>
        cases h
        subst hc
        obtain rfl := hf hfirst
        have hblank := scans_blank d s
        rwa [hs] at hblank
      · cases h
    · split at h
      · next hc =>
        subst hc
        have hblank : Scans (outside d behind) s (outside d false) (skipBlank u) :=
          scans_trans (scans_next hs rfl) (scans_blank d u)
        split at h
        · cases h
        · next hu =>
          cases h
          rwa [hu] at hblank
        · cases h
        · cases h
      · cases h

theorem scans_lastKey (h : nextKey first s = .ok (false, t)) :
    ∃ behind' u, t = '}' :: u ∧ Scans (outside d behind) s (outside d behind') t := by
  obtain ⟨behind', hblank⟩ := scans_blanks d behind s
  unfold nextKey at h
  split at h
  · cases h
  · next hs =>
    cases h
    rw [hs] at hblank
    exact ⟨behind', _, rfl, hblank⟩
  · split at h
    · split at h <;> cases h
    · split at h
      · split at h <;> cases h
      · cases h

/-- From in front of a key to behind it. -/
theorem scans_key {key : String} (hs : Scans (outside d behind) s (outside d false) ('"' :: t))
    (h : readString t = .ok (key, rest)) :
    Scans (outside d behind) s (outside d true) rest :=
  scans_trans hs (scans_trans (scans_quote t) (scans_readString h))

/-- An array, from behind its opening bracket on. -/
theorem scans_readItems {item : Reader α} (hi : IsBalanced item) {n : Nat} {acc l : List α}
    (hf : first = true → behind = false) (h : readItems item n first acc s = .ok (l, rest)) :
    Scans (outside (d + 1) behind) s (outside d false) rest := by
  induction n generalizing s first behind acc with
  | zero => cases h
  | succ n ih =>
    obtain ⟨m, hn, hcases⟩ := readItems_cases h
    obtain rfl := Nat.succ.inj hn
    rcases hcases with ⟨t, ht, -, rfl⟩ | ⟨t, a, u, ht, hitem, hrest⟩
    · obtain ⟨behind', u, rfl, hs⟩ := scans_lastItem ht
      exact scans_trans hs (scans_closing rfl u)
    · obtain ⟨behind', hs'⟩ := hi _ _ _ hitem (d + 1)
      exact scans_trans (scans_nextItem hf ht)
        (scans_trans hs' (ih (absurd · Bool.false_ne_true) hrest))

/-- The members of an object; the text is left at the closing brace. -/
theorem scans_foldMembers {member : String → σ → Reader σ} (hm : ∀ k a, IsMember (member k a))
    {n : Nat} {a a' : σ} (hf : first = true → behind = false)
    (h : foldMembers member n first a s = .ok (a', rest)) :
    ∃ behind' u, rest = '}' :: u ∧ Scans (outside d behind) s (outside d behind') rest := by
  induction n generalizing s first behind a with
  | zero => cases h
  | succ n ih =>
    obtain ⟨m, hn, hcases⟩ := foldMembers_cases h
    obtain rfl := Nat.succ.inj hn
    rcases hcases with ⟨ht, -⟩ | ⟨t, key, u, next, v, ht, hkey, hmember, hrest⟩
    · exact scans_lastKey ht
    · have hs := scans_key (scans_nextKey (d := d) hf ht) hkey
      obtain ⟨behind', hs'⟩ := hm _ _ _ _ _ hmember d
      obtain ⟨behind'', w, hw, hmembers⟩ := ih (absurd · Bool.false_ne_true) hrest
      exact ⟨behind'', w, hw, scans_trans hs (scans_trans hs' hmembers)⟩

/-- An object, from behind its opening brace on. -/
theorem scans_members {member : String → σ → Reader σ} (hm : ∀ k a, IsMember (member k a))
    {n : Nat} {a a' : σ} (hf : first = true → behind = false)
    (h : foldMembers member n first a s = .ok (a', rest)) :
    Scans (outside (d + 1) behind) s (outside d false) (rest.drop 1) := by
  obtain ⟨behind', u, rfl, hs⟩ := scans_foldMembers (d := d + 1) hm hf h
  exact scans_trans hs (scans_closing rfl u)

theorem isBalanced_readText (expected : String) : IsBalanced (readText expected) := by
  intro s t rest h d
  have hs := scans_blank d s
  unfold readText at h
  split at h
  · cases h
  · next hq =>
    rw [hq] at hs
    exact ⟨true, scans_trans hs (scans_trans (scans_quote _) (scans_readString h))⟩
  · cases h

end

/-! ## Values of any shape -/

theorem isMember_readMember {value : Reader Value} (hv : IsBalanced value) (key : String)
    (members : Members) : IsMember (readMember value key members) := by
  intro s a rest h d
  obtain ⟨t, v, hcolon, hvalue, -⟩ := readMember_eq_ok h
  obtain ⟨behind, hs⟩ := hv _ _ _ hvalue d
  exact ⟨behind, scans_trans (scans_readColon hcolon) hs⟩

/-- An object that quotes a value, from behind its key on. -/
theorem scans_readQuoted {whole : List Char → Except Fault Value} {s rest : List Char} {v : Value}
    {d : Nat} (h : readQuoted whole s = .ok (v, rest)) :
    Scans (outside (d + 1) true) s (outside d false) rest := by
  obtain ⟨t, text, u, hcolon, htext, -, hclose⟩ := readQuoted_eq_ok h
  obtain ⟨behind, hs⟩ := isBalanced_readText _ _ _ _ htext (d + 1)
  obtain ⟨behind', hs'⟩ := scans_blanks (d + 1) behind u
  rw [hclose] at hs'
  exact scans_trans (scans_readColon hcolon)
    (scans_trans hs (scans_trans hs' (scans_closing rfl rest)))

theorem scans_readFields {whole : List Char → Except Fault Value} {value : Reader Value}
    (hv : IsBalanced value) {s rest : List Char} {v : Value} {d : Nat}
    (h : readFields whole value s = .ok (v, rest)) :
    Scans (outside (d + 1) false) s (outside d false) rest := by
  rcases readFields_cases h with ⟨t, ht, -, rfl⟩ | ⟨t, u, ht, hkey, hquoted⟩ |
    ⟨t, key, u, first, w, members, x, ht, hkey, -, hfirst, hmembers, -, rfl⟩
  · obtain ⟨behind, u, rfl, hs⟩ := scans_lastKey ht
    exact scans_trans hs (scans_closing rfl u)
  · exact scans_trans (scans_key (scans_nextKey (fun _ => rfl) ht) hkey)
      (scans_readQuoted hquoted)
  · have hs := scans_key (scans_nextKey (d := d + 1) (fun _ => rfl) ht) hkey
    obtain ⟨behind, hs'⟩ := isMember_readMember hv _ _ _ _ _ hfirst (d + 1)
    have hrest : Scans (outside (d + 1) behind) w (outside d false) (x.drop 1) :=
      scans_members (isMember_readMember hv) (absurd · Bool.false_ne_true) hmembers
    exact scans_trans hs (scans_trans hs' hrest)

/-- A value is balanced if those in its containers are. -/
theorem isBalanced_readNested_of {whole : List Char → Except Fault Value} {depth : Nat}
    (hinner : ∀ depth', depth = depth' + 1 → IsBalanced (readNested whole depth')) :
    IsBalanced (readNested whole depth) := by
  intro s v rest h d
  have hs := scans_blank d s
  obtain ⟨c, t, hc, hread⟩ := readNested_cases h
  rw [hc] at hs
  -- a scalar without structure
  have hplain : ∀ {u : List Char}, Passes u rest → Scans (outside d false) s (outside d false) u →
      ∃ behind, Scans (outside d false) s (outside d behind) rest := fun hp hu =>
    ⟨false, scans_trans hu (scans_of_passes hp d)⟩
  cases hread with
  | null hw => exact hplain (passes_cons rfl (passes_readWord (other_of_all rfl) hw)) hs
  | true hw => exact hplain (passes_cons rfl (passes_readWord (other_of_all rfl) hw)) hs
  | false hw => exact hplain (passes_cons rfl (passes_readWord (other_of_all rfl) hw)) hs
  | negative hn => exact hplain (passes_cons rfl (passes_readNumber hn)) hs
  | positive _ hn => exact hplain (passes_readNumber hn) hs
  | string hstr =>
    exact ⟨true, scans_trans hs (scans_trans (scans_quote t) (scans_readString hstr))⟩
  | list hitems =>
    have hread := scans_readItems (d := d) (hinner _ rfl) (fun _ => rfl) hitems
    exact ⟨false, scans_trans hs (scans_trans (scans_opening rfl t) hread)⟩
  | map hfields =>
    have hread := scans_readFields (d := d) (hinner _ rfl) hfields
    exact ⟨false, scans_trans hs (scans_trans (scans_opening rfl t) hread)⟩

theorem isBalanced_readNested (whole : List Char → Except Fault Value) (depth : Nat) :
    IsBalanced (readNested whole depth) := by
  induction depth with
  | zero => exact isBalanced_readNested_of nofun
  | succ depth ih =>
    refine isBalanced_readNested_of fun depth' hd => ?_
    obtain rfl := Nat.succ.inj hd
    exact ih

/-! ## Records -/

theorem isBalanced_map {reader : Reader α} (h : IsBalanced reader) (f : α → β) :
    IsBalanced fun s => (reader s).map fun (a, rest) => (f a, rest) := by
  intro s b rest hs
  obtain ⟨x, hr, he⟩ := map_eq_ok_iff.mp hs
  cases he
  exact h _ _ _ hr

theorem isBalanced_readFormatted (expected : String) (parse : String → Except String α) :
    IsBalanced (readFormatted expected parse) := by
  intro s a rest h
  obtain ⟨text, htext, -⟩ := readFormatted_eq_ok h
  exact isBalanced_readText expected _ _ _ htext

theorem isBalanced_readNatural (limit : Nat) (expected : String) :
    IsBalanced (readNatural limit expected) := by
  intro s n rest h d
  have hs := scans_blank d s
  obtain ⟨-, c, t, x, hc, hread⟩ := readNatural_eq_ok h
  rw [hc] at hs
  have hp : Passes (c :: t) rest := by
    rcases hread with ⟨rfl, hx⟩ | ⟨-, hx⟩
    · exact passes_cons rfl (passes_readNumber hx)
    · exact passes_readNumber hx
  exact ⟨false, scans_trans hs (scans_of_passes hp d)⟩

theorem isBalanced_readOption {reader : Reader α} (h : IsBalanced reader) :
    IsBalanced (readOption reader) := by
  intro s o rest ho d
  have hs := scans_blank d s
  rcases readOption_eq_ok ho with ⟨t, ht, hnull, -⟩ | ⟨a, ha, -⟩
  · rw [ht] at hs
    have hp : Passes ('n' :: t) rest := passes_cons rfl (passes_readWord (other_of_all rfl) hnull)
    exact ⟨false, scans_trans hs (scans_of_passes hp d)⟩
  · obtain ⟨behind, hr⟩ := h _ _ _ ha d
    exact ⟨behind, scans_trans hs hr⟩

/-- A name is a string, or an object around one. -/
theorem isBalanced_readName (table : List (String × α)) (depth : Nat) :
    IsBalanced (readName table depth) := by
  intro s a rest h d
  have hs := scans_blank d s
  rcases readName_cases h with ⟨t, name, ht, hname⟩ |
    ⟨t, u, name, v, w, x, y, ht, hu, hname, hcolon, hx, hnull, hclose⟩
  · rw [ht] at hs
    exact ⟨true, scans_trans hs (scans_trans (scans_quote t) (scans_readString hname))⟩
  · rw [ht] at hs
    have hopen := scans_trans hs (scans_opening rfl t)
    have hkey := scans_blank (d + 1) t
    rw [hu] at hkey
    have hvalue : Scans (outside (d + 1) true) v (outside (d + 1) false) (skipBlank w) :=
      scans_trans (scans_readColon hcolon) (scans_blank (d + 1) w)
    rw [hx] at hvalue
    have hp : Passes ('n' :: x) y := passes_cons rfl (passes_readWord (other_of_all rfl) hnull)
    have hrest := scans_trans (scans_of_passes hp (d + 1)) (scans_blank (d + 1) y)
    rw [hclose] at hrest
    exact ⟨false, scans_trans hopen (scans_trans (scans_key hkey hname)
      (scans_trans hvalue (scans_trans hrest (scans_closing rfl rest))))⟩

theorem isBalanced_readObject (depth : Nat) : IsBalanced (readObject depth) := by
  intro s members rest h d
  have hs := scans_blank d s
  obtain ⟨depth', t, x, -, ht, hmembers, rfl⟩ := readObject_eq_ok h
  rw [ht] at hs
  have hread := scans_members (d := d) (isMember_readMember (isBalanced_readNested _ depth'))
    (fun _ => rfl) hmembers
  exact ⟨false, scans_trans hs (scans_trans (scans_opening rfl t) hread)⟩

/-- Whatever an object holds, what is read of its text ends where the text does. -/
theorem rest_of_readObject {depth : Nat} {data members : Members} {s rest : List Char}
    (h : readObject depth ((Value.obj data).render ++ s) = .ok (members, rest)) : rest = s := by
  have htext : (Value.obj data).render ++ s = '{' :: (renderMembers data ++ '}' :: s) := by
    rw [Value.render, List.cons_append, List.append_assoc]
    rfl
  obtain ⟨depth', t, x, -, ht, hmembers, rfl⟩ := readObject_eq_ok h
  rw [htext, skipBlank_cons (c := '{') rfl] at ht
  obtain rfl := (List.cons.inj ht).2
  obtain ⟨behind, u, rfl, used, hused, hfollow⟩ := scans_foldMembers (d := 0)
    (isMember_readMember (isBalanced_readNested _ depth')) (fun _ => rfl) hmembers
  obtain ⟨behind', hlevel⟩ := isLevel_renderMembers data 0
  exact (eq_of_closing hlevel hfollow hused).2.symm

theorem isBalanced_store {name : String} {presence : Presence} {reader : Nat → Reader α}
    {set : α → σ → σ} (h : ∀ depth, IsBalanced (reader depth)) (depth : Nat) :
    IsBalanced ((Slot.store name presence reader set).read depth) :=
  isBalanced_map (h depth) set

/-- A field that is known is read, any other is passed over. -/
theorem isMember_readField {slots : List (Slot σ)}
    (hs : ∀ slot ∈ slots, ∀ depth, IsBalanced (slot.read depth)) (depth : Nat) (key : String)
    (draft : Draft σ) : IsMember (readField slots depth key draft) := by
  intro s a rest h d
  obtain ⟨t, hcolon, ⟨hskip, -⟩ | ⟨slot, hslot, change, hread, -⟩⟩ := readField_cases h
  · obtain ⟨behind, ht⟩ := scans_skipValue (d := d) hskip
    exact ⟨behind, scans_trans (scans_readColon hcolon) ht⟩
  · obtain ⟨behind, ht⟩ := hs slot hslot depth _ _ _ hread d
    exact ⟨behind, scans_trans (scans_readColon hcolon) ht⟩

/-- A record that is written as an object. -/
theorem scans_readRecord {label : String} {slots : List (Slot σ)} {blank a : σ} {depth : Nat}
    (hs : ∀ slot ∈ slots, ∀ depth, IsBalanced (slot.read depth)) {t rest : List Char} {d : Nat}
    (h : readRecord label slots blank (depth + 1) ('{' :: t) = .ok (a, rest)) :
    Scans (outside d false) ('{' :: t) (outside d false) rest := by
  have hb : skipBlank ('{' :: t) = '{' :: t := skipBlank_cons rfl t
  rcases readRecord_cases h with ⟨t', draft, u, ht, hmembers, -, rfl⟩ | ⟨t', u, ht, -⟩
  · obtain rfl := (List.cons.inj (hb.symm.trans ht)).2
    exact scans_trans (scans_opening rfl t)
      (scans_members (isMember_readField hs depth) (fun _ => rfl) hmembers)
  · cases hb.symm.trans ht

/-! ## Texts that have been cut off -/

/-- No text is read whole that begins with a part of an object and goes on with something that
closes none of the brackets in front of it. -/
theorem readAll_of_cut {reader : Reader α}
    (hr : ∀ t a rest, reader ('{' :: t) = .ok (a, rest) →
      Scans (outside 0 false) ('{' :: t) (outside 0 false) rest)
    {members : List (String × Value)} {p : List Char} (hp : p ≠ [])
    (hcut : p <+: (Value.obj members).render) (hne : p ≠ (Value.obj members).render)
    {l : List Char} (hl : ∀ a b : Stance, 1 ≤ a.depth → a.follow l = some b → 1 ≤ b.depth) :
    ∃ f, readAll reader (p ++ l) = .error f := by
  cases h : readAll reader (p ++ l) with
  | error f => exact ⟨f, rfl⟩
  | ok a =>
    exfalso
    obtain ⟨q, rfl⟩ : ∃ q, p = '{' :: q := by
      obtain ⟨x, q, rfl⟩ := List.exists_cons_of_ne_nil hp
      rw [Value.render] at hcut
      exact ⟨q, congrArg (· :: q) (List.cons_prefix_cons.mp hcut).1⟩
    obtain ⟨rest, hread, hend⟩ := readAll_eq_ok h
    obtain ⟨behind, hblank⟩ := scans_blanks 0 false rest
    rw [hend] at hblank
    obtain ⟨used, hused, hfollow⟩ := scans_trans (hr _ _ _ hread) hblank
    obtain ⟨b, hb, hdepth⟩ := depth_of_cut hp hcut hne
    rw [List.append_nil] at hused
    have htext : (outside 0 false).follow ('{' :: q ++ l) = some (outside 0 behind) :=
      (congrArg _ hused).trans hfollow
    rw [follow_append, hb] at htext
    exact absurd (hl _ _ hdepth htext) (Nat.not_succ_le_zero 0)

end Failsafe.Json
