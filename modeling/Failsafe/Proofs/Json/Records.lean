import Failsafe.Proofs.Json.Legible
/-
  Records are read back from their written form, field by field.

  A field is `Filled` when its value is known and the change that reading it makes to the record.
  `readRecord_filled`: if every field's reader takes back what was written and no required field
  is missing, the record is the blank one with all changes made. `readRecord_error`: a record
  fails as soon as one field's reader does. `readRecord_between`: if no more is known of one field
  than where its reader ends, the record is still that of the others.
-/

namespace Failsafe.Json

/-- A field as it is written, and the change that it makes to a record. -/
structure Filled (σ : Type) where
  name : String
  value : Value
  change : σ → σ

namespace Filled

/-- The field as a member of an object. -/
def member (f : Filled σ) : String × Value := (f.name, f.value)

/-- One of the slots reads the field's value as its change. -/
def Reads (f : Filled σ) (slots : List (Slot σ)) (depth : Nat) : Prop :=
  ∃ slot, slots.find? (fun slot => slot.name == f.name) = some slot ∧
    ∀ s, Delimited s → slot.read depth (f.value.render ++ s) = .ok (f.change, s)

/-- One of the slots is meant for the field and fails to read its value. -/
def Fails (f : Filled σ) (slots : List (Slot σ)) (depth : Nat) : Prop :=
  ∃ slot, slots.find? (fun slot => slot.name == f.name) = some slot ∧
    ∀ s, Delimited s → ∃ fault, slot.read depth (f.value.render ++ s) = .error fault

/-- The record after some fields have been read. -/
def fill (draft : Draft σ) (fields : List (Filled σ)) : Draft σ :=
  fields.foldl (fun d f => ⟨f.change d.record, f.name :: d.set⟩) draft

end Filled

open Filled

theorem store_read {name : String} {presence : Presence} {reader : Nat → Reader α}
    {set : α → σ → σ} {depth : Nat} {s rest : List Char} {a : α}
    (h : reader depth s = .ok (a, rest)) :
    (Slot.store name presence reader set).read depth s = .ok (set a, rest) := by
  show (reader depth s).map _ = _
  rw [h]
  rfl

/-- A field that has not been set is read as its slot reads it. -/
theorem readField_of_slot {slots : List (Slot σ)} {depth : Nat} {name : String} {slot : Slot σ}
    (hslot : slots.find? (fun slot => slot.name == name) = some slot) {draft : Draft σ}
    (hd : name ∉ draft.set) (s : List Char) :
    readField slots depth name draft (':' :: s)
      = (slot.read depth s).map fun (change, rest) =>
        (⟨change draft.record, name :: draft.set⟩, rest) := by
  unfold readField
  rw [hslot]
  simp only [List.contains_iff_mem, hd, if_false]
  simp only [readColon_cons, bind, Except.bind]
  cases slot.read depth s <;> rfl

theorem readField_filled {slots : List (Slot σ)} {depth : Nat} {f : Filled σ}
    (hf : f.Reads slots depth) {draft : Draft σ} (hd : f.name ∉ draft.set) {s : List Char}
    (hs : Delimited s) :
    readField slots depth f.name draft (':' :: (f.value.render ++ s))
      = .ok (⟨f.change draft.record, f.name :: draft.set⟩, s) := by
  obtain ⟨slot, hfind, hread⟩ := hf
  rw [readField_of_slot hfind hd, hread s hs]
  rfl

theorem readField_error {slots : List (Slot σ)} {depth : Nat} {f : Filled σ}
    (hf : f.Fails slots depth) (draft : Draft σ) {s : List Char} (hs : Delimited s) :
    ∃ fault, readField slots depth f.name draft (':' :: (f.value.render ++ s)) = .error fault := by
  obtain ⟨slot, hfind, hread⟩ := hf
  obtain ⟨fault, hr⟩ := hread s hs
  by_cases hd : f.name ∈ draft.set
  · unfold readField
    rw [hfind]
    simp only [List.contains_iff_mem, hd, if_true]
    exact ⟨_, rfl⟩
  · rw [readField_of_slot hfind hd, hr]
    exact ⟨fault, rfl⟩

/-! ## Several fields -/

theorem set_fill (draft : Draft σ) (fields : List (Filled σ)) :
    (fill draft fields).set = (fields.map Filled.name).reverse ++ draft.set := by
  induction fields generalizing draft with
  | nil => rfl
  | cons f fields ih =>
    unfold fill
    rw [List.foldl_cons]
    change (fill _ fields).set = _
    rw [ih, List.map_cons, List.reverse_cons, List.append_assoc]
    rfl

/-- After some fields have been read, the others are read into the record they make. -/
theorem foldMembers_filled {slots : List (Slot σ)} {depth : Nat} (fields : List (Filled σ))
    (more : List (String × Value)) (n : Nat) (first : Bool) (draft : Draft σ) (s : List Char)
    (hr : ∀ f ∈ fields, f.Reads slots depth)
    (hd : (fields.map Filled.name).Nodup) (hs : ∀ f ∈ fields, f.name ∉ draft.set) :
    foldMembers (readField slots depth) (n + fields.length) first draft
        (membersFrom first (fields.map Filled.member ++ more) ++ '\x7d' :: s)
      = foldMembers (readField slots depth) n (first && fields.isEmpty) (fill draft fields)
        (membersFrom (first && fields.isEmpty) more ++ '\x7d' :: s) := by
  induction fields generalizing first draft with
  | nil =>
    rw [List.isEmpty_nil, Bool.and_true]
    rfl
  | cons f fields ih =>
    rw [List.map_cons, List.nodup_cons] at hd
    have hn : ∀ g ∈ fields, g.name ∉ f.name :: draft.set := by
      intro g hg hm
      rcases List.mem_cons.mp hm with he | hm
      · exact hd.1 (he ▸ List.mem_map_of_mem hg)
      · exact hs g (List.mem_cons_of_mem _ hg) hm
    have hi := ih false ⟨f.change draft.record, f.name :: draft.set⟩
      (fun g hg => hr g (List.mem_cons_of_mem _ hg)) hd.2 hn
    have hk := nextKey_membersFrom first f.name f.value (fields.map Filled.member ++ more)
      ('\x7d' :: s)
    rw [List.length_cons, ← Nat.add_assoc, List.map_cons, List.cons_append]
    rw [show Filled.member f = (f.name, f.value) from rfl, foldMembers_member hk,
      readField_filled (hr f List.mem_cons_self) (hs f List.mem_cons_self)
        (delimited_renderNextMembers _ s)]
    rw [Bool.false_and] at hi
    rw [List.isEmpty_cons, Bool.and_false]
    exact hi

theorem missing?_fill {slots : List (Slot σ)} {fields : List (Filled σ)} (draft : Draft σ)
    (h : ∀ slot ∈ slots, slot.presence = .required → slot.name ∈ fields.map Filled.name) :
    (fill draft fields).missing? slots = none := by
  unfold Draft.missing?
  rw [Option.map_eq_none_iff, List.find?_eq_none]
  intro slot hs
  rw [decide_eq_true_iff, not_and]
  intro hp
  have hm := h slot hs hp
  rw [set_fill]
  simp [hm]

/-- A record is read back with all its fields, if none that is required is missing. -/
theorem readRecord_filled {slots : List (Slot σ)} {depth : Nat} (label : String) (blank : σ)
    (fields : List (Filled σ)) (s : List Char) (hr : ∀ f ∈ fields, f.Reads slots depth)
    (hd : (fields.map Filled.name).Nodup)
    (hp : ∀ slot ∈ slots, slot.presence = .required → slot.name ∈ fields.map Filled.name) :
    readRecord label slots blank (depth + 1)
        ((Value.obj (fields.map Filled.member)).render ++ s)
      = .ok ((fill ⟨blank, []⟩ fields).record, s) := by
  have hl := length_lt_membersFrom true (fields.map Filled.member) s
  rw [List.length_map] at hl
  obtain ⟨n, hn⟩ := Nat.exists_eq_add_of_lt hl
  rw [Nat.add_assoc, Nat.add_comm fields.length] at hn
  have hf := foldMembers_filled fields [] (n + 1) true ⟨blank, []⟩ s hr hd
    (fun _ _ h => nomatch h)
  have he : ∀ first, membersFrom first [] = [] := by
    intro first
    cases first <;> rfl
  rw [List.append_nil, ← hn, he, List.nil_append, foldMembers_end] at hf
  rw [render_obj_append]
  unfold readRecord
  simp only [skipBlank_cons (c := '\x7b') rfl, hf, missing?_fill ⟨blank, []⟩ hp]
  rfl

/-- A record is not read if one of its fields is not. -/
theorem readRecord_error {slots : List (Slot σ)} {depth : Nat} (label : String) (blank : σ)
    (fields : List (Filled σ)) (bad : Filled σ) (more : List (String × Value)) (s : List Char)
    (hr : ∀ f ∈ fields, f.Reads slots depth) (hd : (fields.map Filled.name).Nodup)
    (hb : bad.Fails slots depth) :
    ∃ fault, readRecord label slots blank (depth + 1)
        ((Value.obj (fields.map Filled.member ++ bad.member :: more)).render ++ s)
      = .error fault := by
  have hl := length_lt_membersFrom true (fields.map Filled.member ++ bad.member :: more) s
  rw [List.length_append, List.length_map] at hl
  obtain ⟨n, hn⟩ := Nat.exists_eq_add_of_lt (Nat.lt_of_le_of_lt (Nat.le_add_right _ _) hl)
  rw [Nat.add_assoc, Nat.add_comm fields.length] at hn
  have hf := foldMembers_filled fields (bad.member :: more) (n + 1) true ⟨blank, []⟩ s hr
    hd (fun _ _ h => nomatch h)
  obtain ⟨fault, hq⟩ := readField_error hb (fill ⟨blank, []⟩ fields)
    (delimited_renderNextMembers more s)
  have hk := nextKey_membersFrom (true && fields.isEmpty) bad.name bad.value more ('\x7d' :: s)
  rw [show bad.member = (bad.name, bad.value) from rfl] at hf hn ⊢
  rw [← hn, foldMembers_member hk, hq] at hf
  rw [render_obj_append]
  unfold readRecord
  simp only [skipBlank_cons (c := '\x7b') rfl, hf]
  exact ⟨fault, rfl⟩

/-- A record is read up to one of its fields. If that field is read to its own end, so is the
record, and it has the field's change between those of the others. -/
theorem readRecord_between {slots : List (Slot σ)} {depth : Nat} {label : String} {blank a : σ}
    {slot : Slot σ} {s rest : List Char} (front back : List (Filled σ)) (name : String)
    (value : Value) (hfront : ∀ f ∈ front, f.Reads slots depth)
    (hback : ∀ f ∈ back, f.Reads slots depth)
    (hslot : slots.find? (fun slot => slot.name == name) = some slot)
    (hd : (front.map Filled.name ++ name :: back.map Filled.name).Nodup)
    (h : readRecord label slots blank (depth + 1)
      ((Value.obj (front.map Filled.member ++ (name, value) :: back.map Filled.member)).render ++ s)
        = .ok (a, rest)) :
    let behind := renderNextMembers (back.map Filled.member) ++ '\x7d' :: s
    ∃ change rest', slot.read depth (value.render ++ behind) = .ok (change, rest') ∧
      (rest' = behind → rest = s ∧
        a = (fill ⟨blank, []⟩ (front ++ ⟨name, value, change⟩ :: back)).record) := by
  intro behind
  obtain ⟨hfd, hmid, hdisjoint⟩ := List.nodup_append.mp hd
  obtain ⟨hname, hbd⟩ := List.nodup_cons.mp hmid
  have hset : (fill ⟨blank, []⟩ front).set = (front.map Filled.name).reverse := by
    rw [set_fill, List.append_nil]
  have hunset : name ∉ (fill ⟨blank, []⟩ front).set := by
    rw [hset, List.mem_reverse]
    exact fun hm => hdisjoint name hm name List.mem_cons_self rfl
  have hothers : ∀ f ∈ back, f.name ∉ name :: (fill ⟨blank, []⟩ front).set := by
    intro f hf hm
    have hmem : f.name ∈ back.map Filled.name := List.mem_map_of_mem hf
    rcases List.mem_cons.mp hm with he | hm
    · exact hname (he ▸ hmem)
    · rw [hset, List.mem_reverse] at hm
      exact hdisjoint _ hm _ (List.mem_cons_of_mem _ hmem) rfl
  -- a step each for the fields in front, this one and the fields behind it, and one for the end
  have hl := length_lt_membersFrom true
    (front.map Filled.member ++ (name, value) :: back.map Filled.member) s
  rw [List.length_append, List.length_cons, List.length_map, List.length_map] at hl
  obtain ⟨n, hn⟩ := Nat.exists_eq_add_of_lt hl
  have hsteps : front.length + (back.length + 1) + n + 1
      = n + 1 + back.length + 1 + front.length := by omega
  rw [hsteps] at hn
  have hf := foldMembers_filled front ((name, value) :: back.map Filled.member)
    (n + 1 + back.length + 1) true ⟨blank, []⟩ s hfront hfd (fun _ _ h => nomatch h)
  rw [← hn, foldMembers_member (nextKey_membersFrom _ name value _ _),
    readField_of_slot hslot hunset] at hf
  rw [render_obj_append] at h
  unfold readRecord at h
  simp only [skipBlank_cons (c := '\x7b') rfl, hf] at h
  cases hread : slot.read depth (value.render ++ behind) with
  | error f =>
    rw [hread] at h
    cases h
  | ok x =>
    obtain ⟨change, rest'⟩ := x
    refine ⟨change, rest', rfl, ?_⟩
    rintro rfl
    have hb := foldMembers_filled back [] (n + 1) false
      ⟨change (fill ⟨blank, []⟩ front).record, name :: (fill ⟨blank, []⟩ front).set⟩ s hback hbd
      hothers
    rw [List.append_nil] at hb
    change foldMembers _ _ false _ behind = foldMembers _ (n + 1) false _ ('\x7d' :: s) at hb
    rw [foldMembers_end] at hb
    rw [hread] at h
    simp only [Except.map, Except.bind] at h
    rw [hb] at h
    dsimp only at h
    split at h
    · cases h
    · cases h
      refine ⟨rfl, ?_⟩
      unfold fill
      rw [List.foldl_append]
      rfl

end Failsafe.Json
