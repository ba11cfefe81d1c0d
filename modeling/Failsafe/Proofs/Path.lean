import Failsafe.Path
/-
  Paths and the names in them.

  A path that is put together from names has these names (`names_ofParts`). So the directories
  above a path that ends with one more name are the directory without that name and those above it
  in turn (`above_of_snoc`), which is the order in which they are made. Their paths are no longer
  than the path that they are above (`utf8ByteSize_ofParts_le`).
-/

namespace Failsafe.Path

/-- What can stand between two slashes. -/
structure IsName (name : String) : Prop where
  nonempty : name ≠ ""
  slashless : '/' ∉ name.toList

/-- Names as a path is stripped to: a dot says something only in front, where no slash is. -/
structure IsTrim (rooted : Bool) (l : List String) : Prop where
  names : ∀ name ∈ l, IsName name
  lead : rooted = true → "." ∉ l
  inner : "." ∉ l.tail

/-- The names in a path that lead to another place. -/
def steps (path : String) : List String := (names path).filter fun name => name ≠ "."

/-- Two dots stand only in front of the names, or behind other dots. -/
def LeadsDown (l : List String) : Prop := l.Pairwise fun x y => y = ".." → x = "." ∨ x = ".."

/-- The path never leads back up behind a name. -/
def IsDirect (path : String) : Prop := LeadsDown (names path)

instance (path : String) : Decidable (IsDirect path) :=
  inferInstanceAs (Decidable ((names path).Pairwise _))

/-! ## Names -/

/-- The pieces of a text that has been split hold no separator. -/
theorem not_mem_of_mem_splitOn {c : Char} (s : List Char) : ∀ l ∈ s.splitOn c, c ∉ l := by
  induction s with
  | nil => simp [List.splitOn_nil]
  | cons d s ih =>
    rw [List.splitOn_cons_eq_if_modifyHead]
    split
    · rw [List.forall_mem_cons]
      exact ⟨List.not_mem_nil, ih⟩
    · next hd =>
      cases hs : s.splitOn c with
      | nil => simp
      | cons first rest =>
        rw [hs, List.forall_mem_cons] at ih
        rw [List.modifyHead_cons, List.forall_mem_cons, List.mem_cons]
        refine ⟨?_, ih.2⟩
        rintro (rfl | hm)
        · simp at hd
        · exact ih.1 hm

theorem isName_of_mem_names {path name : String} (h : name ∈ names path) : IsName name := by
  unfold names at h
  rw [List.mem_filter, List.mem_map] at h
  obtain ⟨⟨l, hl, rfl⟩, hn⟩ := h
  refine ⟨of_decide_eq_true hn, ?_⟩
  rw [String.toList_ofList]
  exact not_mem_of_mem_splitOn path.toList l hl

theorem toList_ofParts (rooted : Bool) (l : List String) :
    (ofParts rooted l).toList
      = (if rooted then ['/'] else []) ++ ['/'].intercalate (l.map String.toList) := by
  unfold ofParts
  rw [String.toList_append, String.toList_intercalate]
  cases rooted <;> rfl

theorem splitOn_intercalate_names {l : List String} (h : ∀ name ∈ l, IsName name) :
    ((['/'].intercalate (l.map String.toList)).splitOn '/').map String.ofList
      = if l = [] then [""] else l := by
  split
  · next hl =>
    rw [hl]
    rfl
  · next hl =>
    rw [List.splitOn_intercalate]
    · rw [List.map_map]
      exact (List.map_congr_left fun name _ => String.ofList_toList).trans (List.map_id l)
    · rw [List.forall_mem_map]
      exact fun name hn => (h name hn).slashless
    · simpa using hl

/-- The names of a path are those from which it is put together. -/
theorem names_ofParts {rooted : Bool} {l : List String} (h : ∀ name ∈ l, IsName name) :
    names (ofParts rooted l) = l := by
  have hl : (if l = [] then [""] else l).filter (fun name => name ≠ "") = l := by
    split
    · next hl =>
      rw [hl]
      rfl
    · rw [List.filter_eq_self]
      exact fun name hn => decide_eq_true (h name hn).nonempty
  unfold names
  rw [toList_ofParts]
  cases rooted with
  | false =>
    rw [if_neg Bool.false_ne_true, List.nil_append, splitOn_intercalate_names h]
    exact hl
  | true =>
    have hs := List.splitOn_append_cons_self (a := '/') [] (['/'].intercalate (l.map String.toList))
    rw [if_pos rfl, List.singleton_append]
    rw [List.nil_append] at hs
    rw [hs, List.splitOn_nil, List.singleton_append, List.map_cons, splitOn_intercalate_names h]
    exact hl

theorem isRooted_ofParts {rooted : Bool} {l : List String} (h : ∀ name ∈ l, IsName name) :
    isRooted (ofParts rooted l) = rooted := by
  unfold isRooted
  cases rooted with
  | true =>
    rw [String.startsWith_string_iff, toList_ofParts]
    exact List.prefix_append ..
  | false =>
    rw [String.startsWith_string_eq_false_iff, toList_ofParts, if_neg Bool.false_ne_true,
      List.nil_append]
    cases l with
    | nil => simp
    | cons first rest =>
      obtain ⟨hne, hs⟩ := h first List.mem_cons_self
      cases hf : first.toList with
      | nil => exact absurd (String.toList_eq_nil_iff.mp hf) hne
      | cons c t =>
        rw [hf, List.mem_cons, not_or] at hs
        cases rest with
        | nil => simpa [hf] using hs.1
        | cons second rest => simpa [hf] using hs.1

/-! ## Stripped paths -/

theorem isTrim_of_snoc {rooted : Bool} {l : List String} {name : String}
    (h : IsTrim rooted (l ++ [name])) : IsTrim rooted l where
  names x hx := h.names x (List.mem_append_left _ hx)
  lead hr hd := h.lead hr (List.mem_append_left _ hd)
  inner hd := by
    cases l with
    | nil => simp at hd
    | cons first rest => exact h.inner (List.mem_append_left _ hd)

/-- A dot is only in front. -/
theorem eq_nil_of_dot {rooted : Bool} {l : List String} (h : IsTrim rooted (l ++ ["."])) :
    l = [] := by
  cases l with
  | nil => rfl
  | cons first rest => exact absurd (List.mem_append_right rest List.mem_cons_self) h.inner

theorem isTrim_parts (path : String) : IsTrim (isRooted path) (parts path) := by
  have hn := @isName_of_mem_names path
  unfold parts
  dsimp only
  split
  · next rest hr hl =>
    rw [hl] at hn
    refine ⟨?_, ?_, ?_⟩
    · rw [List.forall_mem_cons]
      exact ⟨hn List.mem_cons_self, fun x hx =>
        hn (List.mem_cons_of_mem _ (List.mem_filter.mp hx).1)⟩
    · rw [hr]
      exact nofun
    · simp
  · refine ⟨fun x hx => hn (List.mem_filter.mp hx).1, ?_, ?_⟩
    · simp
    · intro hd
      simpa using List.mem_of_mem_tail hd

/-- Stripping a path takes nothing but dots away. -/
theorem filter_parts (path : String) :
    ((parts path).filter fun name => name ≠ ".") = steps path := by
  unfold parts steps
  dsimp only
  split
  · next rest _ hl => simp [hl, List.filter_filter]
  · simp [List.filter_filter]

theorem parts_sublist_names (path : String) : (parts path).Sublist (names path) := by
  unfold parts
  dsimp only
  split
  · next rest _ hl =>
    rw [hl]
    exact List.filter_sublist.cons_cons _
  · exact List.filter_sublist

/-- If a path never leads back up behind a name, the path of the directory above does not either. -/
theorem leadsDown_of_isDirect {path : String} {l : List String} {x : String}
    (hp : parts path = l ++ [x]) (h : IsDirect path) : LeadsDown l := by
  have hparts := h.sublist (parts_sublist_names path)
  rw [hp] at hparts
  exact (List.pairwise_append.mp hparts).1

/-- A path without steps has no directories above it, and all but the last step of another lead to
the directory above it. -/
theorem steps_cases (path : String) : (parts path = [] ∧ steps path = []) ∨
    ∃ l x, parts path = l ++ [x] ∧
      (steps path).dropLast = l.filter fun name => name ≠ "." := by
  have hs := filter_parts path
  rcases List.eq_nil_or_concat (parts path) with hp | ⟨l, x, hp⟩
  · rw [hp] at hs
    exact Or.inl ⟨hp, hs.symm⟩
  rw [List.concat_eq_append] at hp
  refine Or.inr ⟨l, x, hp, ?_⟩
  rw [← hs, hp, List.filter_append]
  by_cases hx : x = "."
  · subst hx
    obtain rfl := eq_nil_of_dot (hp ▸ isTrim_parts path)
    rfl
  · rw [List.filter_cons_of_pos (by simpa using hx), List.filter_nil, List.dropLast_concat]

theorem parts_ofParts {rooted : Bool} {l : List String} (h : IsTrim rooted l) :
    parts (ofParts rooted l) = l := by
  unfold parts
  rw [names_ofParts h.names, isRooted_ofParts h.names]
  dsimp only
  split
  · next rest =>
    have hi : "." ∉ rest := h.inner
    rw [List.filter_eq_self.mpr]
    intro x hx
    suffices x ≠ "." by simpa using this
    rintro rfl
    exact hi hx
  · next hl =>
    rw [List.filter_eq_self.mpr]
    intro x hx
    suffices x ≠ "." by simpa using this
    rintro rfl
    cases rooted with
    | true => exact h.lead rfl hx
    | false =>
      cases l with
      | nil => cases hx
      | cons first rest =>
        rcases List.mem_cons.mp hx with rfl | hr
        · exact hl rest rfl rfl
        · exact h.inner hr

/-! ## The directories above -/

/-- A directory and those above it, innermost first. The empty path is none. -/
def chain (rooted : Bool) (l : List String) : List String :=
  if rooted || !l.isEmpty then ofParts rooted l :: above (ofParts rooted l) else []

theorem above_eq (path : String) : above path
    = (((List.range (parts path).length).reverse.map (parts path).take).filter fun l =>
      isRooted path || !l.isEmpty).map (ofParts (isRooted path)) := rfl

theorem above_of_nil {path : String} (h : parts path = []) : above path = [] := by
  rw [above_eq, h]
  rfl

/-- What is above a path is the chain of the directory that its last name is in. -/
theorem above_of_snoc {path : String} {l : List String} {name : String}
    (h : parts path = l ++ [name]) : above path = chain (isRooted path) l := by
  have ht : IsTrim (isRooted path) l := isTrim_of_snoc (h ▸ isTrim_parts path)
  have htake : (List.range l.length).reverse.map (l ++ [name]).take
      = (List.range l.length).reverse.map l.take := by
    refine List.map_congr_left fun i hi => ?_
    rw [List.mem_reverse, List.mem_range] at hi
    rw [List.take_append_of_le_length (Nat.le_of_lt hi)]
  unfold chain
  rw [above_eq, h, List.length_append, List.length_singleton, List.range_succ,
    List.reverse_append, List.reverse_singleton, List.singleton_append, List.map_cons,
    List.take_left' rfl, htake, List.filter_cons]
  split
  · rw [List.map_cons, above_eq, parts_ofParts ht, isRooted_ofParts ht.names]
  · next hl =>
    rw [Bool.not_eq_true, Bool.or_eq_false_iff, Bool.not_eq_false', List.isEmpty_iff] at hl
    rw [hl.2]
    rfl

/-- A directory that the text of a path names has a path that is not empty. -/
theorem ofParts_ne_empty {rooted : Bool} {l : List String} (h : ∀ name ∈ l, IsName name)
    (hl : (rooted || !l.isEmpty) = true) : ofParts rooted l ≠ "" := by
  intro he
  have hr : isRooted "" = rooted := he ▸ isRooted_ofParts h
  have hn : names "" = l := he ▸ names_ofParts h
  have hr' : isRooted "" = false := by
    unfold isRooted
    rw [String.startsWith_string_eq_false_iff]
    simp
  rw [← hr, ← hn, hr'] at hl
  simp [names] at hl

theorem chain_of_ne_empty {rooted : Bool} {l : List String} (h : ofParts rooted l ≠ "") :
    chain rooted l = ofParts rooted l :: above (ofParts rooted l) := by
  unfold chain
  split
  · rfl
  · next hl =>
    rw [Bool.not_eq_true, Bool.or_eq_false_iff, Bool.not_eq_false', List.isEmpty_iff] at hl
    rw [hl.1, hl.2] at h
    exact absurd rfl h

theorem isTrim_nil (rooted : Bool) : IsTrim rooted [] := by
  constructor <;> simp

/-- Above the root there is nothing. -/
theorem chain_root : chain true [] = [ofParts true []] := by
  rw [chain, above_of_nil (parts_ofParts (isTrim_nil true))]
  rfl

theorem chain_snoc {rooted : Bool} {l : List String} {name : String}
    (h : IsTrim rooted (l ++ [name])) :
    chain rooted (l ++ [name]) = ofParts rooted (l ++ [name]) :: chain rooted l := by
  have ha := above_of_snoc (parts_ofParts h)
  rw [isRooted_ofParts h.names] at ha
  rw [chain, if_pos (by simp), ha]

theorem intercalate_concat (c : Char) (first : List Char) (rest : List (List Char))
    (l : List Char) : [c].intercalate (first :: (rest ++ [l]))
      = [c].intercalate (first :: rest) ++ c :: l := by
  induction rest generalizing first with
  | nil => simp
  | cons second rest ih => simp [ih]

/-- A path with one name more begins like the one without. -/
theorem ofParts_snoc (rooted : Bool) (l : List String) (name : String) :
    ∃ more, ofParts rooted (l ++ [name]) = ofParts rooted l ++ more := by
  cases l with
  | nil =>
    refine ⟨name, String.toList_injective ?_⟩
    simp [String.toList_append, toList_ofParts]
  | cons first rest =>
    refine ⟨"/" ++ name, String.toList_injective ?_⟩
    rw [String.toList_append, String.toList_append, toList_ofParts, toList_ofParts,
      List.append_assoc, List.cons_append, List.map_cons, List.map_append, List.map_cons,
      List.map_nil, intercalate_concat, List.map_cons]
    rfl

/-! ## Sizes -/

/-- How many bytes some names have, with a slash for each. -/
def weight : List String → Nat
  | [] => 0
  | name :: l => name.utf8ByteSize + 1 + weight l

theorem utf8ByteSize_intercalate (first : String) (rest : List String) :
    (String.intercalate "/" (first :: rest)).utf8ByteSize + 1 = weight (first :: rest) := by
  induction rest generalizing first with
  | nil =>
    rw [String.intercalate_singleton]
    rfl
  | cons second rest ih =>
    rw [weight, ← ih second, String.intercalate_cons_cons, String.utf8ByteSize_append,
      String.utf8ByteSize_append, show "/".utf8ByteSize = 1 from rfl]
    omega

theorem weight_le_of_sublist {l l' : List String} (h : l.Sublist l') : weight l ≤ weight l' := by
  induction h with
  | slnil => exact Nat.le_refl _
  | cons name _ ih =>
    rw [weight]
    omega
  | cons_cons name _ ih =>
    rw [weight, weight]
    omega

/-- Names of a path, put together, are no longer than the path. -/
theorem utf8ByteSize_intercalate_le {path : String} {l : List String}
    (h : l.Sublist (names path)) : (String.intercalate "/" l).utf8ByteSize ≤ path.utf8ByteSize := by
  let pieces := (path.toList.splitOn '/').map String.ofList
  have hpath : path = String.intercalate "/" pieces := by
    refine String.toList_injective ?_
    rw [String.toList_intercalate, List.map_map]
    have hid : (path.toList.splitOn '/').map (String.toList ∘ String.ofList)
        = path.toList.splitOn '/' :=
      (List.map_congr_left fun _ _ => String.toList_ofList).trans (List.map_id _)
    rw [hid]
    exact (List.intercalate_splitOn '/').symm
  have hw : weight l ≤ weight pieces := weight_le_of_sublist (h.trans List.filter_sublist)
  cases l with
  | nil =>
    rw [String.intercalate_nil]
    exact Nat.zero_le _
  | cons first rest =>
    cases hp : pieces with
    | nil =>
      rw [hp] at hw
      simp [weight] at hw
    | cons first' rest' =>
      rw [hp] at hw hpath
      have hl := utf8ByteSize_intercalate first rest
      have hl' := utf8ByteSize_intercalate first' rest'
      rw [← hpath] at hl'
      omega

/-- The path of a directory above is no longer than the path that it is above. -/
theorem utf8ByteSize_ofParts_le {path : String} {l : List String} (h : l.Sublist (names path)) :
    (ofParts (isRooted path) l).utf8ByteSize ≤ path.utf8ByteSize := by
  cases hr : isRooted path with
  | false =>
    have hi := utf8ByteSize_intercalate_le h
    simpa [ofParts] using hi
  | true =>
    -- the slash in front is not among the names
    obtain ⟨t, ht⟩ := String.startsWith_string_iff.mp hr
    have hpath : path = "/" ++ String.ofList t := by
      refine String.toList_injective ?_
      rw [String.toList_append, String.toList_ofList, String.toList_ofList]
      exact ht.symm
    have hn : names path = names (String.ofList t) := by
      unfold names
      have hs := List.splitOn_append_cons_self (a := '/') [] t
      rw [List.nil_append] at hs
      rw [hpath, String.toList_append, String.toList_ofList, String.toList_ofList,
        List.singleton_append, hs, List.splitOn_nil, List.singleton_append, List.map_cons]
      exact List.filter_cons_of_neg (by simp)
    rw [hn] at h
    have hi := utf8ByteSize_intercalate_le h
    rw [hpath, String.utf8ByteSize_append, ofParts, if_pos rfl, String.utf8ByteSize_append]
    omega

theorem mem_of_mem_splitOn {c d : Char} (s : List Char) {l : List Char} (hl : l ∈ s.splitOn d)
    (hc : c ∈ l) : c ∈ s := by
  induction s generalizing l with
  | nil =>
    rw [List.splitOn_nil, List.mem_singleton] at hl
    rwa [hl] at hc
  | cons e s ih =>
    rw [List.splitOn_cons_eq_if_modifyHead] at hl
    split at hl
    · rcases List.mem_cons.mp hl with rfl | hl
      · cases hc
      · exact List.mem_cons_of_mem e (ih hl hc)
    · cases hs : s.splitOn d with
      | nil => simp [hs] at hl
      | cons first rest =>
        rw [hs] at ih
        rw [hs, List.modifyHead_cons] at hl
        rcases List.mem_cons.mp hl with rfl | hl
        · rcases List.mem_cons.mp hc with rfl | hc
          · exact List.mem_cons_self
          · exact List.mem_cons_of_mem e (ih List.mem_cons_self hc)
        · exact List.mem_cons_of_mem e (ih (List.mem_cons_of_mem first hl) hc)

/-- The names in a path have no other characters than the path. -/
theorem mem_of_mem_names {path name : String} {c : Char} (h : name ∈ names path)
    (hc : c ∈ name.toList) : c ∈ path.toList := by
  unfold names at h
  rw [List.mem_filter, List.mem_map] at h
  obtain ⟨⟨l, hl, rfl⟩, -⟩ := h
  rw [String.toList_ofList] at hc
  exact mem_of_mem_splitOn path.toList hl hc

/-- The characters of a path that is put together are slashes and those of its names. -/
theorem mem_ofParts {rooted : Bool} {l : List String} {c : Char}
    (h : c ∈ (ofParts rooted l).toList) : c = '/' ∨ ∃ name ∈ l, c ∈ name.toList := by
  rw [toList_ofParts, List.mem_append] at h
  rcases h with h | h
  · left
    cases rooted <;> simp_all
  · induction l with
    | nil => simp at h
    | cons first rest ih =>
      cases rest with
      | nil => exact Or.inr ⟨first, List.mem_cons_self, by simpa using h⟩
      | cons second rest =>
        rw [List.map_cons, List.map_cons, List.intercalate_cons_cons, ← List.map_cons,
          List.mem_append, List.mem_append, List.mem_singleton] at h
        rcases h with (h | h) | h
        · exact Or.inr ⟨first, List.mem_cons_self, h⟩
        · exact Or.inl h
        · rcases ih h with h | ⟨name, hm, hc⟩
          · exact Or.inl h
          · exact Or.inr ⟨name, List.mem_cons_of_mem first hm, hc⟩

end Failsafe.Path
