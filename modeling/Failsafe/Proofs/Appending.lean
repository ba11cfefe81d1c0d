import Failsafe.Proofs.Making
/-
  A log that is appended to again and again.

  Whether a log can be opened does not depend on what is to be appended (`appendMaking_of_error`,
  `appendMaking_first`). Once something has been appended, more can be: the path leads to the same
  place, and what was there stays in front (`appendMaking_next`). No other file changes on the way
  (`untouched_of_isLogged`). Where a log cannot be opened, it cannot be opened later either
  (`appendMaking_again`); its contents stay as they are, if it has any (`contents_of_error`).
-/

namespace Failsafe.Files

/-- A log, opened when the tree was `opened`, has got some bytes since, and no other file has
changed. -/
structure IsLogged (opened : Files) (path : String) (more : Bytes) (files : Files) : Prop where
  closed : Path.isClosed path = false
  place : ∃ p, opened.reach path = .ok p ∧ files.reach path = .ok p ∧
    files.get? p = some (.file (opened.contents path ++ more)) ∧
    ∀ q, q ≠ p → files.get? q = opened.get? q

variable {files made left : Files} {path : String} {p : Place}

/-! ## The directories -/

/-- Nothing is wrong with the path of a directory above a path that nothing is wrong with. -/
theorem fault?_ofParts (h : fault? path = none) {l : List String}
    (hl : l.Sublist (Path.names path)) (hne : Path.ofParts (Path.isRooted path) l ≠ "") :
    fault? (Path.ofParts (Path.isRooted path) l) = none := by
  have hsize := Path.utf8ByteSize_ofParts_le hl
  unfold fault? at h ⊢
  split at h
  · cases h
  next hc =>
  split at h
  · cases h
  split at h
  · cases h
  rw [if_neg, if_neg (by simpa using hne), if_neg (by omega)]
  intro hm
  rcases Path.mem_ofParts hm with hm | ⟨name, hn, hm⟩
  · exact absurd hm (by decide)
  · exact hc (Path.mem_of_mem_names (hl.subset hn) hm)

/-- The directories above a path that leads somewhere are there. -/
theorem makeParent_of_reach (h : files.reach path = .ok p) : files.makeParent path = .ok files := by
  have hfault : fault? path = none := by
    unfold reach at h
    rw [follow_eq] at h
    split at h
    · cases h
    · assumption
  rw [makeParent_eq]
  rcases Path.steps_cases path with ⟨hp, -⟩ | ⟨l, x, hp, hs⟩
  · rw [Path.above_of_nil hp]
    rfl
  have hopen : files.IsOpen (base (Path.isRooted path)) (l.filter fun name => name ≠ ".") := by
    have hsteps := foldlM_steps h
    rw [← hs]
    rcases List.eq_nil_or_concat (Path.steps path) with hn | ⟨s, y, hn⟩
    · rw [hn]
      exact isOpen_nil (get?_base files _)
    · rw [hn, List.concat_eq_append] at hsteps
      rw [hn, List.concat_eq_append, List.dropLast_concat]
      exact isOpen_of_foldlM hsteps (Or.inl (by simp))
  have hl : l.Sublist (Path.names path) :=
    (List.sublist_append_left l [x]).trans (hp ▸ Path.parts_sublist_names path)
  rw [Path.above_of_snoc hp]
  exact makeWithin_of_isOpen (Path.isTrim_of_snoc (hp ▸ Path.isTrim_parts path))
    (fault?_ofParts hfault hl) (isOpen_of_filter hopen)

/-- Directories that have been made are there. -/
theorem makeWithin_of_made {paths : List String} (h : files.makeWithin paths = .ok made) :
    made.makeWithin paths = .ok made := by
  cases paths with
  | nil => rfl
  | cons d outer =>
    have hlast : ∃ within : Files, within.ensureDirectory d = .ok made := by
      rw [makeWithin] at h
      split at h
      · obtain ⟨within, -, hw⟩ := Attempt.andThen_eq_ok_iff.mp h
        exact ⟨within, Attempt.of_eq_ok_iff.mp hw⟩
      · exact ⟨files, Attempt.of_eq_ok_iff.mp h⟩
    obtain ⟨within, hw⟩ := hlast
    obtain ⟨q, -, hq, hd⟩ := directory_of_ensureDirectory hw
    exact makeWithin_of_ok (ensureDirectory_of_directory hq hd)

/-- A directory that cannot be made is not made where those above it are, or cannot be. -/
theorem makeWithin_cons_of_error {d : String} {outer : List String} {e : FileError}
    (hd : files.ensureDirectory d = .error e)
    (ho : ∃ e', files.makeWithin outer = .ok files ∨ files.makeWithin outer = .error e' files) :
    ∃ e', files.makeWithin (d :: outer) = .error e' files := by
  by_cases he : e = .notFound
  · subst he
    rw [makeWithin_of_notFound hd]
    obtain ⟨e', ho | ho⟩ := ho
    · rw [ho, Attempt.andThen, hd]
      exact ⟨_, rfl⟩
    · rw [ho]
      exact ⟨e', rfl⟩
  · exact ⟨e, makeWithin_of_error he hd⟩

/-- Directories that cannot be made cannot be made from what an attempt has left either. -/
theorem makeWithin_again {rooted : Bool} {l : List String} (ht : Path.IsTrim rooted l)
    (hn : Path.ofParts rooted l ≠ "" → fault? (Path.ofParts rooted l) = none) {e : FileError}
    (h : files.makeWithin (Path.chain rooted l) = .error e left) :
    ∃ e', left.makeWithin (Path.chain rooted l) = .error e' left := by
  induction l using List.reverseRecOn generalizing e with
  | nil => cases (makeWithin_of_isOpen ht hn (isOpen_nil (get?_base files rooted))).symm.trans h
  | append_singleton l x ih =>
    have hne := Path.ofParts_ne_empty ht.names (by simp : (rooted || !(l ++ [x]).isEmpty) = true)
    have htrim := Path.isTrim_of_snoc ht
    have hfault : Path.ofParts rooted l ≠ "" → fault? (Path.ofParts rooted l) = none := by
      obtain ⟨more, he⟩ := Path.ofParts_snoc rooted l x
      rw [he] at hn hne
      exact fun h => fault?_of_append h (hn hne)
    rw [Path.chain_snoc ht] at h ⊢
    cases hens : files.ensureDirectory (Path.ofParts rooted (l ++ [x])) with
    | ok made =>
      rw [makeWithin_of_ok hens] at h
      cases h
    | error e₀ =>
      by_cases he : e₀ = .notFound
      · subst he
        rw [makeWithin_of_notFound hens] at h
        rcases Attempt.andThen_eq_error_iff.mp h with hin | ⟨made, hin, hof⟩
        · obtain ⟨e', hleft⟩ := ih htrim hfault hin
          cases hagain : left.ensureDirectory (Path.ofParts rooted (l ++ [x])) with
          | error e₁ => exact makeWithin_cons_of_error hagain ⟨e', Or.inr hleft⟩
          | ok made =>
            -- a directory can only be made in those above it, which cannot be made
            obtain ⟨q, hq, -⟩ := directory_of_ensureDirectory hagain
            rw [reach_ofParts ht.names (hn hne)] at hq
            have ho := makeWithin_of_isOpen htrim hfault (isOpen_of_foldlM hq (Or.inl (by simp)))
            cases ho.symm.trans hleft
        · obtain ⟨hagain, rfl⟩ := Attempt.of_eq_error_iff.mp hof
          exact makeWithin_cons_of_error hagain ⟨e, Or.inl (makeWithin_of_made hin)⟩
      · rw [makeWithin_of_error he hens] at h
        cases h
        exact ⟨_, makeWithin_of_error he hens⟩

theorem makeParent_again {e : FileError} (h : files.makeParent path = .error e left) :
    ∃ e', left.makeParent path = .error e' left := by
  rw [makeParent_eq] at h ⊢
  rcases Path.steps_cases path with ⟨hp, -⟩ | ⟨l, x, hp, -⟩
  · rw [Path.above_of_nil hp] at h
    cases h
  rw [Path.above_of_snoc hp] at h ⊢
  have ht : Path.IsTrim (Path.isRooted path) l := Path.isTrim_of_snoc (hp ▸ Path.isTrim_parts path)
  by_cases hn : Path.ofParts (Path.isRooted path) l ≠ "" →
      fault? (Path.ofParts (Path.isRooted path) l) = none
  · exact makeWithin_again ht hn h
  · -- nothing can be made under such a path
    rw [Classical.not_imp] at hn
    obtain ⟨e₀, he₀⟩ := Option.ne_none_iff_exists'.mp hn.2
    have hens : ∀ files : Files, files.ensureDirectory (Path.ofParts (Path.isRooted path) l)
        = .error e₀ := fun files => ensureDirectory_of_error (by rw [reach, follow_eq, he₀])
    have hne₀ : e₀ ≠ .notFound := by
      rintro rfl
      exact fault?_ne_notFound hn.1 he₀
    rw [Path.chain_of_ne_empty hn.1] at h ⊢
    rw [makeWithin_of_error hne₀ (hens files)] at h
    exact ⟨e₀, makeWithin_of_error hne₀ (hens left)⟩

/-! ## Opening -/

/-- Where a log is opened, whatever is to be appended. -/
theorem appendMaking_eq_ok {more : Bytes} {done : Files}
    (h : files.appendMaking path more = .ok done) :
    Path.isClosed path = false ∧ ∃ made p, files.makeParent path = .ok made ∧
      made.reach path = .ok p ∧ made.get? p ≠ some .directory ∧
      ∀ more', files.appendMaking path more'
        = .ok (made.put p (.file (made.contents path ++ more'))) := by
  unfold appendMaking at h
  obtain ⟨made, hm, hw⟩ := Attempt.andThen_eq_ok_iff.mp h
  obtain ⟨hc, p, hp, hd, -⟩ := write_eq_ok (Attempt.of_eq_ok_iff.mp hw)
  refine ⟨hc, made, p, hm, hp, hd, fun more' => ?_⟩
  have hwrite := write_of_reach hc hp hd fun content => content ++ more'
  rw [appendMaking, hm, Attempt.andThen, append, hwrite]
  rfl

/-- Whether a log can be opened does not depend on what is to be appended, and neither does what
an attempt leaves. -/
theorem appendMaking_of_error {more : Bytes} {e : FileError}
    (h : files.appendMaking path more = .error e left) (more' : Bytes) :
    ∃ e', files.appendMaking path more' = .error e' left := by
  cases ha : files.appendMaking path more' with
  | ok done =>
    obtain ⟨-, made, p, -, -, -, hall⟩ := appendMaking_eq_ok ha
    rw [hall] at h
    cases h
  | error e' left' =>
    rcases appendMaking_cases files path more with
      ⟨e₁, left₁, hm, h₁⟩ | ⟨made, hm, ⟨e₁, -, h₁⟩ | ⟨done, -, h₁⟩⟩
    · cases h₁.symm.trans h
      rw [appendMaking, hm] at ha
      cases ha
      exact ⟨_, rfl⟩
    · cases h₁.symm.trans h
      rw [appendMaking, hm] at ha
      exact ⟨e', by rw [(Attempt.of_eq_error_iff.mp ha).2]⟩
    · cases h₁.symm.trans h

/-- A log can be opened wherever its file can be written. -/
theorem appendMaking_of_write {change : Bytes → Bytes} {done : Files}
    (h : files.write path change = .ok done) (more : Bytes) :
    ∃ done', files.appendMaking path more = .ok done' := by
  obtain ⟨hc, p, hp, hd, -⟩ := write_eq_ok h
  rw [appendMaking, makeParent_of_reach hp, Attempt.andThen, append, write_of_reach hc hp hd]
  exact ⟨_, rfl⟩

/-- A log that cannot be opened cannot be opened later, which changes nothing any more. -/
theorem appendMaking_again {more : Bytes} {e : FileError}
    (h : files.appendMaking path more = .error e left) (more' : Bytes) :
    ∃ e', left.appendMaking path more' = .error e' left := by
  rcases appendMaking_cases files path more with
    ⟨e₁, left₁, hm, h₁⟩ | ⟨made, hm, ⟨e₁, hw, h₁⟩ | ⟨done, -, h₁⟩⟩
  · cases h₁.symm.trans h
    obtain ⟨e', hagain⟩ := makeParent_again hm
    exact ⟨e', by rw [appendMaking, hagain]; rfl⟩
  · cases h₁.symm.trans h
    have hmade : left.makeParent path = .ok left := by
      rw [makeParent_eq] at hm ⊢
      exact makeWithin_of_made hm
    have hagain : left.appendMaking path more = .error e left := by
      rw [appendMaking, hmade, Attempt.andThen, hw]
      rfl
    exact appendMaking_of_error hagain more'
  · cases h₁.symm.trans h

/-- A log that cannot be opened cannot be emptied, also not later. -/
theorem truncate_of_error {more : Bytes} {e : FileError}
    (h : files.appendMaking path more = .error e left) :
    (∃ e', files.truncate path = .error e') ∧ ∃ e', left.truncate path = .error e' := by
  obtain ⟨e', hagain⟩ := appendMaking_again h more
  constructor
  · cases ht : files.truncate path with
    | error e₁ => exact ⟨e₁, rfl⟩
    | ok done =>
      obtain ⟨done', hd⟩ := appendMaking_of_write ht more
      cases hd.symm.trans h
  · cases ht : left.truncate path with
    | error e₁ => exact ⟨e₁, rfl⟩
    | ok done =>
      obtain ⟨done', hd⟩ := appendMaking_of_write ht more
      cases hd.symm.trans hagain

/-- A log that cannot be opened cannot be read, neither before nor after an attempt. -/
theorem contents_of_error {more : Bytes} {e : FileError}
    (h : files.appendMaking path more = .error e left) :
    files.contents path = [] ∧ left.contents path = [] := by
  have hnone : ∀ tree : Files, (∃ e', tree.truncate path = .error e') →
      tree.contents path = [] := by
    rintro tree ⟨e', ht⟩
    unfold contents
    split
    · next content hread =>
      rw [(truncate_of_read hread).2] at ht
      cases ht
    · rfl
  obtain ⟨hfiles, hleft⟩ := truncate_of_error h
  exact ⟨hnone files hfiles, hnone left hleft⟩

/-- Where nothing was found, an attempt that has made all of the directories leaves nothing to be
found. -/
theorem isAbsent_of_error {more : Bytes} {e : FileError} (ha : files.IsAbsent path)
    (hp : files.HasParent path) (h : files.appendMaking path more = .error e left) :
    left.IsAbsent path ∧ left.HasParent path := by
  obtain ⟨made, hm⟩ := hp
  have hleft : left = made := by
    rcases appendMaking_cases files path more with
      ⟨e', left', hm', -⟩ | ⟨made', hm', ⟨e', -, h'⟩ | ⟨done, -, h'⟩⟩
    · cases hm.symm.trans hm'
    · cases hm.symm.trans hm'
      cases h.symm.trans h'
      rfl
    · cases h.symm.trans h'
  subst hleft
  have hagain : left.makeParent path = .ok left := by
    rw [makeParent_eq] at hm ⊢
    exact makeWithin_of_made hm
  refine ⟨⟨ha.2 left hm, fun made' hm' => ?_⟩, left, hagain⟩
  cases hagain.symm.trans hm'
  exact ha.2 left hm

/-! ## Appending -/

/-- What was put where the path leads is what it leads to. -/
theorem isLogged_put {opened : Files} {more : Bytes} (hc : Path.isClosed path = false)
    (ho : opened.reach path = .ok p) (hp : made.reach path = .ok p)
    (hd : made.get? p ≠ some .directory) (hsame : ∀ q, q ≠ p → made.get? q = opened.get? q) :
    IsLogged opened path more (made.put p (.file (opened.contents path ++ more))) where
  closed := hc
  place := ⟨p, ho, reach_put hd _ hp, get?_put_self hd _, fun q hq =>
    (get?_put_of_ne hq _).trans (hsame q hq)⟩

/-- The log as it is opened, and where. -/
theorem opened_eq {opened : Files} (h : files.appendMaking path [] = .ok opened) :
    Path.isClosed path = false ∧ ∃ made p, files.makeParent path = .ok made ∧
      made.reach path = .ok p ∧ made.get? p ≠ some .directory ∧ opened.reach path = .ok p ∧
      (∀ q, q ≠ p → made.get? q = opened.get? q) ∧
      ∀ more, files.appendMaking path more
        = .ok (made.put p (.file (opened.contents path ++ more))) := by
  obtain ⟨hc, made, p, hm, hp, hd, hall⟩ := appendMaking_eq_ok h
  have hput : opened = made.put p (.file (made.contents path)) := by
    have heq := Attempt.ok.inj (h.symm.trans (hall []))
    rwa [List.append_nil] at heq
  have hreach : opened.reach path = .ok p := by
    rw [hput]
    exact reach_put hd _ hp
  have hget : opened.get? p = some (.file (made.contents path)) := by
    rw [hput, get?_put_self hd]
  have hcontents : opened.contents path = made.contents path :=
    contents_of_read (read_eq_ok_iff.mpr ⟨hc, p, hreach, hget⟩)
  rw [← hcontents] at hall
  refine ⟨hc, made, p, hm, hp, hd, hreach, fun q hq => ?_, hall⟩
  rw [hput, get?_put_of_ne hq]

theorem appendMaking_first {opened : Files} (h : files.appendMaking path [] = .ok opened)
    (more : Bytes) :
    ∃ done, files.appendMaking path more = .ok done ∧ IsLogged opened path more done := by
  obtain ⟨hc, made, p, -, hp, hd, ho, hsame, hall⟩ := opened_eq h
  exact ⟨_, hall more, isLogged_put hc ho hp hd hsame⟩

theorem read_of_isLogged {opened : Files} {more : Bytes} (h : IsLogged opened path more files) :
    files.read path = .ok (opened.contents path ++ more) := by
  obtain ⟨p, -, hp, hg, -⟩ := h.place
  exact read_eq_ok_iff.mpr ⟨h.closed, p, hp, hg⟩

theorem appendMaking_next {opened : Files} {more : Bytes} (h : IsLogged opened path more files)
    (more' : Bytes) :
    ∃ done, files.appendMaking path more' = .ok done ∧
      IsLogged opened path (more ++ more') done := by
  obtain ⟨p, ho, hp, hg, hsame⟩ := h.place
  have hd : files.get? p ≠ some .directory := by simp [hg]
  have hwrite := write_of_reach h.closed hp hd fun content => content ++ more'
  rw [contents_of_read (read_of_isLogged h), List.append_assoc] at hwrite
  refine ⟨_, ?_, isLogged_put h.closed ho hp hd hsame⟩
  rw [appendMaking, makeParent_of_reach hp, Attempt.andThen, append, hwrite]
  rfl

/-! ## Other files -/

/-- Nothing but the log becomes another file by its being opened and appended to. -/
theorem untouched_of_isLogged {opened done : Files} {more : Bytes}
    (h : files.appendMaking path [] = .ok opened) (hl : IsLogged opened path more done)
    {q : Place} (hq : opened.reach path ≠ .ok q) : Untouched files done q := by
  obtain ⟨-, made, p, hm, -, -, ho, hsame, -⟩ := opened_eq h
  obtain ⟨p', ho', -, -, hsame'⟩ := hl.place
  have hne : q ≠ p := by
    rintro rfl
    exact hq ho
  have hne' : q ≠ p' := by
    rintro rfl
    exact hq ho'
  intro content
  rw [hsame' q hne', ← hsame q hne]
  have hgains := gainsDirectories_makeParent files path
  rw [hm] at hgains
  exact untouched_of_gainsDirectories hgains q content

end Failsafe.Files
