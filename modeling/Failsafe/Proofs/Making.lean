import Mathlib.Data.List.Induction
import Failsafe.Proofs.Tree
/-
  Making the directories above a file, and the file, in two trees that are alike on the way.

  Whether the directories can be made is decided by the names of the path and by the files that
  stand on the way (`trouble?`); directories that are there already make no difference
  (`makeWithin_chain`). So what is done under a path succeeds in both trees or fails in both, and
  leaves them alike on the way (`appendMaking_sameWay`).

  The trees may differ in which of two causes is named when a file stands where a directory is
  needed: it is met by the step that is to make the directory, or by one that leads through it
  (`FileError.gist`). They do not if the path never leads back up behind a name: then nothing is
  missing before the file.
-/

namespace Failsafe

/-- The cause of a failure, told alike for the two steps that can meet a file where a directory is
needed. -/
def FileError.gist : FileError → FileError
  | alreadyExists => notDirectory
  | e => e

theorem FileError.gist_gist (e : FileError) : e.gist.gist = e.gist := by
  cases e <;> rfl

theorem FileError.gist_of_ne {e : FileError} (h : e ≠ .alreadyExists) : e.gist = e := by
  cases e <;> first | rfl | exact absurd rfl h

namespace Files

/-! ## What is in the way -/

/-- Why directories with the given names cannot be made one below the other: a name is too long,
or a file stands where a directory is needed. -/
def trouble? (files : Files) : Place → List String → Option FileError
  | _, [] => none
  | p, name :: rest =>
    if name = "." ∨ name = ".." then files.trouble? (p.step name) rest
    else if longestName < name.utf8ByteSize then some .nameTooLong
    else if files.hasFile (p ++ [name]) then
      some (if rest = [] then .alreadyExists else .notDirectory)
    else files.trouble? (p ++ [name]) rest

section
variable {files files' : Files} {l : List String} {p : Place}

theorem step_of_name {name : String} (h : ¬(name = "." ∨ name = "..")) (p : Place) :
    p.step name = p ++ [name] := by
  rw [not_or] at h
  exact Place.step_of_ne h.1 h.2 p

/-- Only files on the way matter. -/
theorem trouble?_congr (h : ∀ m, m <+: l →
      files.hasFile (m.foldl Place.step p) = files'.hasFile (m.foldl Place.step p)) :
    files.trouble? p l = files'.trouble? p l := by
  induction l generalizing p with
  | nil => rfl
  | cons name l ih =>
    have hrest : files.trouble? (p.step name) l = files'.trouble? (p.step name) l :=
      ih fun m hm => h (name :: m) (List.cons_prefix_cons.mpr ⟨rfl, hm⟩)
    have hfirst : files.hasFile (p.step name) = files'.hasFile (p.step name) :=
      h [name] (List.cons_prefix_cons.mpr ⟨rfl, List.nil_prefix⟩)
    rw [trouble?, trouble?]
    split
    · exact hrest
    · next hd =>
      rw [step_of_name hd] at hfirst hrest
      rw [hfirst, hrest]

theorem trouble?_of_hasFile (h : files.hasFile = files'.hasFile) :
    files.trouble? p l = files'.trouble? p l := trouble?_congr fun _ _ => congrFun h _

/-- What is in the way of some names is in the way of more, but no longer at the last one. -/
theorem trouble?_concat (files : Files) (l : List String) (x : String) (p : Place) :
    files.trouble? p (l ++ [x]) = ((files.trouble? p l).map FileError.gist).or
      (files.trouble? (l.foldl Place.step p) [x]) := by
  induction l generalizing p with
  | nil => rfl
  | cons name l ih =>
    rw [List.cons_append, List.foldl_cons, trouble?, trouble?]
    split
    · exact ih _
    next hd =>
    split
    · rfl
    split
    · rw [if_neg (by simp)]
      split <;> rfl
    · rw [step_of_name hd]
      exact ih _

/-- A file that is met at the last name stands where the names lead. -/
theorem hasFile_of_trouble? (h : files.trouble? p l = some .alreadyExists) :
    files.hasFile (l.foldl Place.step p) = true := by
  induction l generalizing p with
  | nil => cases h
  | cons name l ih =>
    rw [List.foldl_cons]
    rw [trouble?] at h
    split at h
    · exact ih h
    next hd =>
    rw [step_of_name hd]
    split at h
    · cases h
    split at h
    · next hfile =>
      split at h
      · next hl =>
        rw [hl]
        exact hfile
      · cases h
    · exact ih h

end

/-! ## Following names -/

/-- All on the way of some names are directories. -/
def IsOpen (files : Files) (p : Place) (l : List String) : Prop :=
  l.foldlM files.enter p = .ok (l.foldl Place.step p) ∧
    files.get? (l.foldl Place.step p) = some .directory

/-- One of some names leads to where nothing is. -/
def IsBroken (files : Files) (p : Place) (l : List String) : Prop :=
  ∃ front name back, l = front ++ name :: back ∧ ¬(name = "." ∨ name = "..") ∧
    files.get? ((front ++ [name]).foldl Place.step p) = none

section
variable {files files' : Files} {l : List String} {p : Place}

theorem enter_of_dots (hp : files.get? p = some .directory) {name : String}
    (h : name = "." ∨ name = "..") : files.enter p name = .ok (p.step name) := by
  rw [enter, hp, Place.step]
  dsimp only
  split
  · rfl
  · next hd => rw [if_pos (h.resolve_left hd), if_pos (h.resolve_left hd)]

theorem enter_of_name (hp : files.get? p = some .directory) {name : String}
    (h : ¬(name = "." ∨ name = "..")) : files.enter p name
      = if longestName < name.utf8ByteSize then .error .nameTooLong else .ok (p ++ [name]) := by
  rw [not_or] at h
  rw [enter, hp]
  dsimp only
  rw [if_neg h.1, if_neg h.2]

theorem directory_of_dots (hf : files.IsTree) (hp : files.get? p = some .directory) {name : String}
    (h : name = "." ∨ name = "..") : files.get? (p.step name) = some .directory := by
  unfold Place.step
  split
  · exact hp
  next hd =>
  rw [if_pos (h.resolve_left hd), Place.above]
  split
  · next ho =>
    refine get?_of_isOutside ?_
    rw [Place.isOutside, List.all_append]
    exact Bool.and_eq_true_iff.mpr ⟨ho, rfl⟩
  split
  · exact hp
  · next ho _ =>
    have hne : p ≠ [] := by
      rintro rfl
      exact ho rfl
    refine hf p.dropLast (p.getLast hne) ?_
    rw [List.dropLast_concat_getLast, hp]
    simp

theorem hasFile_of_directory (h : files.get? p = some .directory) : files.hasFile p = false := by
  rw [hasFile, h]

theorem hasFile_of_none (h : files.get? p = none) : files.hasFile p = false := by
  rw [hasFile, h]

theorem foldlM_enter_of_none (h : files.get? p = none) (name : String) (l : List String) :
    (name :: l).foldlM files.enter p = .error .notFound := by
  rw [List.foldlM_cons, enter, h]
  rfl

theorem foldlM_enter_of_hasFile (h : files.hasFile p = true) (name : String) (l : List String) :
    (name :: l).foldlM files.enter p = .error .notDirectory := by
  obtain ⟨content, hg⟩ := hasFile_eq_true_iff.mp h
  rw [List.foldlM_cons, enter, hg]
  rfl

theorem isBroken_cons {name : String} (h : files.IsBroken (p.step name) l) :
    files.IsBroken p (name :: l) := by
  obtain ⟨front, x, back, rfl, hx, hn⟩ := h
  exact ⟨name :: front, x, back, rfl, hx, hn⟩

/-- Below nothing there is nothing. -/
theorem get?_below_none (hf : files.IsTree) (hu : ".." ∉ l) (h : files.get? p = none) :
    files.get? (l.foldl Place.step p) = none := by
  induction l generalizing p with
  | nil => exact h
  | cons name l ih =>
    rw [List.mem_cons, not_or] at hu
    rw [List.foldl_cons]
    refine ih hu.2 ?_
    unfold Place.step
    split
    · exact h
    rw [if_neg (Ne.symm hu.1)]
    by_contra hne
    rw [hf p name hne] at h
    cases h

/-- Names that do not lead back up lead nowhere once one of them does. -/
theorem get?_of_isBroken (hf : files.IsTree) (hl : Path.LeadsDown l) (h : files.IsBroken p l) :
    files.get? (l.foldl Place.step p) = none := by
  obtain ⟨front, name, back, rfl, hx, hn⟩ := h
  rw [List.append_cons, List.foldl_append]
  refine get?_below_none hf (fun hu => hx ?_) hn
  exact (List.pairwise_cons.mp (List.pairwise_append.mp hl).2.1).1 _ hu rfl

/-- What following names comes to: the last one is entered, something is missing before it, or
something is in the way before it. -/
theorem foldlM_enter_cases (hf : files.IsTree) (l : List String) (x : String)
    (hp : files.get? p = some .directory) :
    let q := l.foldl Place.step p
    ((l ++ [x]).foldlM files.enter p = files.enter q x ∧ files.get? q = some .directory ∧
      files.trouble? p l = none) ∨
    ((l ++ [x]).foldlM files.enter p = .error .notFound ∧ files.IsBroken p l) ∨
    ∃ e, e ≠ .notFound ∧ (l ++ [x]).foldlM files.enter p = .error e ∧
      files.trouble? p (l ++ [x]) = some e := by
  induction l generalizing p with
  | nil =>
    refine Or.inl ⟨?_, hp, rfl⟩
    rw [List.nil_append, List.foldlM_cons]
    exact bind_pure _
  | cons name l ih =>
    rw [List.foldl_cons, List.cons_append, List.foldlM_cons, trouble?, trouble?]
    by_cases hd : name = "." ∨ name = ".."
    · rw [enter_of_dots hp hd, if_pos hd, if_pos hd]
      rcases ih (directory_of_dots hf hp hd) with h | ⟨hw, hb⟩ | h
      · exact Or.inl h
      · exact Or.inr (Or.inl ⟨hw, isBroken_cons hb⟩)
      · exact Or.inr (Or.inr h)
    rw [enter_of_name hp hd, if_neg hd, if_neg hd, step_of_name hd]
    obtain ⟨first, rest, hl⟩ : ∃ first rest, l ++ [x] = first :: rest :=
      List.exists_cons_of_ne_nil (by simp)
    by_cases hlong : longestName < name.utf8ByteSize
    · rw [if_pos hlong, if_pos hlong, if_pos hlong]
      exact Or.inr (Or.inr ⟨.nameTooLong, by simp, rfl, rfl⟩)
    rw [if_neg hlong, if_neg hlong, if_neg hlong]
    cases hg : files.get? (p ++ [name]) with
    | none =>
      refine Or.inr (Or.inl ⟨?_, [], name, l, rfl, hd, ?_⟩)
      · rw [hl]
        exact foldlM_enter_of_none hg first rest
      · rw [List.nil_append, List.foldl_cons, List.foldl_nil, step_of_name hd, hg]
    | some node =>
      cases node with
      | file content =>
        have hfile : files.hasFile (p ++ [name]) = true :=
          hasFile_eq_true_iff.mpr ⟨content, hg⟩
        rw [hfile, if_pos rfl, if_pos rfl, if_neg (by simp : ¬l ++ [x] = [])]
        refine Or.inr (Or.inr ⟨.notDirectory, by simp, ?_, rfl⟩)
        rw [hl]
        exact foldlM_enter_of_hasFile hfile first rest
      | directory =>
        rw [hasFile_of_directory hg, if_neg Bool.false_ne_true, if_neg Bool.false_ne_true]
        rcases ih hg with h | ⟨hw, hb⟩ | h
        · exact Or.inl h
        · exact Or.inr (Or.inl ⟨hw, isBroken_cons (by rwa [step_of_name hd])⟩)
        · exact Or.inr (Or.inr h)

/-- Where names can be followed, all that they pass are directories. -/
theorem directory_of_foldlM {l m : List String} {q : Place}
    (h : (l ++ m).foldlM files.enter p = .ok q)
    (hm : m ≠ [] ∨ files.get? q = some .directory) :
    files.get? (l.foldl Place.step p) = some .directory := by
  rw [List.foldlM_append, bind_eq_ok_iff] at h
  obtain ⟨r, hr, h⟩ := h
  rw [← foldlM_enter_eq_ok hr]
  cases m with
  | nil =>
    rw [← Except.ok.inj h] at hm
    exact hm.resolve_left fun hne => hne rfl
  | cons name m =>
    rw [List.foldlM_cons, bind_eq_ok_iff] at h
    obtain ⟨r', hr', -⟩ := h
    exact directory_of_enter hr'

theorem isOpen_of_foldlM {l m : List String} {q : Place}
    (h : (l ++ m).foldlM files.enter p = .ok q)
    (hm : m ≠ [] ∨ files.get? q = some .directory) : files.IsOpen p l := by
  refine ⟨?_, directory_of_foldlM h hm⟩
  rw [List.foldlM_append, bind_eq_ok_iff] at h
  obtain ⟨r, hr, -⟩ := h
  rw [hr, foldlM_enter_eq_ok hr]

theorem isOpen_nil (hp : files.get? p = some .directory) : files.IsOpen p [] := ⟨rfl, hp⟩

/-- Dots need not be followed. -/
theorem foldlM_enter_filter {q : Place} (h : l.foldlM files.enter p = .ok q) :
    (l.filter fun name => name ≠ ".").foldlM files.enter p = .ok q := by
  induction l generalizing p with
  | nil => exact h
  | cons name l ih =>
    rw [List.foldlM_cons, bind_eq_ok_iff] at h
    obtain ⟨r, hr, h⟩ := h
    by_cases hd : name = "."
    · obtain ⟨-, rfl⟩ := enter_eq_ok hr
      rw [Place.step, if_pos hd] at h
      rw [List.filter_cons_of_neg (by simpa using hd)]
      exact ih h
    · rw [List.filter_cons_of_pos (by simpa using hd), List.foldlM_cons, hr]
      exact ih h

theorem isOpen_of_filter (h : files.IsOpen p (l.filter fun name => name ≠ ".")) :
    files.IsOpen p l := by
  obtain ⟨ho, hg⟩ := h
  rw [Place.foldl_step_filter] at ho hg
  refine ⟨?_, hg⟩
  generalize l.foldl Place.step p = q at ho hg
  induction l generalizing p with
  | nil => exact ho
  | cons name l ih =>
    have hp : files.get? p = some .directory := directory_of_foldlM (l := []) ho (Or.inr hg)
    by_cases hd : name = "."
    · rw [List.filter_cons_of_neg (by simpa using hd)] at ho
      rw [List.foldlM_cons, enter_of_dots hp (Or.inl hd), Place.step, if_pos hd]
      exact ih ho
    · rw [List.filter_cons_of_pos (by simpa using hd), List.foldlM_cons, bind_eq_ok_iff] at ho
      obtain ⟨r, hr, ho⟩ := ho
      rw [List.foldlM_cons, hr]
      exact ih ho

/-- All that an open way passes are directories. -/
theorem directory_of_isOpen (h : files.IsOpen p l) {m : List String}
    (hm : m <+: l.filter fun name => name ≠ ".") :
    files.get? (m.foldl Place.step p) = some .directory := by
  obtain ⟨t, ht⟩ := hm
  have ho := foldlM_enter_filter h.1
  rw [← ht] at ho
  exact directory_of_foldlM ho (Or.inr h.2)

end

/-! ## Making directories -/

section
variable {files made : Files} {path : String} {p : Place}

theorem ensureDirectory_of_error {e : FileError} (h : files.reach path = .error e) :
    files.ensureDirectory path = .error e := by
  unfold ensureDirectory isDirectory lookUp makeDirectory
  rw [h]
  rfl

theorem ensureDirectory_of_directory (h : files.reach path = .ok p)
    (hp : files.get? p = some .directory) : files.ensureDirectory path = .ok files := by
  unfold ensureDirectory isDirectory lookUp
  rw [h]
  simp only [bind, Except.bind, hp]
  rfl

theorem ensureDirectory_of_none (h : files.reach path = .ok p) (hp : files.get? p = none) :
    files.ensureDirectory path = .ok (files.put p .directory) := by
  unfold ensureDirectory isDirectory lookUp makeDirectory
  rw [h]
  simp only [bind, Except.bind, hp]
  rfl

theorem ensureDirectory_of_hasFile (h : files.reach path = .ok p) (hp : files.hasFile p = true) :
    files.ensureDirectory path = .error .alreadyExists := by
  obtain ⟨content, hg⟩ := hasFile_eq_true_iff.mp hp
  unfold ensureDirectory isDirectory lookUp makeDirectory
  rw [h]
  simp only [bind, Except.bind, hg]
  cases Path.isClosed path <;> rfl

/-- What has been made is there, and was led to before. -/
theorem directory_of_ensureDirectory (h : files.ensureDirectory path = .ok made) :
    ∃ p, files.reach path = .ok p ∧ made.reach path = .ok p ∧ made.get? p = some .directory := by
  cases hr : files.reach path with
  | error e =>
    rw [ensureDirectory_of_error hr] at h
    cases h
  | ok p =>
    refine ⟨p, rfl, ?_⟩
    cases hg : files.get? p with
    | none =>
      rw [ensureDirectory_of_none hr hg] at h
      obtain rfl := Except.ok.inj h
      have hd : files.get? p ≠ some .directory := by simp [hg]
      exact ⟨reach_put hd _ hr, get?_put_self hd _⟩
    | some node =>
      cases node with
      | file content =>
        rw [ensureDirectory_of_hasFile hr (hasFile_eq_true_iff.mpr ⟨content, hg⟩)] at h
        cases h
      | directory =>
        rw [ensureDirectory_of_directory hr hg] at h
        obtain rfl := Except.ok.inj h
        exact ⟨hr, hg⟩

/-- A directory is made in another, or what is in the way is named. -/
theorem ensureDirectory_of_enter (hf : files.IsTree) {x : String} {q : Place}
    (hq : files.get? q = some .directory) (h : files.reach path = files.enter q x) :
    (∃ e, e ≠ .notFound ∧ files.trouble? q [x] = some e ∧
      files.ensureDirectory path = .error e) ∨
    files.trouble? q [x] = none ∧ ∃ made, files.ensureDirectory path = .ok made := by
  rw [trouble?, trouble?]
  by_cases hd : x = "." ∨ x = ".."
  · rw [enter_of_dots hq hd] at h
    rw [if_pos hd]
    exact Or.inr ⟨rfl, files, ensureDirectory_of_directory h (directory_of_dots hf hq hd)⟩
  rw [enter_of_name hq hd] at h
  rw [if_neg hd, if_pos rfl]
  split
  · next hlong =>
    rw [if_pos hlong] at h
    exact Or.inl ⟨.nameTooLong, by simp, rfl, ensureDirectory_of_error h⟩
  next hlong =>
  rw [if_neg hlong] at h
  cases hg : files.get? (q ++ [x]) with
  | none =>
    rw [hasFile_of_none hg]
    exact Or.inr ⟨rfl, _, ensureDirectory_of_none h hg⟩
  | some node =>
    cases node with
    | file content =>
      have hfile := hasFile_eq_true_iff.mpr ⟨content, hg⟩
      rw [hfile]
      exact Or.inl ⟨.alreadyExists, by simp, rfl, ensureDirectory_of_hasFile h hfile⟩
    | directory =>
      rw [hasFile_of_directory hg]
      exact Or.inr ⟨rfl, files, ensureDirectory_of_directory h hg⟩

variable {outer : List String}

theorem makeWithin_of_ok (h : files.ensureDirectory path = .ok made) :
    files.makeWithin (path :: outer) = .ok made := by
  rw [makeWithin, h]
  rfl

theorem makeWithin_of_error {e : FileError} (he : e ≠ .notFound)
    (h : files.ensureDirectory path = .error e) :
    files.makeWithin (path :: outer) = .error e files := by
  rw [makeWithin, h]
  cases e <;> first | rfl | exact absurd rfl he

theorem makeWithin_of_notFound (h : files.ensureDirectory path = .error .notFound) :
    files.makeWithin (path :: outer) = (files.makeWithin outer).andThen fun made =>
      .of made (made.ensureDirectory path) := by
  rw [makeWithin, h]

end

/-! ## Making the directories above a file -/

/-- Nothing is wrong with the beginning of a path that nothing is wrong with. -/
theorem fault?_of_append {path more : String} (hp : path ≠ "")
    (h : fault? (path ++ more) = none) : fault? path = none := by
  unfold fault? at h ⊢
  split at h
  · cases h
  next hc =>
  split at h
  · cases h
  split at h
  · cases h
  next hlong =>
  rw [String.toList_append, List.mem_append, not_or] at hc
  rw [String.utf8ByteSize_append] at hlong
  rw [if_neg hc.1, if_neg (by simpa using hp), if_neg (by omega)]

section
variable {files made : Files} {rooted : Bool} {l : List String}

/-- A directory that has been made, or that was there, can be reached through directories. -/
theorem isOpen_of_ensureDirectory (ht : Path.IsTrim rooted l)
    (hn : fault? (Path.ofParts rooted l) = none)
    (h : files.ensureDirectory (Path.ofParts rooted l) = .ok made) :
    made.IsOpen (base rooted) l := by
  obtain ⟨p, -, hp, hg⟩ := directory_of_ensureDirectory h
  rw [reach_ofParts ht.names hn] at hp
  exact isOpen_of_foldlM (m := []) (by rwa [List.append_nil]) (Or.inr hg)

/-- The directory under some names and those above it are made, or something is in the way of the
names, and making them stops with a cause that is told alike. -/
def IsMadeOrStopped (files : Files) (rooted : Bool) (l : List String) : Prop :=
  (∃ t e left, files.trouble? (base rooted) l = some t ∧
    files.makeWithin (Path.chain rooted l) = .error e left ∧ e.gist = t.gist ∧
    (Path.LeadsDown l → e = t)) ∨
  files.trouble? (base rooted) l = none ∧
    ∃ made, files.makeWithin (Path.chain rooted l) = .ok made ∧ made.IsOpen (base rooted) l

/-- Where something is missing on the way to a directory, those above it are made first. -/
theorem isMadeOrStopped_snoc {x : String} (hf : files.IsTree) (ht : Path.IsTrim rooted (l ++ [x]))
    (hn : fault? (Path.ofParts rooted (l ++ [x])) = none)
    (hw : (l ++ [x]).foldlM files.enter (base rooted) = .error .notFound)
    (hb : files.IsBroken (base rooted) l) (h : files.IsMadeOrStopped rooted l) :
    files.IsMadeOrStopped rooted (l ++ [x]) := by
  have hreach := reach_ofParts ht.names hn
  unfold IsMadeOrStopped
  rw [Path.chain_snoc ht, trouble?_concat,
    makeWithin_of_notFound (ensureDirectory_of_error ((hreach files).trans hw))]
  rcases h with ⟨t, e, left, ht', hout, hgist, heq⟩ | ⟨ht', made, hout, ho⟩
  · rw [ht', hout, Option.map_some, Option.some_or]
    refine Or.inl ⟨t.gist, e, left, rfl, rfl, hgist.trans t.gist_gist.symm, fun hl => ?_⟩
    have hdown : Path.LeadsDown l := (List.pairwise_append.mp hl).1
    have hnone := hasFile_of_none (get?_of_isBroken hf hdown hb)
    rw [heq hdown, FileError.gist_of_ne]
    rintro rfl
    rw [hasFile_of_trouble? ht'] at hnone
    cases hnone
  · rw [ht', hout, Option.map_none, Option.none_or, Attempt.andThen]
    have hmade := isTree_makeWithin hf (Path.chain rooted l)
    have hsame := hasFile_makeWithin files (Path.chain rooted l)
    rw [hout, Attempt.files] at hmade hsame
    have hw' : made.reach (Path.ofParts rooted (l ++ [x]))
        = made.enter (l.foldl Place.step (base rooted)) x := by
      rw [hreach, List.foldlM_append, ho.1]
      exact bind_pure (made.enter _ x)
    rw [← trouble?_of_hasFile hsame]
    rcases ensureDirectory_of_enter hmade ho.2 hw' with ⟨e, -, hte, hens⟩ | ⟨hte, done, hens⟩
    · exact Or.inl ⟨e, e, made, hte, by rw [hens]; rfl, rfl, fun _ => rfl⟩
    · exact Or.inr ⟨hte, done, by rw [hens]; rfl, isOpen_of_ensureDirectory ht hn hens⟩

/-- A directory and those above it are made unless something is in the way. -/
theorem makeWithin_chain (hf : files.IsTree) (ht : Path.IsTrim rooted l)
    (hn : Path.ofParts rooted l ≠ "" → fault? (Path.ofParts rooted l) = none) :
    files.IsMadeOrStopped rooted l := by
  induction l using List.reverseRecOn with
  | nil =>
    refine Or.inr ⟨rfl, files, ?_, isOpen_nil (get?_base files rooted)⟩
    cases rooted with
    | false => rfl
    | true =>
      have hne := Path.ofParts_ne_empty (l := []) ht.names (rfl : (true || _) = true)
      rw [Path.chain_root]
      exact makeWithin_of_ok (ensureDirectory_of_directory
        (reach_ofParts ht.names (hn hne) files) (get?_base files true))
  | append_singleton l x ih =>
    have hne := Path.ofParts_ne_empty ht.names (by simp : (rooted || !(l ++ [x]).isEmpty) = true)
    have hreach := reach_ofParts ht.names (hn hne)
    rcases foldlM_enter_cases hf l x (get?_base files rooted) with
      ⟨hw, hq, htr⟩ | ⟨hw, hb⟩ | ⟨e, he, hw, htr⟩
    · unfold IsMadeOrStopped
      rw [Path.chain_snoc ht, trouble?_concat, htr, Option.map_none, Option.none_or]
      rcases ensureDirectory_of_enter hf hq ((hreach files).trans hw) with
        ⟨e, he, ht', hens⟩ | ⟨ht', made, hens⟩
      · exact Or.inl ⟨e, e, files, ht', makeWithin_of_error he hens, rfl, fun _ => rfl⟩
      · exact Or.inr ⟨ht', made, makeWithin_of_ok hens,
          isOpen_of_ensureDirectory ht (hn hne) hens⟩
    · have hfault : Path.ofParts rooted l ≠ "" → fault? (Path.ofParts rooted l) = none := by
        obtain ⟨more, he⟩ := Path.ofParts_snoc rooted l x
        rw [he] at hn hne
        exact fun h => fault?_of_append h (hn hne)
      exact isMadeOrStopped_snoc hf ht (hn hne) hw hb (ih (Path.isTrim_of_snoc ht) hfault)
    · refine Or.inl ⟨e, e, files, htr, ?_, rfl, fun _ => rfl⟩
      rw [Path.chain_snoc ht]
      exact makeWithin_of_error he (ensureDirectory_of_error ((hreach files).trans hw))

/-- Directories that are there need not be made. -/
theorem makeWithin_of_isOpen (ht : Path.IsTrim rooted l)
    (hn : Path.ofParts rooted l ≠ "" → fault? (Path.ofParts rooted l) = none)
    (ho : files.IsOpen (base rooted) l) : files.makeWithin (Path.chain rooted l) = .ok files := by
  by_cases hne : Path.ofParts rooted l = ""
  · have hc : Path.chain rooted l = [] := by
      by_contra hc
      unfold Path.chain at hc
      split at hc
      · next hl => exact Path.ofParts_ne_empty ht.names hl hne
      · exact hc rfl
    rw [hc]
    rfl
  · rw [Path.chain_of_ne_empty hne]
    refine makeWithin_of_ok (ensureDirectory_of_directory ?_ ho.2)
    rw [reach_ofParts ht.names (hn hne), ho.1]

end

/-! ## In two trees -/

theorem fault?_ne_notFound {path : String} (h : path ≠ "") : fault? path ≠ some .notFound := by
  unfold fault?
  split
  · simp
  split
  · next he => exact absurd (by simpa using he) h
  split <;> simp

section
variable {files files' : Files} {path : String} {rooted : Bool} {l : List String}

/-- Directories are not made if something is wrong with their path. -/
theorem makeWithin_of_fault {e : FileError} (hne : Path.ofParts rooted l ≠ "")
    (he : fault? (Path.ofParts rooted l) = some e) (files : Files) :
    files.makeWithin (Path.chain rooted l) = .error e files := by
  have hens : files.ensureDirectory (Path.ofParts rooted l) = .error e :=
    ensureDirectory_of_error (by rw [reach, follow_eq, he])
  have hout : e ≠ .notFound := by
    rintro rfl
    exact fault?_ne_notFound hne he
  rw [Path.chain_of_ne_empty hne]
  exact makeWithin_of_error hout hens

/-- Where the same is in the way in two trees, directories are made in both or in none. -/
theorem makeWithin_both (hf : files.IsTree) (hf' : files'.IsTree) (ht : Path.IsTrim rooted l)
    (hn : Path.ofParts rooted l ≠ "" → fault? (Path.ofParts rooted l) = none)
    (htr : files.trouble? (base rooted) l = files'.trouble? (base rooted) l) :
    (∃ e e' left left', files.makeWithin (Path.chain rooted l) = .error e left ∧
      files'.makeWithin (Path.chain rooted l) = .error e' left' ∧ e.gist = e'.gist ∧
      (Path.LeadsDown l → e = e')) ∨
    ∃ made made', files.makeWithin (Path.chain rooted l) = .ok made ∧
      files'.makeWithin (Path.chain rooted l) = .ok made' ∧ made.IsOpen (base rooted) l ∧
      made'.IsOpen (base rooted) l := by
  rcases makeWithin_chain hf ht hn with ⟨t, e, left, hte, hm, hg, he⟩ | ⟨hte, made, hm, ho⟩
  · rcases makeWithin_chain hf' ht hn with
      ⟨t', e', left', hte', hm', hg', he'⟩ | ⟨hte', -⟩
    · obtain rfl := Option.some.inj (hte.symm.trans (htr.trans hte'))
      refine Or.inl ⟨e, e', left, left', hm, hm', hg.trans hg'.symm, fun hdown => ?_⟩
      rw [he hdown, he' hdown]
    · rw [htr, hte'] at hte
      cases hte
  · rcases makeWithin_chain hf' ht hn with ⟨t', -, -, hte', -⟩ | ⟨-, made', hm', ho'⟩
    · rw [htr, hte'] at hte
      cases hte
    · exact Or.inr ⟨made, made', hm, hm', ho, ho'⟩

/-- The directories above a path are made in both trees, where they then are alike in all that the
path passes, or in none. -/
theorem makeParent_cases (hf : files.IsTree) (hf' : files'.IsTree)
    (hs : SameWay path files files') :
    (∃ e e' left left', files.makeParent path = .error e left ∧
      files'.makeParent path = .error e' left' ∧ e.gist = e'.gist ∧
      (Path.IsDirect path → e = e')) ∨
    ∃ made made', files.makeParent path = .ok made ∧ files'.makeParent path = .ok made' ∧
      ∀ q ∈ Place.passed path, made.get? q = made'.get? q := by
  have hmade := sameWay_makeParent files path
  have hmade' := sameWay_makeParent files' path
  rw [makeParent_eq] at hmade hmade' ⊢
  rw [makeParent_eq]
  rcases Path.steps_cases path with ⟨hp, hsteps⟩ | ⟨l, x, hp, hsteps⟩
  · rw [Path.above_of_nil hp]
    refine Or.inr ⟨files, files', rfl, rfl, fun q hq => ?_⟩
    have hstart : q = Place.start path := by simpa [Place.passed, hsteps] using hq
    rw [hstart, get?_start, get?_start]
  rw [Path.above_of_snoc hp] at hmade hmade' ⊢
  have ht : Path.IsTrim (Path.isRooted path) l := Path.isTrim_of_snoc (hp ▸ Path.isTrim_parts path)
  by_cases hn : Path.ofParts (Path.isRooted path) l ≠ "" →
      fault? (Path.ofParts (Path.isRooted path) l) = none
  · have htr : files.trouble? (base (Path.isRooted path)) l
        = files'.trouble? (base (Path.isRooted path)) l := by
      refine trouble?_congr fun m hm => hs.way _ ?_
      rw [← Place.foldl_step_filter]
      exact (Place.mem_ahead_iff hsteps).mpr ⟨_, hm.filter _, rfl⟩
    rcases makeWithin_both hf hf' ht hn htr with
      ⟨e, e', left, left', hm, hm', hg, he⟩ | ⟨made, made', hm, hm', ho, ho'⟩
    · exact Or.inl ⟨e, e', left, left', hm, hm', hg,
        fun hdirect => he (Path.leadsDown_of_isDirect hp hdirect)⟩
    · rw [hm, Attempt.files] at hmade
      rw [hm', Attempt.files] at hmade'
      have hall : ∀ q ∈ Place.ahead path, made.get? q = made'.get? q := by
        intro q hq
        obtain ⟨m, hmem, rfl⟩ := (Place.mem_ahead_iff hsteps).mp hq
        exact (directory_of_isOpen ho hmem).trans (directory_of_isOpen ho' hmem).symm
      refine Or.inr ⟨made, made', hm, hm', fun q hq => ?_⟩
      rcases Place.mem_passed_iff.mp hq with hq | rfl
      · exact hall q hq
      · by_cases hw : Place.of path ∈ Place.ahead path
        · exact hall _ hw
        · exact (sameWay_trans (sameWay_symm hmade) (sameWay_trans hs hmade')).last hw
  · rw [Classical.not_imp] at hn
    obtain ⟨hne, hfault⟩ := hn
    obtain ⟨e, he⟩ := Option.ne_none_iff_exists'.mp hfault
    exact Or.inl ⟨e, e, files, files', makeWithin_of_fault hne he files,
      makeWithin_of_fault hne he files', rfl, fun _ => rfl⟩

/-! ## Writing -/

theorem foldlM_enter_congr {l : List String} {p : Place}
    (h : ∀ m, m <+: l → files.get? (m.foldl Place.step p) = files'.get? (m.foldl Place.step p)) :
    l.foldlM files.enter p = l.foldlM files'.enter p := by
  induction l generalizing p with
  | nil => rfl
  | cons name l ih =>
    have hp : files.get? p = files'.get? p := h [] List.nil_prefix
    have he : files.enter p name = files'.enter p name := by
      rw [enter, enter, hp]
    rw [List.foldlM_cons, List.foldlM_cons, he]
    cases hr : files'.enter p name with
    | error e => rfl
    | ok r =>
      rw [(enter_eq_ok hr).2]
      exact ih fun m hm => h (name :: m) (List.cons_prefix_cons.mpr ⟨rfl, hm⟩)

theorem follow_congr {l : List String} (h : ∀ m, m <+: l →
      files.get? (m.foldl Place.step (Place.start path))
        = files'.get? (m.foldl Place.step (Place.start path))) :
    files.follow path l = files'.follow path l := by
  rw [follow_eq, follow_eq, foldlM_enter_congr h]

section
variable (h : ∀ q ∈ Place.passed path, files.get? q = files'.get? q)
include h

theorem reach_congr : files.reach path = files'.reach path :=
  follow_congr fun _ hm => h _ (Place.mem_passed_of_prefix hm)

theorem reachParent_congr : files.reachParent path = files'.reachParent path := by
  refine follow_congr fun m hm => ?_
  have hpre := List.dropLast_prefix (Path.names path)
  rcases List.prefix_concat_iff.mp hm with rfl | hm
  · rw [List.foldl_append, List.foldl_cons, List.foldl_nil, Place.step, if_pos rfl]
    exact h _ (Place.mem_passed_of_prefix hpre)
  · exact h _ (Place.mem_passed_of_prefix (hm.trans hpre))

/-- Where two trees are alike in all that a path passes, reading gives the same. -/
theorem read_congr : files.read path = files'.read path := by
  have hl : files.lookUp path = files'.lookUp path := by
    unfold lookUp
    rw [← reach_congr h]
    cases hp : files.reach path with
    | error e => rfl
    | ok p =>
      have hg := h p (eq_of_reach hp ▸ Place.of_mem_passed path)
      simp only [bind, Except.bind, hg]
  unfold read
  rw [hl]

/-- Where two trees are alike in all that a path passes, writing puts the same into both, or fails
for the same reason in both. -/
theorem write_congr (change : Bytes → Bytes) :
    (∃ e, files.write path change = .error e ∧ files'.write path change = .error e) ∨
    files.get? (Place.of path) ≠ some .directory ∧
      ∃ content, files.write path change = .ok (files.put (Place.of path) (.file content)) ∧
        files'.write path change = .ok (files'.put (Place.of path) (.file content)) := by
  unfold write
  rw [← reach_congr h, ← reachParent_congr h]
  split
  · cases files.reachParent path with
    | error e => exact Or.inl ⟨e, rfl, rfl⟩
    | ok p => exact Or.inl ⟨_, rfl, rfl⟩
  · cases hq : files.reach path with
    | error e => exact Or.inl ⟨e, rfl, rfl⟩
    | ok p =>
      have hw := eq_of_reach hq
      have hg := h p (hw ▸ Place.of_mem_passed path)
      simp only [bind, Except.bind, ← hg, ← hw]
      cases files.get? p with
      | none => exact Or.inr ⟨by simp, _, rfl, rfl⟩
      | some node =>
        cases node with
        | file content => exact Or.inr ⟨by simp, _, rfl, rfl⟩
        | directory => exact Or.inl ⟨_, rfl, rfl⟩

end

/-- The same file put where the path leads leaves two trees alike on the way. -/
theorem sameWay_put (hs : SameWay path files files')
    (hd : files.get? (Place.of path) ≠ some .directory)
    (hd' : files'.get? (Place.of path) ≠ some .directory) (node : Node) :
    SameWay path (files.put (Place.of path) node) (files'.put (Place.of path) node) := by
  refine ⟨fun _ => by rw [get?_put_self hd, get?_put_self hd'], fun p hp => ?_⟩
  have hw := hs.way p hp
  unfold hasFile at hw ⊢
  by_cases he : p = Place.of path
  · rw [he, get?_put_self hd, get?_put_self hd']
  · rw [get?_put_of_ne he, get?_put_of_ne he, hw]

/-- A file is appended to in both trees, the directories above it being made, or in none. -/
theorem appendMaking_sameWay (hf : files.IsTree) (hf' : files'.IsTree)
    (hs : SameWay path files files') (more : Bytes) :
    (∃ e e' left left', files.appendMaking path more = .error e left ∧
      files'.appendMaking path more = .error e' left' ∧ e.gist = e'.gist ∧
      (Path.IsDirect path → e = e') ∧ SameWay path left left') ∨
    ∃ done done' content, files.appendMaking path more = .ok done ∧
      files'.appendMaking path more = .ok done' ∧ SameWay path done done' ∧
      done.read path = .ok content ∧ done'.read path = .ok content := by
  have hleft : SameWay path (files.makeParent path).files (files'.makeParent path).files :=
    sameWay_trans (sameWay_symm (sameWay_makeParent files path))
      (sameWay_trans hs (sameWay_makeParent files' path))
  unfold appendMaking
  rcases makeParent_cases hf hf' hs with
    ⟨e, e', left, left', hm, hm', hg, he⟩ | ⟨made, made', hm, hm', hsame⟩
  · rw [hm, hm', Attempt.files, Attempt.files] at hleft
    rw [hm, hm']
    exact Or.inl ⟨e, e', left, left', rfl, rfl, hg, he, hleft⟩
  rw [hm, hm', Attempt.files, Attempt.files] at hleft
  rw [hm, hm', Attempt.andThen, Attempt.andThen, append, append]
  rcases write_congr hsame fun content => content ++ more with
    ⟨e, hw, hw'⟩ | ⟨hd, content, hw, hw'⟩
  · rw [hw, hw']
    exact Or.inl ⟨e, e, made, made', rfl, rfl, rfl, fun _ => rfl, hleft⟩
  · have hread := read_write hw
    have hread' := read_write hw'
    have hcontents : made'.contents path = made.contents path := by
      unfold contents
      rw [read_congr hsame]
    rw [hcontents] at hread'
    rw [hw, hw']
    refine Or.inr ⟨_, _, _, rfl, rfl, sameWay_put hleft hd ?_ _, hread, hread'⟩
    rwa [← hsame _ (Place.of_mem_passed path)]

/-- A file is written where the path leads, unless it leads to a directory. -/
theorem write_of_reach {p : Place} (hc : Path.isClosed path = false)
    (hp : files.reach path = .ok p) (hd : files.get? p ≠ some .directory)
    (change : Bytes → Bytes) :
    files.write path change = .ok (files.put p (.file (change (files.contents path)))) := by
  unfold write
  rw [if_neg (by simp [hc]), hp]
  simp only [bind, Except.bind]
  cases hg : files.get? p with
  | none => rw [contents_of_none hp hg]
  | some node =>
    cases node with
    | file content => rw [contents_of_read (read_eq_ok_iff.mpr ⟨hc, p, hp, hg⟩)]
    | directory => exact absurd hg hd

/-- A file that can be read can be emptied. -/
theorem truncate_of_read {content : Bytes} (h : files.read path = .ok content) :
    files.get? (Place.of path) ≠ some .directory ∧
      files.truncate path = .ok (files.put (Place.of path) (.file [])) := by
  obtain ⟨hc, p, hp, hg⟩ := read_eq_ok_iff.mp h
  have hd : files.get? p ≠ some .directory := by simp [hg]
  rw [← eq_of_reach hp]
  exact ⟨hd, write_of_reach hc hp hd _⟩

/-- A file that is there in both trees is emptied in both. -/
theorem truncate_sameWay (hs : SameWay path files files') {content : Bytes}
    (hr : files.read path = .ok content) (hr' : files'.read path = .ok content) :
    ∃ done done', files.truncate path = .ok done ∧ files'.truncate path = .ok done' ∧
      SameWay path done done' := by
  obtain ⟨hd, ht⟩ := truncate_of_read hr
  obtain ⟨hd', ht'⟩ := truncate_of_read hr'
  exact ⟨_, _, ht, ht', sameWay_put hs hd hd' _⟩

/-! ## The way of a path that leads somewhere -/

theorem foldlM_steps {p : Place} (h : files.reach path = .ok p) :
    (Path.steps path).foldlM files.enter (Place.start path) = .ok p := by
  unfold reach at h
  rw [follow_eq] at h
  split at h
  · cases h
  · exact foldlM_enter_filter h

/-- What a path passes before its last step are directories, if it leads anywhere. -/
theorem directory_of_mem_ahead {p q : Place} (h : files.reach path = .ok p)
    (hq : q ∈ Place.ahead path) : files.get? q = some .directory := by
  have hsteps := foldlM_steps h
  obtain ⟨m, hm, rfl⟩ := List.mem_map.mp hq
  rw [List.mem_inits] at hm
  rcases List.eq_nil_or_concat (Path.steps path) with hn | ⟨s, x, hn⟩
  · rw [hn, List.dropLast_nil, List.prefix_nil] at hm
    rw [hm]
    exact get?_start files path
  · rw [hn, List.concat_eq_append, List.dropLast_concat] at hm
    obtain ⟨t, rfl⟩ := hm
    rw [hn, List.concat_eq_append, List.append_assoc] at hsteps
    exact directory_of_foldlM hsteps (Or.inl (by simp))

/-- A file is read as before where directories stay and the way stays as it is. -/
theorem read_of_sameWay
    (hd : ∀ p, files.get? p = some .directory → files'.get? p = some .directory)
    (hs : SameWay path files files') {content : Bytes} (hr : files.read path = .ok content) :
    files'.read path = .ok content := by
  obtain ⟨hc, p, hp, hg⟩ := read_eq_ok_iff.mp hr
  obtain rfl := eq_of_reach hp
  have hw : Place.of path ∉ Place.ahead path := by
    intro hw
    rw [directory_of_mem_ahead hp hw] at hg
    cases hg
  exact read_eq_ok_iff.mpr ⟨hc, _, reach_of_directories hd hp, (hs.last hw).symm.trans hg⟩

end

end Files

end Failsafe
