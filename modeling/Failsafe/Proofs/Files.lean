import Failsafe.Files
import Failsafe.Proofs.Except
/-
  What operations leave in a tree of files.

  Nothing that a path passes on its way is changed by writing to the file at its end: what has
  been written is read back under the same path (`read_write`). Making directories, as far as that
  can be done, puts nothing in the place of anything (`gainsDirectories_makeParent`). So an append
  that fails leaves at most directories where there was nothing (`gainsDirectories_of_error`).
-/

namespace Failsafe.Files

/-- Whatever stands in one tree stands in the other. -/
def Extends (files files' : Files) : Prop :=
  ∀ p node, files.get? p = some node → files'.get? p = some node

/-- Directories have been made where there was nothing; all else is as it was. -/
def GainsDirectories (files files' : Files) : Prop :=
  ∀ p, files'.get? p = files.get? p ∨ (files.get? p = none ∧ files'.get? p = some .directory)

/-- The same file stands at a place, or none in either tree. -/
def Untouched (files files' : Files) (q : Place) : Prop :=
  ∀ content, files'.get? q = some (.file content) ↔ files.get? q = some (.file content)

/-- Nothing is found under the path, also not once the directories that it passes are made. -/
def IsAbsent (files : Files) (path : String) : Prop :=
  files.read path = .error .notFound ∧
    ∀ files', files.makeParent path = .ok files' → files'.read path = .error .notFound

/-- The directories above a path are there or can be made. -/
def HasParent (files : Files) (path : String) : Prop :=
  ∃ made, files.makeParent path = .ok made

theorem gainsDirectories_refl (files : Files) : GainsDirectories files files := fun _ => Or.inl rfl

theorem gainsDirectories_trans {a b c : Files} (hab : GainsDirectories a b)
    (hbc : GainsDirectories b c) : GainsDirectories a c := by
  intro p
  rcases hbc p with hc | ⟨hb, hc⟩
  · rw [hc]
    exact hab p
  · rcases hab p with hb' | ⟨-, hb'⟩
    · exact Or.inr ⟨hb'.symm.trans hb, hc⟩
    · cases hb.symm.trans hb'

theorem extends_of_gainsDirectories {files files' : Files} (h : GainsDirectories files files') :
    Extends files files' := by
  intro p node hp
  rcases h p with hs | ⟨hn, -⟩
  · exact hs.trans hp
  · cases hp.symm.trans hn

/-- No file has come, gone or changed where only directories have been made. -/
theorem untouched_of_gainsDirectories {files files' : Files} (h : GainsDirectories files files')
    (q : Place) : Untouched files files' q := by
  intro content
  rcases h q with hs | ⟨hn, hd⟩
  · rw [hs]
  · rw [hn, hd]
    simp

/-! ## Putting -/

/-- A place that is found somewhere is not outside of the tree. -/
theorem get?_eq_find? {files : Files} {p : Place} (hp : files.get? p ≠ some .directory)
    (files' : Files) :
    files'.get? p = (files'.nodes.find? fun entry => entry.1 = p).map Prod.snd := by
  unfold get?
  split
  · next h =>
    unfold get? at hp
    rw [if_pos h] at hp
    exact absurd rfl hp
  · rfl

theorem find?_put_of_any {nodes : List (Place × Node)} (p q : Place) (node : Node) :
    (nodes.map fun entry => if entry.1 = p then (p, node) else entry).find? (fun entry =>
        entry.1 = q)
      = (nodes.find? fun entry => entry.1 = q).map fun entry =>
        if entry.1 = p then (p, node) else entry := by
  rw [List.find?_map]
  congr 2
  funext entry
  dsimp only [Function.comp_apply]
  split
  · next h => rw [h]
  · rfl

theorem get?_put_self {files : Files} {p : Place} (hp : files.get? p ≠ some .directory)
    (node : Node) : (files.put p node).get? p = some node := by
  rw [get?_eq_find? hp, put]
  split
  · next h =>
    rw [find?_put_of_any]
    obtain ⟨entry, hm, he⟩ := List.any_eq_true.mp h
    have hs : (files.nodes.find? fun entry => entry.1 = p).isSome = true :=
      List.find?_isSome.mpr ⟨entry, hm, he⟩
    obtain ⟨found, hf⟩ := Option.isSome_iff_exists.mp hs
    have hd := List.find?_some hf
    rw [hf, Option.map_some, if_pos (of_decide_eq_true hd)]
    rfl
  · next h =>
    have hn : files.nodes.find? (fun entry => entry.1 = p) = none := by
      rw [List.find?_eq_none]
      intro entry hm he
      exact h (List.any_eq_true.mpr ⟨entry, hm, he⟩)
    rw [List.find?_append, hn, Option.none_or, List.find?_cons, decide_eq_true rfl]
    rfl

theorem get?_put_of_ne {files : Files} {p q : Place} (hq : q ≠ p) (node : Node) :
    (files.put p node).get? q = files.get? q := by
  rw [get?, get?]
  split
  · rfl
  · unfold put
    split
    · rw [find?_put_of_any]
      cases hf : files.nodes.find? (fun entry => entry.1 = q) with
      | none => rfl
      | some found =>
        have hd := List.find?_some hf
        have he : found.1 = q := of_decide_eq_true hd
        rw [Option.map_some, he, if_neg hq]
    · have hn : [(p, node)].find? (fun entry => decide (entry.1 = q)) = none :=
        List.find?_eq_none.mpr fun entry hm he => by
          rw [List.mem_singleton] at hm
          subst hm
          exact hq (of_decide_eq_true he).symm
      rw [List.find?_append, hn, Option.or_none]

theorem gainsDirectories_put {files : Files} {p : Place} (hp : files.get? p = none) :
    GainsDirectories files (files.put p .directory) := by
  intro q
  by_cases hq : q = p
  · rw [hq]
    exact Or.inr ⟨hp, get?_put_self (by simp [hp]) _⟩
  · exact Or.inl (get?_put_of_ne hq _)

/-! ## Following paths -/

/-- A path is followed only out of a directory. -/
theorem directory_of_enter {files : Files} {p q : Place} {name : String}
    (h : files.enter p name = .ok q) : files.get? p = some .directory := by
  unfold enter at h
  split at h
  · simp at h
  · simp at h
  · next hg => exact hg

theorem enter_of_directory {files files' : Files} {p : Place}
    (h : files.get? p = some .directory) (h' : files'.get? p = some .directory) (name : String) :
    files'.enter p name = files.enter p name := by
  unfold enter
  rw [h, h']

/-- Where the directories of a tree are directories too, a path leads to the same place. -/
theorem foldlM_enter_of_directories {files files' : Files}
    (h : ∀ p, files.get? p = some .directory → files'.get? p = some .directory)
    (names : List String) {p q : Place} (hq : names.foldlM files.enter p = .ok q) :
    names.foldlM files'.enter p = .ok q := by
  induction names generalizing p with
  | nil => exact hq
  | cons name names ih =>
    rw [List.foldlM_cons, bind_eq_ok_iff] at hq ⊢
    obtain ⟨r, he, hr⟩ := hq
    have hd := directory_of_enter he
    exact ⟨r, by rw [enter_of_directory hd (h p hd), he], ih hr⟩

theorem reach_of_directories {files files' : Files}
    (h : ∀ p, files.get? p = some .directory → files'.get? p = some .directory) {path : String}
    {q : Place} (hq : files.reach path = .ok q) : files'.reach path = .ok q := by
  unfold reach follow at hq ⊢
  split at hq
  · simp at hq
  · next hc =>
    split at hq
    · simp at hq
    · next he =>
      split at hq
      · simp at hq
      · next hl =>
        rw [if_neg hc, if_neg he, if_neg hl]
        exact foldlM_enter_of_directories h _ hq

/-- A path leads past what is put at a place where no directory stands. -/
theorem reach_put {files : Files} {p : Place} (hp : files.get? p ≠ some .directory) (node : Node)
    {path : String} {q : Place} (hq : files.reach path = .ok q) :
    (files.put p node).reach path = .ok q := by
  refine reach_of_directories ?_ hq
  intro r hr
  have hne : r ≠ p := by
    intro e
    exact hp (e ▸ hr)
  rw [get?_put_of_ne hne, hr]

/-! ## Reading -/

/-- A path leads to a file where it may lead to one and does. -/
theorem lookUp_eq_file_iff {files : Files} {path : String} {content : Bytes} :
    files.lookUp path = .ok (.file content) ↔ Path.isClosed path = false ∧
      ∃ p, files.reach path = .ok p ∧ files.get? p = some (.file content) := by
  unfold lookUp
  rw [bind_eq_ok_iff]
  constructor
  · rintro ⟨p, hp, h⟩
    split at h
    · simp at h
    · next held hg =>
      split at h
      · simp at h
      · next hc =>
        obtain rfl : held = content := by simpa using h
        exact ⟨Bool.eq_false_iff.mpr hc, p, hp, hg⟩
    · simp at h
  · rintro ⟨hc, p, hp, hg⟩
    refine ⟨p, hp, ?_⟩
    rw [hg]
    dsimp only
    rw [hc]
    rfl

/-- A file is read where a path that may lead to one leads to it. -/
theorem read_eq_ok_iff {files : Files} {path : String} {content : Bytes} :
    files.read path = .ok content ↔ Path.isClosed path = false ∧
      ∃ p, files.reach path = .ok p ∧ files.get? p = some (.file content) := by
  unfold read
  rw [← lookUp_eq_file_iff, bind_eq_ok_iff]
  constructor
  · rintro ⟨node, hn, h⟩
    cases node with
    | file held =>
      obtain rfl : held = content := by simpa using h
      exact hn
    | directory => simp at h
  · intro h
    exact ⟨_, h, rfl⟩

/-- The contents of a file, or nothing if there is no file. -/
def contents (files : Files) (path : String) : Bytes :=
  match files.read path with
  | .ok content => content
  | .error _ => []

theorem contents_of_read {files : Files} {path : String} {content : Bytes}
    (h : files.read path = .ok content) : files.contents path = content := by
  unfold contents
  rw [h]

theorem contents_of_none {files : Files} {path : String} {p : Place}
    (hp : files.reach path = .ok p) (hg : files.get? p = none) : files.contents path = [] := by
  unfold contents
  split
  · next content hread =>
    obtain ⟨-, q, hq, hf⟩ := read_eq_ok_iff.mp hread
    obtain rfl : p = q := Except.ok.inj (hp.symm.trans hq)
    simp [hg] at hf
  · rfl

/-- A file is written by putting its new contents where the path leads, if no directory is
there. -/
theorem write_eq_ok {files files' : Files} {path : String} {change : Bytes → Bytes}
    (h : files.write path change = .ok files') : Path.isClosed path = false ∧
      ∃ p, files.reach path = .ok p ∧ files.get? p ≠ some .directory ∧
        files' = files.put p (.file (change (files.contents path))) := by
  unfold write at h
  split at h
  · obtain ⟨p, -, hp⟩ := bind_eq_ok_iff.mp h
    simp at hp
  · next hc =>
    have ho : Path.isClosed path = false := Bool.eq_false_iff.mpr hc
    obtain ⟨p, hp, hw⟩ := bind_eq_ok_iff.mp h
    refine ⟨ho, p, hp, ?_⟩
    split at hw
    · next hg =>
      rw [contents_of_none hp hg]
      exact ⟨by simp [hg], (Except.ok.inj hw).symm⟩
    · next content hg =>
      rw [contents_of_read (read_eq_ok_iff.mpr ⟨ho, p, hp, hg⟩)]
      exact ⟨by simp [hg], (Except.ok.inj hw).symm⟩
    · simp at hw

/-- What has been written is read back. -/
theorem read_write {files files' : Files} {path : String} {change : Bytes → Bytes}
    (h : files.write path change = .ok files') :
    files'.read path = .ok (change (files.contents path)) := by
  obtain ⟨ho, p, hp, hd, rfl⟩ := write_eq_ok h
  exact read_eq_ok_iff.mpr ⟨ho, p, reach_put hd _ hp, get?_put_self hd _⟩

theorem read_of_extends {files files' : Files} (h : Extends files files') {path : String}
    {content : Bytes} (hr : files.read path = .ok content) : files'.read path = .ok content := by
  obtain ⟨ho, p, hp, hg⟩ := read_eq_ok_iff.mp hr
  exact read_eq_ok_iff.mpr
    ⟨ho, p, reach_of_directories (fun q hq => h q _ hq) hp, h p _ hg⟩

/-! ## Making directories -/

namespace Attempt

variable {files done left : Files} {a : Attempt} {next : Files → Attempt} {e : FileError}

theorem of_eq_ok_iff {r : Except FileError Files} :
    Attempt.of files r = .ok done ↔ r = .ok done := by
  cases r <;> simp [Attempt.of]

theorem of_eq_error_iff {r : Except FileError Files} :
    Attempt.of files r = .error e left ↔ r = .error e ∧ files = left := by
  cases r <;> simp [Attempt.of]

theorem andThen_eq_ok_iff :
    a.andThen next = .ok done ↔ ∃ made, a = .ok made ∧ next made = .ok done := by
  cases a <;> simp [andThen]

/-- Either the first step could not be done, or what comes after it. -/
theorem andThen_eq_error_iff : a.andThen next = .error e left ↔
    a = .error e left ∨ ∃ made, a = .ok made ∧ next made = .error e left := by
  cases a <;> simp [andThen]

end Attempt

theorem makeDirectory_eq_ok {files files' : Files} {path : String}
    (h : files.makeDirectory path = .ok files') : ∃ p, files.reach path = .ok p ∧
      files.get? p = none ∧ files' = files.put p .directory := by
  unfold makeDirectory at h
  obtain ⟨p, hp, h⟩ := bind_eq_ok_iff.mp h
  split at h
  · next hg => exact ⟨p, hp, hg, (Except.ok.inj h).symm⟩
  · simp at h

theorem ensureDirectory_cases {files files' : Files} {path : String}
    (h : files.ensureDirectory path = .ok files') : files' = files ∨
      ∃ p, files.reach path = .ok p ∧ files.get? p = none ∧ files' = files.put p .directory := by
  unfold ensureDirectory at h
  split at h
  · exact Or.inl (Except.ok.inj h).symm
  · exact Or.inr (makeDirectory_eq_ok h)

/-- What putting a directory where nothing is and one of the paths leads does not end, making all
of the directories does not end, however far it comes. -/
theorem makeWithin_induction {P : Files → Prop} {paths : List String}
    (hput : ∀ files p, ∀ path ∈ paths, files.reach path = .ok p → files.get? p = none →
      P files → P (files.put p .directory))
    {files : Files} (hf : P files) : P (files.makeWithin paths).files := by
  induction paths with
  | nil => exact hf
  | cons path outer ih =>
    have hfirst : ∀ {made}, P made → P (Attempt.of made (made.ensureDirectory path)).files := by
      intro made hm
      cases he : made.ensureDirectory path with
      | error e => exact hm
      | ok made' =>
        rcases ensureDirectory_cases he with rfl | ⟨p, hp, hg, rfl⟩
        · exact hm
        · exact hput made p path List.mem_cons_self hp hg hm
    have houter := ih fun files p d hd => hput files p d (List.mem_cons_of_mem path hd)
    rw [makeWithin]
    split
    · cases ho : files.makeWithin outer with
      | ok made =>
        rw [ho] at houter
        exact hfirst houter
      | error e left =>
        rw [ho] at houter
        exact houter
    · exact hfirst hf

theorem gainsDirectories_makeWithin (files : Files) (paths : List String) :
    GainsDirectories files (files.makeWithin paths).files :=
  makeWithin_induction (P := files.GainsDirectories)
    (fun _ _ _ _ _ hg hs => gainsDirectories_trans hs (gainsDirectories_put hg))
    (gainsDirectories_refl files)

theorem gainsDirectories_makeParent (files : Files) (path : String) :
    GainsDirectories files (files.makeParent path).files := by
  unfold makeParent makeDirectories
  split
  · exact gainsDirectories_refl files
  · exact gainsDirectories_makeWithin files _

theorem extends_makeParent {files made : Files} {path : String}
    (h : files.makeParent path = .ok made) : Extends files made := by
  have hg := gainsDirectories_makeParent files path
  rw [h] at hg
  exact extends_of_gainsDirectories hg

/-! ## Appending -/

/-- What an append comes to: the directories cannot all be made, the file cannot be opened then, or
it is written. -/
theorem appendMaking_cases (files : Files) (path : String) (more : Bytes) :
    (∃ e left, files.makeParent path = .error e left ∧
      files.appendMaking path more = .error e left) ∨
    ∃ made, files.makeParent path = .ok made ∧
      ((∃ e, made.append path more = .error e ∧ files.appendMaking path more = .error e made) ∨
        ∃ done, made.append path more = .ok done ∧ files.appendMaking path more = .ok done) := by
  unfold appendMaking
  cases hm : files.makeParent path with
  | error e left => exact Or.inl ⟨e, left, rfl, rfl⟩
  | ok made =>
    refine Or.inr ⟨made, rfl, ?_⟩
    rw [Attempt.andThen]
    cases made.append path more with
    | error e => exact Or.inl ⟨e, rfl, rfl⟩
    | ok done => exact Or.inr ⟨done, rfl, rfl⟩

/-- An append that fails may have made directories, and nothing else. -/
theorem gainsDirectories_of_error {files left : Files} {path : String} {more : Bytes}
    {e : FileError} (h : files.appendMaking path more = .error e left) :
    GainsDirectories files left := by
  have hg := gainsDirectories_makeParent files path
  rcases appendMaking_cases files path more with
    ⟨e', left', hm, ha⟩ | ⟨made, hm, ⟨e', -, ha⟩ | ⟨done, -, ha⟩⟩
  · cases ha.symm.trans h
    rwa [hm] at hg
  · cases ha.symm.trans h
    rwa [hm] at hg
  · cases ha.symm.trans h

/-- What has been appended is read back behind what there was. -/
theorem read_appendMaking {files files' : Files} {path : String} {more : Bytes}
    (hf : (∃ content, files.read path = .ok content) ∨ files.IsAbsent path)
    (h : files.appendMaking path more = .ok files') :
    files'.read path = .ok (files.contents path ++ more) := by
  unfold appendMaking at h
  obtain ⟨made, hm, hw⟩ := Attempt.andThen_eq_ok_iff.mp h
  have hc : made.contents path = files.contents path := by
    rcases hf with ⟨content, hr⟩ | ⟨hr, ha⟩
    · rw [contents_of_read hr, contents_of_read (read_of_extends (extends_makeParent hm) hr)]
    · unfold contents
      rw [hr, ha made hm]
  rw [← hc]
  exact read_write (Attempt.of_eq_ok_iff.mp hw)

end Failsafe.Files
