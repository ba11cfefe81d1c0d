import Mathlib.Data.List.Infix
import Failsafe.Proofs.Files
import Failsafe.Proofs.Path
/-
  Trees of files, and what an operation on one path leaves of the way to another.

  In a tree whatever stands somewhere stands in a directory, and all operations keep it so. Which
  places a path passes (`Place.passed`) and where it leads (`Place.of`) is decided by its text, if
  it leads anywhere. Two trees are alike on the way of a path if the same files stand on it and the
  same thing at its end; directories may be missing on the way (`SameWay`). A file that is made
  elsewhere, or that cannot be made, leaves a tree alike on the way (`sameWay_appendMaking`): all
  it can add there are directories.
-/

namespace Failsafe

/-! ## Where paths lead -/

namespace Place

/-- The place to which a name leads out of a directory. -/
def step (p : Place) (name : String) : Place :=
  if name = "." then p else if name = ".." then p.above else p ++ [name]

/-- The place to which a path leads, if all that it passes are directories. -/
def «of» (path : String) : Place := (Path.names path).foldl step (start path)

theorem step_of_ne {name : String} (hd : name ≠ ".") (hu : name ≠ "..") (p : Place) :
    p.step name = p ++ [name] := by
  rw [step, if_neg hd, if_neg hu]

/-- The places that a path passes, from where it starts to where it leads. -/
def passed (path : String) : List Place :=
  (Path.steps path).inits.map fun l => l.foldl step (start path)

/-- The places that a path passes before its last step. -/
def ahead (path : String) : List Place :=
  (Path.steps path).dropLast.inits.map fun l => l.foldl step (start path)

/-- Dots lead nowhere. -/
theorem foldl_step_filter (l : List String) (p : Place) :
    (l.filter fun name => name ≠ ".").foldl step p = l.foldl step p := by
  induction l generalizing p with
  | nil => rfl
  | cons name l ih =>
    by_cases hd : name = "."
    · rw [List.filter_cons_of_neg (by simpa using hd), ih, List.foldl_cons, step, if_pos hd]
    · rw [List.filter_cons_of_pos (by simpa using hd), List.foldl_cons, ih, List.foldl_cons]

theorem of_eq_steps (path : String) :
    Place.of path = (Path.steps path).foldl step (start path) := (foldl_step_filter _ _).symm

theorem mem_passed_of_prefix {path : String} {l : List String} (h : l <+: Path.names path) :
    l.foldl step (start path) ∈ passed path := by
  rw [← foldl_step_filter]
  exact List.mem_map_of_mem ((List.mem_inits _ _).mpr (h.filter _))

theorem of_mem_passed (path : String) : Place.of path ∈ passed path :=
  mem_passed_of_prefix (List.prefix_refl _)

theorem mem_ahead_iff {path : String} {l : List String} (h : (Path.steps path).dropLast = l)
    {p : Place} : p ∈ ahead path ↔ ∃ m, m <+: l ∧ m.foldl step (start path) = p := by
  rw [ahead, h, List.mem_map]
  simp only [List.mem_inits]

/-- What a path passes, it passes before its last step, or it leads there. -/
theorem mem_passed_iff {path : String} {p : Place} :
    p ∈ passed path ↔ p ∈ ahead path ∨ p = Place.of path := by
  unfold passed ahead
  rw [of_eq_steps]
  rcases List.eq_nil_or_concat (Path.steps path) with hs | ⟨l, x, hs⟩
  · simp [hs]
  · rw [hs, List.concat_eq_append, List.dropLast_concat, List.mem_map, List.mem_map]
    simp only [List.mem_inits, List.prefix_concat_iff, or_and_right, exists_or, exists_eq_left]
    exact or_comm.trans (or_congr_right eq_comm)

end Place

namespace Files

/-- Whatever stands somewhere stands in a directory. -/
def IsTree (files : Files) : Prop :=
  ∀ p name, files.get? (p ++ [name]) ≠ none → files.get? p = some .directory

theorem get?_of_isOutside {files : Files} {p : Place} (h : p.isOutside = true) :
    files.get? p = some .directory := by
  rw [get?, h]
  rfl

theorem get?_start (files : Files) (path : String) :
    files.get? (Place.start path) = some .directory := by
  unfold Place.start
  split <;> rfl

theorem isTree_empty : IsTree empty := by
  intro p name h
  unfold get? at h
  split at h
  · next ho =>
    rw [Bool.or_eq_true, decide_eq_true_iff] at ho
    rcases ho with ho | ho
    · apply get?_of_isOutside
      rw [Place.isOutside, List.all_append, Bool.and_eq_true] at ho
      exact ho.1
    · cases p with
      | nil => rfl
      | cons first p => simp at ho
  · exact absurd rfl h

theorem enter_eq_ok {files : Files} {p q : Place} {name : String}
    (h : files.enter p name = .ok q) : files.get? p = some .directory ∧ q = p.step name := by
  refine ⟨directory_of_enter h, ?_⟩
  unfold enter at h
  rw [directory_of_enter h] at h
  unfold Place.step
  dsimp only at h
  split at h
  · next hd => rw [if_pos hd, Except.ok.inj h]
  · next hd =>
    rw [if_neg hd]
    split at h
    · next hu => rw [if_pos hu, Except.ok.inj h]
    · next hu =>
      rw [if_neg hu]
      split at h
      · cases h
      · rw [Except.ok.inj h]

/-- What goes wrong with a path whatever the files are. -/
def fault? (path : String) : Option FileError :=
  if '\x00' ∈ path.toList then some .unnameable
  else if path.isEmpty then some .notFound
  else if longestPath < path.utf8ByteSize then some .nameTooLong
  else none

theorem follow_eq (files : Files) (path : String) (names : List String) :
    files.follow path names = match fault? path with
      | some e => .error e
      | none => names.foldlM files.enter (Place.start path) := by
  unfold follow fault?
  split
  · rfl
  split
  · rfl
  split <;> rfl

theorem foldlM_enter_eq_ok {files : Files} {p q : Place} {l : List String}
    (h : l.foldlM files.enter p = .ok q) : q = l.foldl Place.step p := by
  induction l generalizing p with
  | nil => exact (Except.ok.inj h).symm
  | cons name l ih =>
    rw [List.foldlM_cons, bind_eq_ok_iff] at h
    obtain ⟨r, hr, h⟩ := h
    rw [List.foldl_cons, ← (enter_eq_ok hr).2]
    exact ih h

/-- A path leads where its text says, if it leads anywhere. -/
theorem eq_of_reach {files : Files} {path : String} {p : Place} (h : files.reach path = .ok p) :
    p = Place.of path := by
  unfold reach at h
  rw [follow_eq] at h
  split at h
  · cases h
  · exact foldlM_enter_eq_ok h

/-- A place is in a directory. -/
def IsHoused (files : Files) (p : Place) : Prop :=
  ∀ q name, p = q ++ [name] → files.get? q = some .directory

theorem isHoused_of_isTree {files : Files} (hf : files.IsTree) {p : Place}
    (h : files.get? p ≠ none) : files.IsHoused p := by
  rintro q name rfl
  exact hf q name h

theorem isHoused_step {files : Files} (hf : files.IsTree) {p : Place}
    (h : files.get? p = some .directory) (name : String) : files.IsHoused (p.step name) := by
  have hp : files.IsHoused p := isHoused_of_isTree hf (by simp [h])
  unfold Place.step
  split
  · exact hp
  split
  · unfold Place.above
    split
    · intro q name hq
      rw [← (List.append_inj_left' hq rfl)]
      exact h
    split
    · exact hp
    · next ho _ =>
      obtain ⟨q, x, rfl⟩ : ∃ q x, p = q ++ [x] := by
        refine ⟨p.dropLast, p.getLast ?_, (List.dropLast_concat_getLast _).symm⟩
        rintro rfl
        exact ho rfl
      rw [List.dropLast_concat]
      exact isHoused_of_isTree hf (by simp [hf q x (by simp [h])])
  · intro q name hq
    rw [← (List.append_inj_left' hq rfl)]
    exact h

theorem isHoused_of_reach {files : Files} (hf : files.IsTree) {path : String} {p : Place}
    (h : files.reach path = .ok p) : files.IsHoused p := by
  have hl : ∀ (l : List String) {q : Place}, files.IsHoused q →
      l.foldlM files.enter q = .ok p → files.IsHoused p := by
    intro l
    induction l with
    | nil =>
      intro q hq he
      rw [← Except.ok.inj he]
      exact hq
    | cons name l ih =>
      intro q _ he
      rw [List.foldlM_cons, bind_eq_ok_iff] at he
      obtain ⟨r, hr, he⟩ := he
      obtain ⟨hd, rfl⟩ := enter_eq_ok hr
      exact ih (isHoused_step hf hd name) he
  unfold reach at h
  rw [follow_eq] at h
  split at h
  · cases h
  · exact hl _ (isHoused_of_isTree hf (by simp [get?_start])) h

/-! ## Trees stay trees -/

theorem isTree_put {files : Files} (hf : files.IsTree) {p : Place}
    (hp : files.get? p ≠ some .directory) (hh : files.IsHoused p) (node : Node) :
    (files.put p node).IsTree := by
  intro q name h
  have hq : files.get? q = some .directory := by
    by_cases he : q ++ [name] = p
    · exact hh q name he.symm
    · rw [get?_put_of_ne he] at h
      exact hf q name h
  have hne : q ≠ p := by
    rintro rfl
    exact hp hq
  rw [get?_put_of_ne hne, hq]

theorem isTree_makeWithin {files : Files} (hf : files.IsTree) (paths : List String) :
    (files.makeWithin paths).files.IsTree :=
  makeWithin_induction (P := IsTree)
    (fun _ _ _ _ hr hn hf => isTree_put hf (by simp [hn]) (isHoused_of_reach hf hr) _) hf

theorem isTree_write {files files' : Files} (hf : files.IsTree) {path : String}
    {change : Bytes → Bytes} (h : files.write path change = .ok files') : files'.IsTree := by
  obtain ⟨-, p, hr, hp, rfl⟩ := write_eq_ok h
  exact isTree_put hf hp (isHoused_of_reach hf hr) _

/-- The directories above a path are made. -/
theorem makeParent_eq (files : Files) (path : String) :
    files.makeParent path = files.makeWithin (Path.above path) := by
  unfold makeParent makeDirectories
  rcases List.eq_nil_or_concat (Path.parts path) with hp | ⟨l, name, hp⟩
  · rw [Path.above_of_nil hp]
    rfl
  · rw [List.concat_eq_append] at hp
    have hn := (Path.isTrim_of_snoc (hp ▸ Path.isTrim_parts path)).names
    rw [Path.above_of_snoc hp, Path.chain]
    split
    · next hl =>
      have he : (Path.ofParts (Path.isRooted path) l).isEmpty = false := by
        simpa using Path.ofParts_ne_empty hn hl
      rw [List.head?_cons, Option.getD_some, he]
      rfl
    · rfl

/-- A step that a tree is kept by, whether or not it can be done, keeps it after others too. -/
theorem isTree_andThen {a : Attempt} {next : Files → Attempt} (ha : a.files.IsTree)
    (hn : ∀ made, a = .ok made → (next made).files.IsTree) : (a.andThen next).files.IsTree := by
  cases a with
  | ok made => exact hn made rfl
  | error e left => exact ha

theorem isTree_appendMaking {files : Files} (hf : files.IsTree) (path : String) (more : Bytes) :
    (files.appendMaking path more).files.IsTree := by
  unfold appendMaking
  rw [makeParent_eq]
  have hm := isTree_makeWithin hf (Path.above path)
  refine isTree_andThen hm fun made h => ?_
  rw [h] at hm
  cases hw : made.append path more with
  | error e => exact hm
  | ok done => exact isTree_write hm hw

/-! ## Paths that are put together -/

/-- Where the names of a path are followed from. -/
def base (rooted : Bool) : Place := if rooted then ["/"] else []

theorem get?_base (files : Files) (rooted : Bool) :
    files.get? (base rooted) = some .directory := by
  cases rooted <;> rfl

theorem start_eq_base (path : String) : Place.start path = base (Path.isRooted path) := rfl

theorem start_ofParts {rooted : Bool} {l : List String} (h : ∀ name ∈ l, Path.IsName name) :
    Place.start (Path.ofParts rooted l) = base rooted := by
  rw [start_eq_base, Path.isRooted_ofParts h]

theorem of_ofParts {rooted : Bool} {l : List String} (h : ∀ name ∈ l, Path.IsName name) :
    Place.of (Path.ofParts rooted l) = l.foldl Place.step (base rooted) := by
  rw [Place.of, Path.names_ofParts h, start_ofParts h]

theorem reach_ofParts {rooted : Bool} {l : List String} (h : ∀ name ∈ l, Path.IsName name)
    (hf : fault? (Path.ofParts rooted l) = none) (files : Files) :
    files.reach (Path.ofParts rooted l) = l.foldlM files.enter (base rooted) := by
  rw [reach, follow_eq, hf, Path.names_ofParts h, start_ofParts h]

/-- A directory above a path is passed before the last step. -/
theorem of_mem_ahead {path d : String} (h : d ∈ Path.above path) :
    Place.of d ∈ Place.ahead path := by
  rcases Path.steps_cases path with ⟨hp, -⟩ | ⟨l, x, hp, hs⟩
  · rw [Path.above_of_nil hp] at h
    cases h
  rw [Path.above_eq, List.mem_map] at h
  obtain ⟨m, hm, rfl⟩ := h
  obtain ⟨i, hi, rfl⟩ := List.mem_map.mp (List.mem_filter.mp hm).1
  rw [List.mem_reverse, List.mem_range, hp, List.length_append, List.length_singleton] at hi
  have htake : (Path.parts path).take i <+: l := by
    rw [hp, List.take_append_of_le_length (by omega)]
    exact List.take_prefix i l
  have hname : ∀ name ∈ (Path.parts path).take i, Path.IsName name := fun name hn =>
    (Path.isTrim_parts path).names name (List.mem_of_mem_take hn)
  rw [of_ofParts hname, ← Place.foldl_step_filter, ← start_eq_base]
  refine List.mem_map_of_mem ((List.mem_inits _ _).mpr ?_)
  rw [hs]
  exact htake.filter _

/-! ## The way of a path -/

/-- A file stands at a place. -/
def hasFile (files : Files) (p : Place) : Bool :=
  match files.get? p with
  | some (.file _) => true
  | _ => false

theorem hasFile_eq_true_iff {files : Files} {p : Place} :
    files.hasFile p = true ↔ ∃ content, files.get? p = some (.file content) := by
  unfold hasFile
  split
  · next content hg => simp [hg]
  · next hg => simpa using hg

/-- Two trees have files at the same places on the way of a path, and the same thing where it
leads, unless the path passes that place before. -/
structure SameWay (path : String) (files files' : Files) : Prop where
  last : Place.of path ∉ Place.ahead path →
    files.get? (Place.of path) = files'.get? (Place.of path)
  way : ∀ p ∈ Place.ahead path, files.hasFile p = files'.hasFile p

section
variable {path : String}

theorem sameWay_refl (path : String) (files : Files) : SameWay path files files :=
  ⟨fun _ => rfl, fun _ _ => rfl⟩

theorem sameWay_symm {files files' : Files} (h : SameWay path files files') :
    SameWay path files' files :=
  ⟨fun hw => (h.last hw).symm, fun p hp => (h.way p hp).symm⟩

theorem sameWay_trans {a b c : Files} (hab : SameWay path a b) (hbc : SameWay path b c) :
    SameWay path a c :=
  ⟨fun hw => (hab.last hw).trans (hbc.last hw), fun p hp => (hab.way p hp).trans (hbc.way p hp)⟩

theorem sameWay_of_agree {files files' : Files}
    (h : ∀ q ∈ Place.passed path, files.get? q = files'.get? q) : SameWay path files files' := by
  refine ⟨fun _ => h _ (Place.of_mem_passed path), fun p hp => ?_⟩
  rw [hasFile, hasFile, h p (Place.mem_passed_iff.mpr (Or.inl hp))]

/-- Neither path passes the place to which the other leads. -/
structure IsApart (path other : String) : Prop where
  there : Place.of path ∉ Place.passed other
  back : Place.of other ∉ Place.passed path

/-- Making directories puts nothing in the place of a file, and no file anywhere. -/
theorem hasFile_of_gainsDirectories {files files' : Files} (h : GainsDirectories files files') :
    files'.hasFile = files.hasFile := by
  funext q
  rw [Bool.eq_iff_iff, hasFile_eq_true_iff, hasFile_eq_true_iff]
  exact exists_congr (untouched_of_gainsDirectories h q)

theorem hasFile_makeWithin (files : Files) (paths : List String) :
    (files.makeWithin paths).files.hasFile = files.hasFile :=
  hasFile_of_gainsDirectories (gainsDirectories_makeWithin files paths)

/-- Making directories changes nothing but where a path to one of them leads. -/
theorem get?_makeWithin (files : Files) {w : Place} {paths : List String}
    (hw : ∀ d ∈ paths, Place.of d ≠ w) : (files.makeWithin paths).files.get? w = files.get? w := by
  refine makeWithin_induction (P := fun made => made.get? w = files.get? w) ?_ rfl
  intro made p d hd hr _ hs
  rw [← hs, get?_put_of_ne]
  rintro rfl
  exact hw d hd (eq_of_reach hr).symm

theorem sameWay_makeWithin (files : Files) {paths : List String}
    (hw : Place.of path ∉ Place.ahead path → ∀ d ∈ paths, Place.of d ≠ Place.of path) :
    SameWay path files (files.makeWithin paths).files :=
  ⟨fun h => (get?_makeWithin files (hw h)).symm,
    fun p _ => (congrFun (hasFile_makeWithin files paths) p).symm⟩

/-- Making the directories above a path leaves the way of the path as it is. -/
theorem sameWay_makeParent (files : Files) (path : String) :
    SameWay path files (files.makeParent path).files := by
  rw [makeParent_eq]
  refine sameWay_makeWithin files fun hw d hd he => hw ?_
  rw [← he]
  exact of_mem_ahead hd

theorem sameWay_write {files files' : Files} {other : String} {change : Bytes → Bytes}
    (hw : Place.of other ∉ Place.passed path) (h : files.write other change = .ok files') :
    SameWay path files files' := by
  obtain ⟨-, p, hr, -, rfl⟩ := write_eq_ok h
  rw [← eq_of_reach hr] at hw
  refine sameWay_of_agree fun q hq => ?_
  rw [get?_put_of_ne]
  rintro rfl
  exact hw hq

/-- A file that is made elsewhere, or that cannot be made, leaves the way of a path as it is. -/
theorem sameWay_appendMaking {other : String} (ha : IsApart path other) (files : Files)
    (more : Bytes) : SameWay path files (files.appendMaking other more).files := by
  have hmade : SameWay path files (files.makeParent other).files := by
    rw [makeParent_eq]
    refine sameWay_makeWithin files fun _ d hd he => ha.there ?_
    rw [← he]
    exact Place.mem_passed_iff.mpr (Or.inl (of_mem_ahead hd))
  rcases appendMaking_cases files other more with
    ⟨e, left, hm, h⟩ | ⟨made, hm, ⟨e, -, h⟩ | ⟨done, hw, h⟩⟩
  · rw [hm] at hmade
    rw [h]
    exact hmade
  · rw [hm] at hmade
    rw [h]
    exact hmade
  · rw [hm] at hmade
    rw [h]
    exact sameWay_trans hmade (sameWay_write ha.back hw)

/-- Directories stay directories whatever is appended to. -/
theorem directory_appendMaking {files : Files} {p : Place} (h : files.get? p = some .directory)
    (path : String) (more : Bytes) :
    (files.appendMaking path more).files.get? p = some .directory := by
  have hmade := extends_of_gainsDirectories (gainsDirectories_makeParent files path) p _ h
  rcases appendMaking_cases files path more with
    ⟨e, left, hm, ha⟩ | ⟨made, hm, ⟨e, -, ha⟩ | ⟨done, hw, ha⟩⟩
  · rw [hm] at hmade
    rw [ha]
    exact hmade
  · rw [hm] at hmade
    rw [ha]
    exact hmade
  · rw [hm] at hmade
    obtain ⟨-, q, -, hq, rfl⟩ := write_eq_ok hw
    rw [ha]
    refine (get?_put_of_ne ?_ _).trans hmade
    rintro rfl
    exact hq hmade

end

end Files

end Failsafe
