import Failsafe.Error
import Failsafe.Proofs.Buffer.Calls
import Failsafe.Proofs.Making
/-
  One write buffer over two trees of files.

  Two trees serve a buffer alike if its log has the same contents in both and the same files are in
  the way there. Then a write or a flush gives the same answer over both, tells the same and leaves
  the same buffer, which both trees still serve alike (`agree_add`, `agree_flush`). What else is in
  the trees the buffer cannot tell, unless the cause is named for which a write is not logged: that
  may depend on the directories that are there (`FileError.IsFair`).
-/

namespace Failsafe

/-- A way to tell causes, of a failure to append to a file, that tells no causes apart which may
stand for each other over that path. -/
def FileError.IsFair (tell : FileError → FileError) (path : String) : Prop :=
  ∀ e e' : FileError, e.gist = e'.gist → (Path.IsDirect path → e = e') → tell e = tell e'

theorem FileError.isFair_gist (path : String) : IsFair gist path := fun _ _ h _ => h

theorem FileError.isFair_id {path : String} (h : Path.IsDirect path) : IsFair id path :=
  fun _ _ _ he => he h

/-- An error whose cause is told in some way. -/
def Error.withCause (tell : FileError → FileError) : Error → Error
  | .io f => .io (tell f)
  | e => e

theorem Error.withCause_id (e : Error) : e.withCause id = e := by
  cases e <;> rfl

namespace Buffer

variable {tell : FileError → FileError}

/-- Two trees serve a buffer alike, as far as one can tell. The log of a buffer that holds anything
is a file. -/
structure IsServed (tell : FileError → FileError) (b : Buffer) (files files' : Files) : Prop where
  tree : files.IsTree
  tree' : files'.IsTree
  fair : ∀ path, b.config.wal = some path → FileError.IsFair tell path
  way : ∀ path, b.config.wal = some path → Files.SameWay path files files'
  held : ∀ path, b.config.wal = some path → b.entries ≠ [] →
    ∃ content, files.read path = .ok content ∧ files'.read path = .ok content

/-- Two steps leave the same buffer and tell the same. Their trees serve the buffer alike. -/
structure Agree (tell : FileError → FileError) (x x' : Step (Buffer × Files) α) : Prop where
  buffer : x'.state.1 = x.state.1
  signals : x'.signals = x.signals
  served : x.state.1.IsServed tell x.state.2 x'.state.2

variable {b : Buffer} {files files' : Files}

theorem isServed_symm (h : b.IsServed tell files files') : b.IsServed tell files' files where
  tree := h.tree'
  tree' := h.tree
  fair := h.fair
  way path hw := Files.sameWay_symm (h.way path hw)
  held path hw hn := by
    obtain ⟨content, hr, hr'⟩ := h.held path hw hn
    exact ⟨content, hr', hr⟩

/-- Files that stay alike on the way to the log go on serving the buffer. -/
theorem isServed_of_sameWay {done : Files} (h : b.IsServed tell files files') (ht : done.IsTree)
    (hd : ∀ p, files.get? p = some .directory → done.get? p = some .directory)
    (hs : ∀ path, b.config.wal = some path → Files.SameWay path files done) :
    b.IsServed tell done files' where
  tree := ht
  tree' := h.tree'
  fair := h.fair
  way path hw := Files.sameWay_trans (Files.sameWay_symm (hs path hw)) (h.way path hw)
  held path hw hn := by
    obtain ⟨content, hr, hr'⟩ := h.held path hw hn
    exact ⟨content, Files.read_of_sameWay hd (hs path hw) hr, hr'⟩

/-! ## Calls -/

/-- Directories that have been made in vain make no difference to what is held. -/
theorem isServed_of_error (h : b.IsServed tell files files') {path : String} {more : Bytes}
    {f f' : FileError} {left left' : Files} (hw : b.config.wal = some path)
    (hf : files.appendMaking path more = .error f left)
    (hf' : files'.appendMaking path more = .error f' left')
    (hs : Files.SameWay path left left') : b.IsServed tell left left' := by
  have ht := Files.isTree_appendMaking h.tree path more
  have ht' := Files.isTree_appendMaking h.tree' path more
  rw [hf] at ht
  rw [hf'] at ht'
  have heq : ∀ path', b.config.wal = some path' → path = path' :=
    fun path' hp => Option.some.inj (hw.symm.trans hp)
  refine ⟨ht, ht', h.fair, fun path' hp => ?_, fun path' hp hn => ?_⟩
  · rw [← heq path' hp]
    exact hs
  · obtain ⟨content, hr, hr'⟩ := h.held path' hp hn
    exact ⟨content,
      Files.read_of_extends (Files.extends_of_gainsDirectories (Files.gainsDirectories_of_error hf))
        hr,
      Files.read_of_extends
        (Files.extends_of_gainsDirectories (Files.gainsDirectories_of_error hf')) hr'⟩

/-- An entry is logged in both trees, or in none, for causes that are told alike. -/
theorem appendLog_of_isServed (h : b.IsServed tell files files') (e : Entry) :
    (∃ f f' left left', b.appendLog files e = .error f left ∧
      b.appendLog files' e = .error f' left' ∧ tell f = tell f' ∧ b.IsServed tell left left') ∨
    ∃ done done', b.appendLog files e = .ok done ∧ b.appendLog files' e = .ok done' ∧
      (b.hold e).IsServed tell done done' := by
  unfold appendLog
  cases hw : b.config.wal with
  | none =>
    have hn : ∀ path, (b.hold e).config.wal ≠ some path := by
      intro path hp
      cases hw.symm.trans hp
    exact Or.inr ⟨files, files', rfl, rfl, h.tree, h.tree', fun path hp => absurd hp (hn path),
      fun path hp => absurd hp (hn path), fun path hp => absurd hp (hn path)⟩
  | some path =>
    have heq : ∀ path', (b.hold e).config.wal = some path' → path = path' :=
      fun path' hp => Option.some.inj (hw.symm.trans hp)
    have ht := Files.isTree_appendMaking h.tree path (Bytes.encode (Wal.line e))
    have ht' := Files.isTree_appendMaking h.tree' path (Bytes.encode (Wal.line e))
    rcases Files.appendMaking_sameWay h.tree h.tree' (h.way path hw)
      (Bytes.encode (Wal.line e)) with
      ⟨f, f', left, left', hf, hf', hg, hd, hs⟩ | ⟨done, done', content, hd, hd', hs, hr, hr'⟩
    · exact Or.inl ⟨f, f', left, left', hf, hf', h.fair path hw f f' hg hd,
        isServed_of_error h hw hf hf' hs⟩
    · rw [hd] at ht
      rw [hd'] at ht'
      refine Or.inr ⟨done, done', hd, hd', ht, ht', h.fair, fun path' hp => ?_,
        fun path' hp _ => ?_⟩
      · rw [← heq path' hp]
        exact hs
      · rw [← heq path' hp]
        exact ⟨content, hr, hr'⟩

theorem agree_add (h : b.IsServed tell files files') (e : Entry) :
    (b.add e files').answer.mapError (Error.withCause tell)
      = (b.add e files).answer.mapError (Error.withCause tell) ∧
    Agree tell (b.add e files) (b.add e files') := by
  unfold add
  dsimp only
  split
  · exact ⟨rfl, rfl, rfl, h⟩
  · rcases appendLog_of_isServed h (b.stamp e) with
      ⟨f, f', left, left', hf, hf', ht, hs⟩ | ⟨done, done', hd, hd', hs⟩
    · rw [hf, hf']
      exact ⟨congrArg (fun cause => Except.error (Error.io cause)) ht.symm, rfl, rfl, hs⟩
    · rw [hd, hd']
      exact ⟨rfl, rfl, rfl, hs⟩

/-- The log of a buffer that holds something is emptied in both trees. -/
theorem truncateLog_of_isServed (h : b.IsServed tell files files') (hn : b.entries ≠ []) :
    ∃ done done', b.truncateLog files = .ok done ∧ b.truncateLog files' = .ok done' ∧
      { b with entries := [], bytes := 0 }.IsServed tell done done' := by
  unfold truncateLog
  cases hw : b.config.wal with
  | none =>
    exact ⟨files, files', rfl, rfl, h.tree, h.tree', h.fair, h.way, fun _ _ hne => absurd rfl hne⟩
  | some path =>
    obtain ⟨content, hr, hr'⟩ := h.held path hw hn
    obtain ⟨done, done', hd, hd', hs⟩ := Files.truncate_sameWay (h.way path hw) hr hr'
    refine ⟨done, done', hd, hd', Files.isTree_write h.tree hd, Files.isTree_write h.tree' hd',
      h.fair, fun path' hp => ?_, fun _ _ hne => absurd rfl hne⟩
    rw [← Option.some.inj (hw.symm.trans hp)]
    exact hs

theorem agree_flush (h : b.IsServed tell files files')
    (reply : List Entry → Except Error Unit) :
    (b.flush reply files').answer = (b.flush reply files).answer ∧
    Agree tell (b.flush reply files) (b.flush reply files') := by
  unfold flush batch?
  cases he : b.entries with
  | nil => exact ⟨rfl, rfl, rfl, h⟩
  | cons e rest =>
    simp only [List.isEmpty_cons, Bool.false_eq_true, if_false]
    cases reply (e :: rest) with
    | error f => exact ⟨rfl, rfl, rfl, h⟩
    | ok u =>
      obtain ⟨done, done', hd, hd', hs⟩ := truncateLog_of_isServed h (by simp [he])
      rw [hd, hd']
      exact ⟨rfl, rfl, rfl, hs⟩

/-! ## Restoring -/

variable {config : BufferConfig}

/-- Trees that agree in all that the path of the log passes restore the same buffer. -/
theorem new_congr (h : ∀ path, config.wal = some path →
      ∀ q ∈ Place.passed path, files.get? q = files'.get? q) :
    new config files' = new config files := by
  unfold new
  cases hw : config.wal with
  | none => rfl
  | some path =>
    dsimp only
    unfold Wal.load
    rw [Files.read_congr (h path hw)]

/-- A buffer that holds something from the start has it from a file. -/
theorem read_of_new {path : String} (hw : config.wal = some path)
    (h : (new config files).1 = .ok b) (hn : b.entries ≠ []) :
    ∃ content, files.read path = .ok content := by
  rcases new_cases h with ⟨hw', -⟩ | ⟨path', r, hw', hl, rfl⟩
  · cases hw.symm.trans hw'
  · obtain rfl := Option.some.inj (hw.symm.trans hw')
    unfold Wal.load at hl
    split at hl
    · cases hl
      exact absurd rfl hn
    · cases hl
    · next content hread => exact ⟨content, hread⟩

theorem config_of_new (h : (new config files).1 = .ok b) : b.config = config := by
  rcases new_cases h with ⟨-, rfl⟩ | ⟨path, r, -, -, rfl⟩
  · rfl
  · rfl

/-- What is restored from such trees, they serve alike. -/
theorem isServed_new (ht : files.IsTree) (ht' : files'.IsTree)
    (hg : ∀ path, config.wal = some path → FileError.IsFair tell path)
    (h : ∀ path, config.wal = some path → ∀ q ∈ Place.passed path, files.get? q = files'.get? q)
    (hb : (new config files).1 = .ok b) : b.IsServed tell files files' := by
  have hc := config_of_new hb
  refine ⟨ht, ht', ?_, ?_, ?_⟩ <;> rw [hc]
  · exact hg
  · exact fun path hw => Files.sameWay_of_agree (h path hw)
  · intro path hw hn
    obtain ⟨content, hr⟩ := read_of_new hw hb hn
    exact ⟨content, hr, (Files.read_congr (h path hw)).symm.trans hr⟩

end Buffer

end Failsafe
