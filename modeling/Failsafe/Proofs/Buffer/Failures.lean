import Failsafe.Proofs.Appending
import Failsafe.Proofs.Buffer.Calls
/-
  Calls of the write buffer that fail might as well not have been made.

  A call is in vain if it is refused, if it fails or if there is nothing to do. It leaves the
  buffer and the bytes of its log as they were (`spares_perform`); where the log cannot be appended
  to, it may leave directories, and all later calls are in vain too (`vain_of_isStuck`). So the run
  without such calls is the same run: the writes that are accepted get the same numbers, the sink
  is handed the same batches, and the same is held at the end (`transcript_kept`).
-/

namespace Failsafe.Buffer

/-- What comes of a call. A write is told with the number that it is given, a flush with what the
sink is handed. -/
inductive Reply where
  | added (e : Entry) (answer : Except Error Bool)
  | flushed (batch? : Option (List Entry)) (answer : Except Error Nat)

/-- Nothing is accepted and nothing is flushed. -/
def Reply.isVain : Reply → Bool
  | added _ (.ok true) => false
  | flushed (some _) (.ok _) => false
  | _ => true

/-- The write that is accepted, with its number. -/
def Reply.accepted? : Reply → Option Entry
  | added e (.ok true) => some e
  | _ => none

/-- What comes of a call on the buffer and the files. -/
def Call.reply (s : Buffer × Files) : Call → Reply
  | .add e => .added (s.1.stamp e) (s.1.add e s.2).answer
  | .flush reply => .flushed s.1.batch? (s.1.flush reply s.2).answer

/-- Calls one after the other, each with what comes of it. -/
def transcript (s : Buffer × Files) : List Call → List (Call × Reply)
  | [] => []
  | c :: calls => (c, c.reply s) :: transcript (c.perform s) calls

/-- The writes that are accepted, in their order. -/
def accepted (s : Buffer × Files) (calls : List Call) : List Entry :=
  (transcript s calls).filterMap fun x => x.2.accepted?

/-- The calls of which something comes. -/
def kept (s : Buffer × Files) (calls : List Call) : List (Call × Reply) :=
  (transcript s calls).filter fun x => !x.2.isVain

/-- All that the buffer holds is the same, and so are the bytes of its log. Of the files nothing has
changed but that directories have been made. -/
structure Spares (s s' : Buffer × Files) : Prop where
  entries : s'.1.entries = s.1.entries
  bytes : s'.1.bytes = s.1.bytes
  nextSeq : s'.1.nextSeq = s.1.nextSeq
  config : s'.1.config = s.1.config
  contents : ∀ path, s.1.config.wal = some path → s'.2.contents path = s.2.contents path
  gains : s.2.GainsDirectories s'.2

theorem spares_refl (s : Buffer × Files) : Spares s s :=
  ⟨rfl, rfl, rfl, rfl, fun _ _ => rfl, Files.gainsDirectories_refl s.2⟩

/-! ## Logs that cannot be appended to -/

section
variable {b : Buffer} {files left : Files} {e : Entry} {f : FileError}

/-- It is the log that cannot be appended to. -/
theorem appendLog_eq_error (h : b.appendLog files e = .error f left) : ∃ path,
    b.config.wal = some path ∧
      files.appendMaking path (Bytes.encode (Wal.line e)) = .error f left := by
  unfold appendLog at h
  split at h
  · next path hw => exact ⟨path, hw, h⟩
  · cases h

theorem spares_of_error (h : b.appendLog files e = .error f left) :
    Spares (b, files) (b, left) := by
  obtain ⟨path, hw, ha⟩ := appendLog_eq_error h
  refine ⟨rfl, rfl, rfl, rfl, fun path' hw' => ?_, Files.gainsDirectories_of_error ha⟩
  obtain rfl := Option.some.inj (hw.symm.trans hw')
  obtain ⟨hfiles, hleft⟩ := Files.contents_of_error ha
  exact hleft.trans hfiles.symm

theorem spares_of_isLeft (h : b.IsLeft e files left) : Spares (b, files) (b, left) := by
  rcases h with rfl | ⟨f, hf⟩
  · exact spares_refl _
  · exact spares_of_error hf

/-- The log can neither be appended to nor emptied, and trying to changes nothing. -/
structure IsStuck (s : Buffer × Files) : Prop where
  append : ∀ e, ∃ f, s.1.appendLog s.2 e = .error f s.2
  truncate : ∃ f, s.1.truncateLog s.2 = .error f

/-- One failure is enough. -/
theorem isStuck_of_error (h : b.appendLog files e = .error f left) : IsStuck (b, left) := by
  obtain ⟨path, hw, ha⟩ := appendLog_eq_error h
  constructor
  · intro e'
    show ∃ f', b.appendLog left e' = .error f' left
    unfold appendLog
    rw [hw]
    exact Files.appendMaking_again ha _
  · show ∃ f', b.truncateLog left = .error f'
    unfold truncateLog
    rw [hw]
    exact (Files.truncate_of_error ha).2

end

/-! ## One call -/

section
variable {s : Buffer × Files} {c : Call}

/-- A call that fails stops short of every change, unless it is an append to the log, which may
leave directories. -/
theorem perform_of_isVain (h : (c.reply s).isVain = true) : c.perform s = s ∨
    ∃ e f left, s.1.appendLog s.2 e = .error f left ∧ c.perform s = (s.1, left) := by
  cases c with
  | add e =>
    rcases add_outcomes s.1 e s.2 with ⟨-, hs⟩ | ⟨f, left, hf, -, hs⟩ | ⟨files', -, ha, -⟩
    · exact Or.inl hs
    · exact Or.inr ⟨_, f, left, hf, hs⟩
    · rw [Call.reply, ha] at h
      cases h
  | flush reply =>
    left
    rcases flush_outcomes s.1 reply s.2 with ⟨-, hs⟩ | ⟨-, -, hs⟩ | ⟨hn, -, files', -, ha, -⟩
    · exact hs
    · exact hs
    · have hbatch : s.1.batch? = some s.1.entries := by
        unfold batch?
        rw [if_neg (by simpa using hn)]
      rw [Call.reply, ha, hbatch] at h
      cases h

theorem spares_perform (h : (c.reply s).isVain = true) : Spares s (c.perform s) := by
  rcases perform_of_isVain h with hs | ⟨e, f, left, hf, hs⟩
  · rw [hs]
    exact spares_refl s
  · rw [hs]
    exact spares_of_error hf

/-- A write is accepted and held, or nothing happens, unless directories have been made for the log
in vain. -/
theorem accepted?_add (s : Buffer × Files) (e : Entry) :
    (((Call.add e).reply s).accepted? = none ∧
      ∃ left, s.1.IsLeft (s.1.stamp e) s.2 left ∧ (Call.add e).perform s = (s.1, left)) ∨
    ∃ files', ((Call.add e).reply s).accepted? = some (s.1.stamp e) ∧
      s.1.appendLog s.2 (s.1.stamp e) = .ok files' ∧
      (Call.add e).perform s = (s.1.hold (s.1.stamp e), files') := by
  rw [Call.reply, Call.perform]
  rcases add_cases s.1 e s.2 with ⟨ha, hs⟩ | ⟨files', hf, ha, hs⟩
  · refine Or.inl ⟨?_, hs⟩
    cases h : (s.1.add e s.2).answer with
    | error f => rfl
    | ok taken =>
      cases taken with
      | true => exact absurd h ha
      | false => rfl
  · rw [ha]
    exact Or.inr ⟨files', rfl, hf, hs⟩

/-- The sink is not asked to take nothing. -/
theorem reply_flush_of_nil (h : s.1.entries = []) (reply : List Entry → Except Error Unit) :
    (Call.flush reply).reply s = .flushed none (.ok 0) := by
  have hbatch : s.1.batch? = none := by
    unfold batch?
    rw [h]
    rfl
  unfold Call.reply flush
  rw [hbatch]

/-- While the log is stuck, nothing comes of any call. -/
theorem vain_of_isStuck (h : IsStuck s) (c : Call) :
    (c.reply s).isVain = true ∧ c.perform s = s := by
  cases c with
  | add e =>
    rw [Call.reply, Call.perform]
    rcases add_outcomes s.1 e s.2 with ⟨ha, hs⟩ | ⟨f, left, hf, ha, hs⟩ | ⟨files', hf, -, -⟩
    · rw [ha, hs]
      exact ⟨rfl, rfl⟩
    · obtain ⟨f', hf'⟩ := h.append (s.1.stamp e)
      cases hf'.symm.trans hf
      rw [ha, hs]
      exact ⟨rfl, rfl⟩
    · obtain ⟨f', hf'⟩ := h.append (s.1.stamp e)
      cases hf'.symm.trans hf
  | flush reply =>
    rcases flush_outcomes s.1 reply s.2 with
      ⟨⟨f, ha⟩, hs⟩ | ⟨hn, -, hs⟩ | ⟨-, -, files', hf, -, -⟩
    · rw [Call.reply, Call.perform, ha]
      exact ⟨by cases s.1.batch? <;> rfl, hs⟩
    · rw [reply_flush_of_nil hn]
      exact ⟨rfl, hs⟩
    · obtain ⟨f', hf'⟩ := h.truncate
      cases hf'.symm.trans hf

end

/-! ## Runs -/

theorem accepted_cons (s : Buffer × Files) (c : Call) (calls : List Call) :
    accepted s (c :: calls) = (c.reply s).accepted?.toList ++ accepted (c.perform s) calls := by
  unfold accepted
  rw [transcript, List.filterMap_cons]
  cases (c.reply s).accepted? <;> rfl

theorem kept_cons_of_isVain {s : Buffer × Files} {c : Call} (h : (c.reply s).isVain = true)
    (calls : List Call) : kept s (c :: calls) = kept (c.perform s) calls := by
  unfold kept
  rw [transcript, List.filter_cons, h]
  rfl

theorem kept_cons_of_not_isVain {s : Buffer × Files} {c : Call}
    (h : (c.reply s).isVain = false) (calls : List Call) :
    kept s (c :: calls) = (c, c.reply s) :: kept (c.perform s) calls := by
  unfold kept
  rw [transcript, List.filter_cons, h]
  rfl

theorem run_of_isStuck {s : Buffer × Files} (h : IsStuck s) (calls : List Call) :
    kept s calls = [] ∧ run s calls = s := by
  induction calls with
  | nil => exact ⟨rfl, rfl⟩
  | cons c calls ih =>
    obtain ⟨hv, hs⟩ := vain_of_isStuck h c
    rw [kept_cons_of_isVain hv, run_cons, hs]
    exact ih

/-- The next number is the one after those of the accepted writes. -/
theorem nextSeq_run (s : Buffer × Files) (calls : List Call) :
    (run s calls).1.nextSeq = (accepted s calls).foldl seqAfter s.1.nextSeq := by
  induction calls generalizing s with
  | nil => rfl
  | cons c calls ih =>
    rw [run_cons, ih, accepted_cons, List.foldl_append]
    congr 1
    cases c with
    | add e =>
      rcases accepted?_add s e with ⟨hn, left, -, hs⟩ | ⟨files', ha, -, hs⟩
      · rw [hn, hs]
        rfl
      · rw [ha, hs]
        rfl
    | flush reply =>
      rw [Call.perform]
      rcases flush_cases s.1 reply s.2 with hs | ⟨-, files', -, hs⟩
      · rw [hs]
        rfl
      · rw [hs]
        rfl

/-- Without the calls that are in vain the others come to the same. -/
theorem transcript_kept (s : Buffer × Files) (calls : List Call) :
    transcript s ((kept s calls).map Prod.fst) = kept s calls ∧
      Spares (run s ((kept s calls).map Prod.fst)) (run s calls) := by
  induction calls generalizing s with
  | nil => exact ⟨rfl, spares_refl s⟩
  | cons c calls ih =>
    cases hv : (c.reply s).isVain with
    | true =>
      rw [kept_cons_of_isVain hv, run_cons]
      rcases perform_of_isVain hv with hs | ⟨e, f, left, hf, hs⟩
      · rw [hs]
        exact ih s
      · -- nothing comes of the calls after a failed append either
        obtain ⟨hkept, hrun⟩ := run_of_isStuck (isStuck_of_error hf) calls
        rw [hs, hkept, hrun]
        exact ⟨rfl, spares_of_error hf⟩
    | false =>
      obtain ⟨hrest, hrun⟩ := ih (c.perform s)
      rw [kept_cons_of_not_isVain hv, List.map_cons, transcript, run_cons, run_cons, hrest]
      exact ⟨rfl, hrun⟩

end Failsafe.Buffer
