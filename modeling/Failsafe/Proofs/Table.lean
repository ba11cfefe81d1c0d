import Mathlib.Logic.Function.Basic
import Failsafe.Proofs.Upsert
/-
  Tables of entries: what a database holds that keeps, for each key, the entry written last.

  Writing a list is writing its entries one after the other, so the table written from nothing is
  the last-write-wins fold of the list. Writing a list again changes nothing (`write_write_self`),
  and an entry put in the place of the one with its key is written last (`write_upsert`).
-/

namespace Failsafe

/-- What a database holds: by key, the entry that was written last. -/
abbrev Table := String → Option Entry

namespace Table

/-- Nothing has been written. -/
def empty : Table := fun _ => none

/-- One entry is written. -/
def put (t : Table) (e : Entry) : Table := Function.update t e.key (some e)

/-- Entries are written one after the other. -/
def write (t : Table) (l : List Entry) : Table := l.foldl put t

theorem write_cons (t : Table) (e : Entry) (l : List Entry) :
    t.write (e :: l) = (t.put e).write l := rfl

theorem write_concat (t : Table) (l : List Entry) (e : Entry) :
    t.write (l ++ [e]) = (t.write l).put e := List.foldl_append

/-- Of two entries with one key the later stands. -/
theorem put_put_of_eq (t : Table) {e e' : Entry} (h : e.key = e'.key) :
    (t.put e).put e' = t.put e' := by
  unfold put
  rw [h, Function.update_idem]

theorem put_comm (t : Table) {e e' : Entry} (h : e.key ≠ e'.key) :
    (t.put e).put e' = (t.put e').put e := Function.update_comm h _ _ t

/-- A write changes nothing just where the table has it already. -/
theorem put_eq_self_iff {t : Table} {e : Entry} : t.put e = t ↔ t e.key = some e :=
  Function.update_eq_self_iff.trans eq_comm

theorem put_eq_put_iff {t : Table} {e e' : Entry} (h : e'.key = e.key) :
    t.put e' = t.put e ↔ e' = e := by
  constructor
  · intro he
    have hk := congrFun he e.key
    unfold put at hk
    rw [h, Function.update_self, Function.update_self] at hk
    exact Option.some.inj hk
  · intro he
    rw [he]

/-- A write with a key that does not occur later may as well be the last one. -/
theorem write_put {e : Entry} {l : List Entry} (h : e.key ∉ l.map Entry.key) (t : Table) :
    (t.put e).write l = (t.write l).put e := by
  induction l generalizing t with
  | nil => rfl
  | cons held rest ih =>
    rw [List.map_cons, List.mem_cons, not_or] at h
    rw [write_cons, write_cons, put_comm t h.1, ih h.2]

/-- What is written under a key does not depend on what was there before. -/
theorem write_congr {t t' : Table} {l : List Entry} {key : String}
    (h : key ∈ l.map Entry.key ∨ t key = t' key) : t.write l key = t'.write l key := by
  induction l generalizing t t' with
  | nil => exact h.resolve_left (List.not_mem_nil)
  | cons e rest ih =>
    rw [write_cons, write_cons]
    apply ih
    by_cases hk : key = e.key
    · right
      unfold put
      rw [hk, Function.update_self, Function.update_self]
    · rcases h with h | h
      · exact Or.inl ((List.mem_cons.mp h).resolve_left hk)
      · right
        unfold put
        rw [Function.update_of_ne hk, Function.update_of_ne hk, h]

theorem write_of_not_mem (t : Table) {l : List Entry} {key : String}
    (h : key ∉ l.map Entry.key) : t.write l key = t key := by
  induction l generalizing t with
  | nil => rfl
  | cons e rest ih =>
    rw [List.map_cons, List.mem_cons, not_or] at h
    rw [write_cons, ih _ h.2]
    exact Function.update_of_ne h.1 _ t

/-- A batch that is handed over again changes nothing. -/
theorem write_write_self (t : Table) (l : List Entry) : (t.write l).write l = t.write l := by
  funext key
  by_cases h : key ∈ l.map Entry.key
  · exact write_congr (Or.inl h)
  · exact write_of_not_mem _ h

/-- An entry that takes the place of the one with its key is written last. -/
theorem write_upsert {l : List Entry} (h : (l.map Entry.key).Nodup) (t : Table) (e : Entry) :
    t.write (Entry.upsert e l) = (t.write l).put e := by
  induction l generalizing t with
  | nil => rfl
  | cons held rest ih =>
    rw [List.map_cons, List.nodup_cons] at h
    rw [Entry.upsert]
    split
    · next hk =>
      rw [hk] at h
      rw [write_cons, write_cons, ← write_put h.1, put_put_of_eq t hk]
    · rw [write_cons, write_cons]
      exact ih h.2 _

end Table

end Failsafe
