import Failsafe.Breaker
import Failsafe.Recovery
/-
  Reading events back.

  A detail of an event is found again under its key, whatever else is noted (`text?_note_self`,
  `text?_note_of_ne`). Modes, stages, levels and runs are noted by their names, and no two of a
  kind share one, so that `Event.named?` and `Event.run?` give back what was noted.
-/

namespace Failsafe

namespace Json.Members

theorem get?_insert_self (k : String) (v : Value) (ms : Members) :
    (ms.insert k v).get? k = some v := by
  induction ms with
  | nil => simp [insert, get?]
  | cons m rest ih =>
    obtain ⟨k', v'⟩ := m
    rw [insert]
    split
    · simp [get?]
    split
    · simp [get?]
    · next hne =>
      rw [get?, if_neg hne]
      exact ih

theorem get?_insert_of_ne {k k' : String} (h : k' ≠ k) (v : Value) (ms : Members) :
    (ms.insert k v).get? k' = ms.get? k' := by
  induction ms with
  | nil => simp [insert, get?, h]
  | cons m rest ih =>
    obtain ⟨l, w⟩ := m
    rw [insert]
    split
    · rw [get?, if_neg h]
    split
    · next heq =>
      subst heq
      rw [get?, if_neg h, get?, if_neg h]
    · rw [get?, get?, ih]

end Json.Members

/-! ## Details -/

namespace Event

/-- The detail with a key, if it is a string. -/
def text? (e : Event) (key : String) : Option String :=
  match e.details.get? key with
  | some (.str s) => some s
  | _ => none

/-- What the detail with a key names, if it is a name in the table. -/
def named? (e : Event) (key : String) (table : List (String × α)) : Option α :=
  (e.text? key).bind fun text => table.lookup text

section
variable (e : Event)

@[simp] theorem text?_note_self (key text : String) : (e.note key text).text? key = some text := by
  unfold text? note detail
  rw [Json.Members.get?_insert_self]

theorem text?_detail_of_ne {key key' : String} (h : key' ≠ key) (value : Json.Value) :
    (e.detail key value).text? key' = e.text? key' := by
  unfold text? detail
  rw [Json.Members.get?_insert_of_ne h]

theorem text?_note_of_ne {key key' : String} (h : key' ≠ key) (text : String) :
    (e.note key text).text? key' = e.text? key' := e.text?_detail_of_ne h _

theorem named?_eq_some {key text : String} {table : List (String × α)} {a : α}
    (ht : e.text? key = some text) (ha : table.lookup text = some a) :
    e.named? key table = some a := by
  rw [named?, ht]
  exact ha

end

end Event

/-! ## Names -/

theorem Mode.lookup_name (m : Mode) : table.lookup m.name = some m := by
  cases m <;> decide

theorem Stage.lookup_name (s : Stage) : table.lookup s.name = some s := by
  cases s <;> decide

theorem Reason.lookup_name (r : Reason) : table.lookup r.name = some r := by
  cases r <;> decide

theorem EventKind.lookup_name (k : EventKind) : table.lookup k.name = some k := by
  cases k <;> decide

theorem Source.lookup_name (s : Source) : table.lookup s.name = some s := by
  cases s <;> decide

theorem Severity.lookup_name (s : Severity) : table.lookup s.name = some s := by
  cases s <;> decide

/-- The levels by their displayed forms. -/
def Level.texts : List (String × Level) := all.map fun l => (l.text, l)

theorem Level.lookup_text (l : Level) : texts.lookup l.text = some l := by
  cases l <;> decide

/-- The dependency that events of a source are about. -/
def Dependency.ofSource? (s : Source) : Option Dependency := all.find? fun d => d.source = s

theorem Dependency.ofSource?_source (d : Dependency) : ofSource? d.source = some d := by
  cases d <;> decide

namespace RunId

/-- The run with a name. -/
def ofName (text : String) : RunId :=
  if text = nil.name then nil else ⟨Nat.ofDigitChars 10 (text.toList.drop 3) 0⟩

theorem ofName_name (id : RunId) : ofName id.name = id := by
  obtain ⟨n⟩ := id
  by_cases hn : n = 0
  · subst hn
    exact if_pos rfl
  · have hname : name ⟨n⟩ = "run" ++ toString n := if_neg hn
    have hchars : (name ⟨n⟩).toList = 'r' :: 'u' :: 'n' :: Nat.toDigits 10 n := by
      rw [hname, Nat.toString_eq_repr, Nat.repr_eq_ofList_toDigits]
      simp
    have hne : name ⟨n⟩ ≠ nil.name := by
      intro h
      rw [h] at hchars
      simp [nil, name] at hchars
    rw [ofName, if_neg hne, hchars]
    exact congrArg mk Nat.ofDigitChars_ten_toDigits

end RunId

/-- The run that an event is about. -/
def Event.run? (e : Event) : Option RunId := (e.text? "run_id").map RunId.ofName

theorem Event.run?_eq_some {e : Event} {id : RunId} (h : e.text? "run_id" = some id.name) :
    e.run? = some id := by
  rw [run?, h, Option.map_some, RunId.ofName_name]

end Failsafe
