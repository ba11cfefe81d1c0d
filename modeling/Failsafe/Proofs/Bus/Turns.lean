import Failsafe.Bus
/-
  What happens to a bus, one turn after the other.

  Publishers, subscribers, those who start and stop the bus and the dispatcher take their turns in
  any order. A call to start or stop the bus waits while another one stops it, and has its turn
  when it gets its way. A turn that nobody can take changes nothing: the dispatcher takes an event
  only while it runs and is at none, and a subscriber answers only for an event that it was handed.
  The lemmas here say what each turn does to the parts of the bus.
-/

namespace Failsafe.Bus

variable {η : Type}

/-- One turn of those who use the bus, or of its dispatcher. -/
inductive Turn (η : Type) where
  | publish (now : Moment) (e : Event) (files : Files)
  | subscribe (s : Subscriber η)
  | start
  | stop
  /-- the dispatcher takes the next event -/
  | take
  /-- the next subscriber has had the event -/
  | handle (h : Handling)
  /-- the dispatcher is through with the event -/
  | finish

namespace Turn

/-- An event is published, or dropped. -/
def isPublish : Turn η → Bool
  | publish .. => true
  | _ => false

/-- The bus after a turn. -/
def perform (b : Bus η) : Turn η → Bus η
  | publish now e files => (b.publish now e files).bus
  | subscribe s => (b.subscribe s).1
  | start => b.start.1
  | stop => b.stop.1
  | take => b.take?.getD b
  | handle h => (b.handled h).1
  | finish => b.delivered.1

end Turn

variable (b : Bus η)

/-! ## Publishing -/

/-- Nobody has lost the dispatcher, so the queue takes events. -/
theorem publish_cases (now : Moment) (e : Event) (files : Files) (ho : b.isOpen = true) :
    (b.pending < b.capacity ∧ (b.publish now e files).accepted = true ∧
      (b.publish now e files).bus = { b with
        queue := b.queue ++ [e]
        stats := { b.stats with published := b.stats.published + 1 } }) ∨
    (b.capacity ≤ b.pending ∧ (b.publish now e files).accepted = false ∧
      (b.publish now e files).bus
        = { b with stats := { b.stats with dropped := b.stats.dropped + 1 } }) := by
  unfold publish
  rw [ho, Bool.true_and]
  split
  · next h => exact Or.inl ⟨of_decide_eq_true h, rfl, rfl⟩
  · next h =>
    rw [decide_eq_true_iff, Nat.not_lt] at h
    exact Or.inr ⟨h, rfl, rfl⟩

/-! ## Starting and stopping -/

/-- Starting and stopping only concern the dispatcher, and lose none that is not lost. -/
theorem start_cases (ho : b.isOpen = true) :
    ∃ d, b.start.1 = { b with dispatcher := d } ∧ b.start.1.isOpen = true := by
  unfold start
  split
  · exact ⟨.running, rfl, rfl⟩
  · exact ⟨b.dispatcher, rfl, ho⟩
  · exact ⟨b.dispatcher, rfl, ho⟩

theorem stop_cases (ho : b.isOpen = true) :
    ∃ d, b.stop.1 = { b with dispatcher := d } ∧ b.stop.1.isOpen = true := by
  unfold stop
  split
  · split
    · exact ⟨.stopping, rfl, rfl⟩
    · exact ⟨.idle, rfl, rfl⟩
  · next h =>
    unfold isOpen at ho
    simp [h] at ho
  · exact ⟨b.dispatcher, rfl, ho⟩

/-! ## Dispatching -/

/-- An event is taken only when no other is being delivered, and for all subscribers. -/
theorem take?_eq_some {b' : Bus η} (h : b.take? = some b') :
    b.delivery? = none ∧ ∃ e rest, b.queue = e :: rest ∧
      b' = { b with queue := rest, delivery? := some ⟨e, b.subscribers⟩ } := by
  unfold take? at h
  split at h
  · next e rest _ hd hq =>
    exact ⟨hd, e, rest, hq, (Option.some.inj h).symm⟩
  · cases h

/-- Without anyone waiting for an event, nothing happens; otherwise the next one waits for it no
longer, and a failure is counted. -/
theorem handled_cases (h : Handling) :
    (b.next? = none ∧ (b.handled h).1 = b) ∨
    ∃ e s rest, b.delivery? = some ⟨e, s :: rest⟩ ∧ b.next? = some (e, s) ∧
      (b.handled h).1 = { b with
        delivery? := some ⟨e, rest⟩
        stats := { b.stats with failures := b.stats.failures + if h = .ok then 0 else 1 } } := by
  unfold next? handled
  split
  · next e s rest hd =>
    refine Or.inr ⟨e, s, rest, hd, rfl, ?_⟩
    cases h <;> rfl
  · exact Or.inl ⟨rfl, rfl⟩

/-- The dispatcher is through with an event once nobody waits for it; otherwise nothing
happens. -/
theorem delivered_cases (ho : b.isOpen = true) :
    b.delivered.1 = b ∨
    ∃ e d, b.delivery? = some ⟨e, []⟩ ∧ b.delivered.1.isOpen = true ∧
      b.delivered.1 = { b with
        dispatcher := d
        delivery? := none
        stats := { b.stats with delivered := b.stats.delivered + 1 } } := by
  unfold delivered
  split
  · next e hd =>
    right
    dsimp only
    split
    · exact ⟨e, .idle, hd, rfl, rfl⟩
    · exact ⟨e, b.dispatcher, hd, ho, rfl⟩
  · exact Or.inl rfl

/-! ## All turns -/

theorem config_publish (now : Moment) (e : Event) (files : Files) :
    (b.publish now e files).bus.config = b.config := by
  unfold publish
  split <;> rfl

theorem config_start : b.start.1.config = b.config := by
  unfold start
  split <;> rfl

theorem config_stop : b.stop.1.config = b.config := by
  unfold stop
  split
  · split <;> rfl
  · rfl
  · rfl

theorem config_take : (b.take?.getD b).config = b.config := by
  cases h : b.take? with
  | none => rfl
  | some taken =>
    obtain ⟨-, e, rest, -, rfl⟩ := b.take?_eq_some h
    rfl

theorem config_handled (h : Handling) : (b.handled h).1.config = b.config := by
  rcases b.handled_cases h with ⟨-, hb⟩ | ⟨e, s, rest, -, -, hb⟩ <;> rw [hb]

theorem config_delivered : b.delivered.1.config = b.config := by
  unfold delivered
  split
  · dsimp only
    split <;> rfl
  · rfl

/-- The configuration stays. -/
theorem config_perform (t : Turn η) : (t.perform b).config = b.config := by
  cases t with
  | publish now e files => exact b.config_publish now e files
  | subscribe s => rfl
  | start => exact b.config_start
  | stop => exact b.config_stop
  | take => exact b.config_take
  | handle h => exact b.config_handled h
  | finish => exact b.config_delivered

/-- An event that is published is counted as published or as dropped; nothing else is. -/
theorem counted_perform (ho : b.isOpen = true) (t : Turn η) :
    (t.perform b).stats.published + (t.perform b).stats.dropped
      = b.stats.published + b.stats.dropped + if t.isPublish then 1 else 0 := by
  cases t with
  | publish now e files =>
    rw [Turn.perform, Turn.isPublish, if_pos rfl]
    rcases b.publish_cases now e files ho with ⟨-, -, hb⟩ | ⟨-, -, hb⟩
    · rw [hb]
      exact Nat.add_right_comm ..
    · rw [hb]
      rfl
  | subscribe s => rfl
  | start =>
    obtain ⟨d, hb, -⟩ := b.start_cases ho
    rw [Turn.perform, hb]
    rfl
  | stop =>
    obtain ⟨d, hb, -⟩ := b.stop_cases ho
    rw [Turn.perform, hb]
    rfl
  | take =>
    rw [Turn.perform]
    cases ht : b.take? with
    | none => rfl
    | some b' =>
      obtain ⟨-, e, rest, -, rfl⟩ := b.take?_eq_some ht
      rfl
  | handle h =>
    rw [Turn.perform]
    rcases b.handled_cases h with ⟨-, hb⟩ | ⟨e, s, rest, -, -, hb⟩ <;> rw [hb] <;> rfl
  | finish =>
    rw [Turn.perform]
    rcases b.delivered_cases ho with hb | ⟨e, d, -, -, hb⟩ <;> rw [hb] <;> rfl

end Failsafe.Bus
