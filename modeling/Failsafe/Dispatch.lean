import Failsafe.Surroundings
/-
  Dispatching: the bus hands its events to the subscribers.

  A subscriber acts in some monad and may publish, subscribe and log while it has an event;
  `Surroundings.dispatch` makes one small step at a time, `Surroundings.settle` steps until
  there is nothing more to do.
-/

namespace Failsafe

/-- What a subscriber does with an event. -/
inductive Reaction where
  | handled (h : Handling)
  /-- it brings the dispatcher down -/
  | fatal (reason : String)
deriving DecidableEq, Repr

namespace Surroundings

variable {η : Type} {m : Type → Type} [Monad m]

/-- How subscribers act on events. -/
abbrev Act (η : Type) (m : Type → Type) :=
  Subscriber η → Event → StateT (Surroundings η) m Reaction

/-- The dispatcher's next small step; the answer is `false` if there is none. -/
def dispatch (act : Act η m) : StateT (Surroundings η) m Bool := do
  match (← get).bus? with
  | none => pure false
  | some bus =>
    match bus.delivery? with
    | none =>
      match bus.take? with
      | none => pure false
      | some bus =>
        modify fun s => { s with bus? := some bus }
        pure true
    | some ⟨_, []⟩ =>
      modify (onBus Bus.delivered)
      pure true
    | some ⟨e, subscriber :: _⟩ =>
      match ← act subscriber e with
      | .handled h => modify (onBus (Bus.handled h))
      | .fatal reason => modify (onBus fun bus => (bus.crash reason, []))
      pure true

/-- Lets the dispatcher work until it has nothing more to do, for at most `fuel` steps. -/
def settle (act : Act η m) : Nat → StateT (Surroundings η) m Unit
  | 0 => pure ()
  | fuel + 1 => do
    if ← dispatch act then settle act fuel

end Surroundings

end Failsafe
