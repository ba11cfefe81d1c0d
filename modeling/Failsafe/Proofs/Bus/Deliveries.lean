import Failsafe.Proofs.Bus.Turns
/-
  Every subscriber has every event once, in order, from the moment it subscribes.

  A ledger goes along with a bus and notes what happens to it: which events were accepted, whose
  delivery has begun, how many deliveries had begun when each subscriber came, and who has had
  which event. It is kept up turn by turn (`Ledger.note`) and never asked by the bus. What has
  been accepted is what was taken from the queue and what still waits in it; what a subscriber has
  had, and what it still waits for, are the events whose delivery began after it came
  (`Ledger.isKept_note`). So nothing is lost, doubled or reordered, whoever fails and however
  often the bus is stopped (`conserved_run`).
-/

namespace Failsafe.Bus

/-- An event that a subscriber has had. -/
structure Handing (η : Type) where
  /-- how many had had the event before -/
  seat : Nat
  subscriber : Subscriber η
  event : Event
  how : Handling

/-- The events that the subscriber in a seat has had. -/
def Handing.received {η : Type} (handed : List (Handing η)) (seat : Nat) : List Event :=
  (handed.filter fun x => x.seat = seat).map Handing.event

/-- A bus, and what has happened to it. -/
structure Ledger (η : Type) where
  bus : Bus η
  /-- the events that were accepted -/
  accepted : List Event
  /-- the events whose delivery has begun -/
  begun : List Event
  /-- the subscribers, each with the number of deliveries that had begun when it came -/
  joined : List (Subscriber η × Nat)
  /-- how many have had the event that is being delivered -/
  served : Nat
  handed : List (Handing η)

theorem Handing.received_append {η : Type} (handed : List (Handing η)) (x : Handing η)
    (seat : Nat) :
    Handing.received (handed ++ [x]) seat
      = Handing.received handed seat ++ if x.seat = seat then [x.event] else [] := by
  unfold Handing.received
  rw [List.filter_append, List.map_append]
  by_cases hx : x.seat = seat <;> simp [hx]

namespace Ledger

variable {η : Type}

/-- The ledger of a new bus. -/
def new (config : BusConfig) (emergency : Option (Event → Alarm)) : Ledger η :=
  { bus := .new config emergency, accepted := [], begun := [], joined := [], served := 0
    handed := [] }

/-- The ledger after a turn. -/
def note (l : Ledger η) (t : Turn η) : Ledger η :=
  let l' := { l with bus := t.perform l.bus }
  match t with
  | .publish now e files =>
    if (l.bus.publish now e files).accepted then { l' with accepted := l.accepted ++ [e] } else l'
  | .subscribe s => { l' with joined := l.joined ++ [(s, l.begun.length)] }
  | .take =>
    match l.bus.take?.bind Bus.delivery? with
    | some d => { l' with begun := l.begun ++ [d.event], served := 0 }
    | none => l'
  | .handle how =>
    match l.bus.next? with
    | some (event, subscriber) =>
      { l' with
        handed := l.handed ++ [{ seat := l.served, subscriber, event, how }]
        served := l.served + 1 }
    | none => l'
  | .start | .stop | .finish => l'

/-- The ledger after some turns. -/
def follow (l : Ledger η) (turns : List (Turn η)) : Ledger η := turns.foldl note l

/-- The event that is being delivered, as long as the subscriber in a seat still waits for it. -/
def awaited (l : Ledger η) (seat : Nat) : List Event :=
  match l.bus.delivery? with
  | some d => if l.served ≤ seat ∧ seat < l.served + d.waiting.length then [d.event] else []
  | none => []

/-- The bus is as the ledger says. -/
structure IsKept (l : Ledger η) : Prop where
  isOpen : l.bus.isOpen = true
  room : l.bus.pending ≤ l.bus.capacity
  accepted : l.accepted = l.begun ++ l.bus.queue
  published : l.bus.stats.published = l.accepted.length
  begun : l.begun.length = l.bus.stats.delivered + l.bus.delivery?.toList.length
  failures : l.bus.stats.failures = l.handed.countP fun h => h.how ≠ .ok
  subscribers : l.joined.map Prod.fst = l.bus.subscribers
  /-- who waits for the event came before its delivery began, and comes next -/
  waiting : ∀ d, l.bus.delivery? = some d →
    ∃ late, l.bus.subscribers.drop l.served = d.waiting ++ late
  /-- nobody came after more deliveries than there were -/
  joined : ∀ x ∈ l.joined, x.2 ≤ l.begun.length
  /-- an event goes to the subscriber in the seat -/
  seated : ∀ h ∈ l.handed, (l.joined.map Prod.fst)[h.seat]? = some h.subscriber
  received : ∀ (seat : Nat) (x : Subscriber η × Nat), l.joined[seat]? = some x →
    Handing.received l.handed seat ++ l.awaited seat = l.begun.drop x.2

/-! ## One turn -/

section
variable {l : Ledger η}

theorem isKept_new (config : BusConfig) (emergency : Option (Event → Alarm)) :
    (new config emergency : Ledger η).IsKept where
  isOpen := rfl
  room := Nat.zero_le _
  accepted := rfl
  published := rfl
  begun := rfl
  failures := rfl
  subscribers := rfl
  waiting d hd := by cases hd
  joined x hx := by cases hx
  seated h hh := by cases hh
  received seat x hx := by simp [new] at hx

theorem isKept_publish (h : l.IsKept) (now : Moment) (e : Event) (files : Files) :
    (l.note (.publish now e files)).IsKept := by
  unfold note Turn.perform
  dsimp only
  rcases l.bus.publish_cases now e files h.isOpen with ⟨hroom, ha, hb⟩ | ⟨-, ha, hb⟩
  · rw [ha, if_pos rfl, hb]
    exact
      { h with
        room := by
          show (l.bus.queue ++ [e]).length ≤ l.bus.capacity
          rw [List.length_append]
          exact hroom
        accepted := by
          show l.accepted ++ [e] = l.begun ++ (l.bus.queue ++ [e])
          rw [h.accepted, List.append_assoc]
        published := by
          show l.bus.stats.published + 1 = (l.accepted ++ [e]).length
          rw [List.length_append, h.published]
          rfl }
  · rw [ha, if_neg Bool.false_ne_true, hb]
    exact { h with }

/-- Nobody has had an event in a seat that is not taken yet. -/
theorem received_of_free (h : l.IsKept) {seat : Nat} (hs : l.joined.length ≤ seat) :
    Handing.received l.handed seat = [] := by
  have hnone : (l.handed.filter fun x => x.seat = seat) = [] := by
    rw [List.filter_eq_nil_iff]
    intro x hx hseat
    have hseated := h.seated x hx
    rw [of_decide_eq_true hseat, List.getElem?_eq_none] at hseated
    · cases hseated
    · rwa [List.length_map]
  rw [Handing.received, hnone]
  rfl

/-- Nobody in such a seat waits for an event either. -/
theorem awaited_of_free (h : l.IsKept) {seat : Nat} (hs : l.joined.length ≤ seat) :
    l.awaited seat = [] := by
  unfold awaited
  split
  · next d hd =>
    obtain ⟨late, hlate⟩ := h.waiting d hd
    have hlength := congrArg List.length hlate
    have hseats := congrArg List.length h.subscribers
    rw [List.length_drop, List.length_append] at hlength
    rw [List.length_map] at hseats
    rw [if_neg (by omega)]
  · rfl

theorem isKept_subscribe (h : l.IsKept) (s : Subscriber η) : (l.note (.subscribe s)).IsKept where
  isOpen := h.isOpen
  room := h.room
  accepted := h.accepted
  published := h.published
  begun := h.begun
  failures := h.failures
  subscribers := by
    show (l.joined ++ [(s, l.begun.length)]).map Prod.fst = l.bus.subscribers ++ [s]
    rw [List.map_append, h.subscribers]
    rfl
  waiting d hd := by
    obtain ⟨late, hlate⟩ := h.waiting d hd
    refine ⟨late ++ [s].drop (l.served - l.bus.subscribers.length), ?_⟩
    show (l.bus.subscribers ++ [s]).drop l.served = _
    rw [List.drop_append, hlate, List.append_assoc]
  joined x hx := by
    rcases List.mem_append.mp hx with hx | hx
    · exact h.joined x hx
    · rw [List.mem_singleton.mp hx]
      exact Nat.le_refl _
  seated x hx := by
    show ((l.joined ++ [(s, l.begun.length)]).map Prod.fst)[x.seat]? = _
    rw [List.map_append, List.getElem?_append_left]
    · exact h.seated x hx
    · exact (List.getElem?_eq_some_iff.mp (h.seated x hx)).1
  received seat x hx := by
    change (l.joined ++ [(s, l.begun.length)])[seat]? = some x at hx
    show Handing.received l.handed seat ++ l.awaited seat = l.begun.drop x.2
    rcases Nat.lt_or_ge seat l.joined.length with hseat | hseat
    · rw [List.getElem?_append_left hseat] at hx
      exact h.received seat x hx
    · -- the new seat: nothing has begun since
      rw [received_of_free h hseat, awaited_of_free h hseat]
      rw [List.getElem?_append_right hseat] at hx
      obtain rfl := List.mem_singleton.mp (List.mem_of_getElem? hx)
      rw [List.drop_length]
      rfl

theorem isKept_take (h : l.IsKept) : (l.note .take).IsKept := by
  unfold note Turn.perform
  dsimp only
  cases ht : l.bus.take? with
  | none => exact { h with }
  | some b =>
    obtain ⟨hd, e, rest, hq, rfl⟩ := l.bus.take?_eq_some ht
    have hroom := h.room
    have hbegun := h.begun
    rw [pending, hq] at hroom
    rw [hd] at hbegun
    exact
      { h with
        isOpen := h.isOpen
        room := Nat.le_of_succ_le hroom
        accepted := by
          show l.accepted = l.begun ++ [e] ++ rest
          rw [h.accepted, hq, List.append_assoc]
          rfl
        begun := by
          show (l.begun ++ [e]).length = l.bus.stats.delivered + 1
          rw [List.length_append, hbegun]
          rfl
        waiting := by
          intro d hd
          cases hd
          exact ⟨[], by simp⟩
        joined := by
          intro x hx
          show x.2 ≤ (l.begun ++ [e]).length
          rw [List.length_append]
          exact Nat.le_succ_of_le (h.joined x hx)
        received := by
          intro seat x hx
          have hold := h.received seat x hx
          have hseat : seat < l.bus.subscribers.length := by
            rw [← h.subscribers, List.length_map]
            exact (List.getElem?_eq_some_iff.mp hx).1
          have hnone : l.awaited seat = [] := by rw [awaited, hd]
          rw [hnone, List.append_nil] at hold
          show Handing.received l.handed seat
              ++ (if 0 ≤ seat ∧ seat < 0 + l.bus.subscribers.length then [e] else [])
            = (l.begun ++ [e]).drop x.2
          rw [if_pos (by omega), hold,
            List.drop_append_of_le_length (h.joined x (List.mem_of_getElem? hx))] }

theorem isKept_handle (h : l.IsKept) (how : Handling) : (l.note (.handle how)).IsKept := by
  unfold note Turn.perform
  dsimp only
  rcases l.bus.handled_cases how with ⟨hn, hb⟩ | ⟨e, s, rest, hd, hn, hb⟩
  · rw [hn, hb]
    exact h
  · rw [hn, hb]
    have hbegun := h.begun
    obtain ⟨late, hlate⟩ := h.waiting _ hd
    have hnext : l.bus.subscribers[l.served]? = some s := by
      rw [← List.head?_drop, hlate]
      rfl
    rw [hd] at hbegun
    exact
      { h with
        isOpen := h.isOpen
        begun := hbegun
        failures := by
          show l.bus.stats.failures + _ = List.countP _ (l.handed ++ [⟨l.served, s, e, how⟩])
          rw [List.countP_append, h.failures]
          cases how <;> rfl
        waiting := by
          intro d hd
          cases hd
          refine ⟨late, ?_⟩
          show l.bus.subscribers.drop (l.served + 1) = rest ++ late
          rw [← List.tail_drop, hlate]
          rfl
        seated := by
          intro x hx
          rcases List.mem_append.mp hx with hx | hx
          · exact h.seated x hx
          · rw [List.mem_singleton.mp hx]
            show (l.joined.map Prod.fst)[l.served]? = some s
            rw [h.subscribers, hnext]
        received := by
          intro seat x hx
          have hold := h.received seat x hx
          rw [awaited, hd] at hold
          dsimp only [List.length_cons] at hold
          show Handing.received (l.handed ++ [⟨l.served, s, e, how⟩]) seat
              ++ (if l.served + 1 ≤ seat ∧ seat < l.served + 1 + rest.length then [e] else [])
            = l.begun.drop x.2
          rw [← hold, Handing.received_append, List.append_assoc]
          congr 1
          by_cases hs : l.served = seat
          · -- the one whose turn it was
            rw [if_pos hs, if_neg (by omega), if_pos (by omega)]
            rfl
          · have hlater : (l.served + 1 ≤ seat ∧ seat < l.served + 1 + rest.length)
                ↔ (l.served ≤ seat ∧ seat < l.served + (rest.length + 1)) := by omega
            rw [if_neg hs, List.nil_append]
            simp only [hlater] }

theorem isKept_finish (h : l.IsKept) : (l.note .finish).IsKept := by
  unfold note Turn.perform
  dsimp only
  rcases l.bus.delivered_cases h.isOpen with hb | ⟨e, d, hd, ho, hb⟩
  · rw [hb]
    exact h
  · have hbegun := h.begun
    rw [hd] at hbegun
    rw [hb] at ho ⊢
    exact
      { h with
        isOpen := ho
        begun := hbegun
        waiting := by
          intro d hd
          cases hd
        received := by
          intro seat x hx
          have hold := h.received seat x hx
          rw [awaited, hd] at hold
          dsimp only [List.length_nil] at hold
          rwa [if_neg (by omega)] at hold }

theorem isKept_note (h : l.IsKept) (t : Turn η) : (l.note t).IsKept := by
  cases t with
  | publish now e files => exact isKept_publish h now e files
  | subscribe s => exact isKept_subscribe h s
  | start =>
    obtain ⟨d, hb, ho⟩ := l.bus.start_cases h.isOpen
    show ({ l with bus := l.bus.start.1 } : Ledger η).IsKept
    rw [hb] at ho ⊢
    exact { h with isOpen := ho }
  | stop =>
    obtain ⟨d, hb, ho⟩ := l.bus.stop_cases h.isOpen
    show ({ l with bus := l.bus.stop.1 } : Ledger η).IsKept
    rw [hb] at ho ⊢
    exact { h with isOpen := ho }
  | take => exact isKept_take h
  | handle how => exact isKept_handle h how
  | finish => exact isKept_finish h

/-- The ledger only watches: its bus is what the turns make of it. -/
theorem bus_note (l : Ledger η) (t : Turn η) : (l.note t).bus = t.perform l.bus := by
  unfold note
  cases t with
  | publish now e files =>
    dsimp only
    split <;> rfl
  | take =>
    dsimp only
    split <;> rfl
  | handle how =>
    dsimp only
    split <;> rfl
  | _ => rfl

/-! ## Many turns -/

theorem bus_follow (l : Ledger η) (turns : List (Turn η)) :
    (l.follow turns).bus = turns.foldl Turn.perform l.bus := by
  unfold follow
  induction turns generalizing l with
  | nil => rfl
  | cons t turns ih => rw [List.foldl_cons, List.foldl_cons, ih, bus_note]

/-- The bus is as the ledger says after any turns, with its configuration, and every event that was
published is counted. -/
theorem isKept_follow (h : l.IsKept) (turns : List (Turn η)) :
    (l.follow turns).IsKept ∧ (l.follow turns).bus.config = l.bus.config ∧
      (l.follow turns).bus.stats.published + (l.follow turns).bus.stats.dropped
        = l.bus.stats.published + l.bus.stats.dropped + turns.countP Turn.isPublish := by
  induction turns generalizing l with
  | nil => exact ⟨h, rfl, rfl⟩
  | cons t turns ih =>
    have hconfig := l.bus.config_perform t
    have hcounted := l.bus.counted_perform h.isOpen t
    obtain ⟨hkept, hc, hn⟩ := ih (isKept_note h t)
    rw [bus_note] at hc hn
    refine ⟨hkept, hc.trans hconfig, ?_⟩
    rw [List.countP_cons]
    show ((l.note t).follow turns).bus.stats.published
      + ((l.note t).follow turns).bus.stats.dropped = _
    omega

/-- A bus with room for `q` events, whatever turns are taken: no more than `max q 1` events wait,
and an event is refused just when so many do. What was published has been delivered, is being
delivered or waits, and all that was ever published is counted as published or dropped. What was
accepted is what was taken, in order, and then what waits. Only subscribers have events, each in
its own seat, and each has had, or still waits for, exactly the events whose delivery began after it
came, once and in order. Failures are counted one for each event and subscriber. -/
theorem conserved_run (config : BusConfig) (emergency : Option (Event → Alarm))
    (turns : List (Turn η)) :
    let l := (new config emergency).follow turns
    let b := turns.foldl Turn.perform (Bus.new config emergency)
    l.bus = b ∧
    b.pending ≤ max config.queueSize 1 ∧
    (∀ now e files, (b.publish now e files).accepted = false ↔
      b.pending = max config.queueSize 1) ∧
    b.stats.published = b.stats.delivered + b.pending + b.delivery?.toList.length ∧
    b.stats.published + b.stats.dropped = turns.countP Turn.isPublish ∧
    b.stats.published = l.accepted.length ∧ l.accepted = l.begun ++ b.queue ∧
    (∀ h ∈ l.handed, (l.joined.map Prod.fst)[h.seat]? = some h.subscriber) ∧
    (∀ (seat : Nat) (x : Subscriber η × Nat), l.joined[seat]? = some x →
      Handing.received l.handed seat ++ l.awaited seat = l.begun.drop x.2) ∧
    b.stats.failures = l.handed.countP fun h => h.how ≠ .ok := by
  intro l b
  have hb : l.bus = b := bus_follow _ turns
  obtain ⟨hkept, hconfig, hcounted⟩ := isKept_follow (isKept_new config emergency) turns
  have hopen : b.isOpen = true := hb ▸ hkept.isOpen
  have hcapacity : b.capacity = max config.queueSize 1 := by
    rw [capacity, ← hb, hconfig]
    rfl
  have hroom : b.pending ≤ max config.queueSize 1 := by
    rw [← hcapacity, ← hb]
    exact hkept.room
  have hpublished : b.stats.published = l.accepted.length := hb ▸ hkept.published
  have haccepted : l.accepted = l.begun ++ b.queue := hb ▸ hkept.accepted
  have hbegun : l.begun.length = b.stats.delivered + b.delivery?.toList.length := hb ▸ hkept.begun
  refine ⟨hb, hroom, ?_, ?_, ?_, hpublished, haccepted, hkept.seated, hkept.received,
    hb ▸ hkept.failures⟩
  · intro now e files
    rw [← hcapacity] at hroom ⊢
    rcases b.publish_cases now e files hopen with ⟨hlt, ha, -⟩ | ⟨hle, ha, -⟩
    · rw [ha]
      exact ⟨Bool.noConfusion, fun he => absurd he (Nat.ne_of_lt hlt)⟩
    · exact ⟨fun _ => Nat.le_antisymm hroom hle, fun _ => ha⟩
  · have hlength : l.accepted.length = l.begun.length + b.pending := by
      rw [haccepted, List.length_append, pending]
    omega
  · rw [← hb]
    refine hcounted.trans ?_
    exact Nat.zero_add _

/-- With room for one event, a subscriber that fails and a bus that is stopped keep nothing from
anyone: who comes second has the second event of the two that are accepted. -/
example :
    let event (r : Reason) : Event := .health ⟨0, .epoch⟩ .broker r
    let publish (r : Reason) : Turn Unit := .publish ⟨0, .epoch⟩ (event r) .empty
    let turns := [.subscribe ⟨"first", ()⟩, publish .brokerUnstable, publish .coldStart, .start,
      .take, .subscribe ⟨"second", ()⟩, .stop, .handle .panicked, .finish,
      publish .brokerDisconnect, .take, .start, .take, .handle .ok, .handle .ok, .finish]
    let l := (new ⟨1, none, []⟩ none : Ledger Unit).follow turns
    l.bus.stats = ⟨2, 2, 1, 1⟩ ∧
      (Handing.received l.handed 0).map Event.reason = [.brokerUnstable, .brokerDisconnect] ∧
      (Handing.received l.handed 1).map Event.reason = [.brokerDisconnect] :=
  ⟨rfl, rfl, rfl⟩

end

end Ledger

end Failsafe.Bus
