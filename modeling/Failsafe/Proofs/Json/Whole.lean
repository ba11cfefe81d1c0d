import Failsafe.Proofs.Json.Numbers
import Failsafe.Proofs.Json.Strings
/-
  Values whose numbers are whole and whose keys ascend, and what their texts look like.

  The text of such a value is one line (`lineFeed_not_mem_render`).
-/

namespace Failsafe.Json

/-- A whole number that 64 bits can hold, with a sign or without. -/
def Number.isWhole : Number → Bool
  | .int n => decide (-(Width.bound 63 : Int) ≤ n ∧ n < Width.bound 64)
  | .float _ => false

/-- The keys ascend. -/
def Members.isAscending (ms : Members) : Bool := decide ((ms.map Prod.fst).Pairwise (· < ·))

mutual

/-- All numbers in the value are whole, and the keys of all its objects ascend. -/
def Value.isWhole : Value → Bool
  | .num n => n.isWhole
  | .arr items => wholeItems items
  | .obj members => Members.isAscending members && wholeMembers members
  | _ => true

/-- All numbers in the items are whole, and the keys of all objects in them ascend. -/
def wholeItems : List Value → Bool
  | [] => true
  | v :: rest => v.isWhole && wholeItems rest

/-- All numbers in the members are whole, and the keys of all objects in them ascend. -/
def wholeMembers : List (String × Value) → Bool
  | [] => true
  | (_, v) :: rest => v.isWhole && wholeMembers rest

end

mutual

/-- How many containers are open at the innermost point of the value. -/
def Value.nesting : Value → Nat
  | .arr items => nestingItems items + 1
  | .obj members => nestingMembers members + 1
  | _ => 0

/-- The greatest nesting of some items. -/
def nestingItems : List Value → Nat
  | [] => 0
  | v :: rest => max v.nesting (nestingItems rest)

/-- The greatest nesting of some members. -/
def nestingMembers : List (String × Value) → Nat
  | [] => 0
  | (_, v) :: rest => max v.nesting (nestingMembers rest)

end

/-! ## Where values begin -/

theorem skipBlank_cons {c : Char} (h : isBlank c = false) (s : List Char) :
    skipBlank (c :: s) = c :: s := by
  unfold skipBlank
  rw [List.dropWhile_cons, h]
  rfl

theorem isBlank_of_isDigit {c : Char} (h : c.isDigit = true) : isBlank c = false := by
  have hn : ∀ d : Char, isBlank d = true → d.isDigit = false := by
    intro d hd
    simp only [isBlank, Bool.or_eq_true, beq_iff_eq] at hd
    rcases hd with ((rfl | rfl) | rfl) | rfl <;> rfl
  cases hb : isBlank c with
  | false => rfl
  | true => simp [hn c hb] at h

theorem ne_of_isDigit {c d : Char} (h : c.isDigit = true) (hd : d.isDigit = false) : c ≠ d := by
  intro e
  rw [e, hd] at h
  simp at h

/-- The text of a value begins with a character that is no blank and closes no list; it is a
quote just for strings. -/
theorem render_eq_cons (v : Value) (h : v.isWhole = true) :
    ∃ c t, v.render = c :: t ∧ isBlank c = false ∧ c ≠ ']' ∧ (c = '"' → ∃ s, v = .str s) := by
  cases v with
  | null => exact ⟨'n', _, rfl, rfl, by decide, fun h => absurd h (by decide)⟩
  | bool b =>
    cases b with
    | true => exact ⟨'t', _, rfl, rfl, by decide, fun h => absurd h (by decide)⟩
    | false => exact ⟨'f', _, rfl, rfl, by decide, fun h => absurd h (by decide)⟩
  | str s => exact ⟨'"', _, rfl, rfl, by decide, fun _ => ⟨s, rfl⟩⟩
  | arr items => exact ⟨'[', _, rfl, rfl, by decide, fun h => absurd h (by decide)⟩
  | obj members => exact ⟨'\x7b', _, rfl, rfl, by decide, fun h => absurd h (by decide)⟩
  | num n =>
    cases n with
    | float bits => cases h
    | int n =>
      rw [Value.render, Number.render, Decimal.integer]
      split
      · exact ⟨'-', _, rfl, rfl, by decide, fun h => absurd h (by decide)⟩
      · obtain ⟨c, t, he, hc⟩ := natural_eq_digit_cons n.natAbs
        exact ⟨c, t, he, isBlank_of_isDigit hc, ne_of_isDigit hc rfl,
          fun e => absurd e (ne_of_isDigit hc rfl)⟩

/-! ## Items and members one by one -/

/-- The items that follow others, each after a comma. -/
def renderNextItems : List Value → List Char
  | [] => []
  | v :: rest => ',' :: renderItems (v :: rest)

/-- The members that follow others, each after a comma. -/
def renderNextMembers : List (String × Value) → List Char
  | [] => []
  | m :: rest => ',' :: renderMembers (m :: rest)

theorem renderItems_cons (v : Value) (rest : List Value) :
    renderItems (v :: rest) = v.render ++ renderNextItems rest := by
  cases rest with
  | nil => rw [renderItems, renderNextItems, List.append_nil]
  | cons w rest => rw [renderItems, renderNextItems]

theorem renderMembers_cons (k : String) (v : Value) (rest : List (String × Value)) :
    renderMembers ((k, v) :: rest)
      = quote k.toList ++ ':' :: (v.render ++ renderNextMembers rest) := by
  cases rest with
  | nil => rw [renderMembers, renderNextMembers, List.append_nil]
  | cons w rest => rw [renderMembers, renderNextMembers]

theorem length_le_renderNextItems (items : List Value) :
    items.length ≤ (renderNextItems items).length := by
  induction items with
  | nil => exact Nat.le_refl 0
  | cons v rest ih =>
    rw [renderNextItems, renderItems_cons, List.length_cons, List.length_cons, List.length_append]
    omega

theorem length_le_renderNextMembers (members : List (String × Value)) :
    members.length ≤ (renderNextMembers members).length := by
  induction members with
  | nil => exact Nat.le_refl 0
  | cons m rest ih =>
    obtain ⟨k, v⟩ := m
    rw [renderNextMembers, renderMembers_cons, List.length_cons, List.length_cons,
      List.length_append, List.length_cons, List.length_append]
    omega

/-- The text of some items is long enough to count them by. -/
theorem length_le_renderItems (items : List Value) :
    items.length ≤ (renderItems items).length + 1 := by
  have := length_le_renderNextItems items
  cases items with
  | nil => exact Nat.zero_le _
  | cons v rest =>
    unfold renderNextItems at this
    rw [List.length_cons] at this
    omega

/-- The text of some members is long enough to count them by. -/
theorem length_le_renderMembers (members : List (String × Value)) :
    members.length ≤ (renderMembers members).length + 1 := by
  have := length_le_renderNextMembers members
  cases members with
  | nil => exact Nat.zero_le _
  | cons m rest =>
    unfold renderNextMembers at this
    rw [List.length_cons] at this
    omega

/-! ## One line -/

theorem lineFeed_not_mem_enclosed {c d : Char} {s : List Char} (hc : c ≠ '\n') (hd : d ≠ '\n')
    (hs : '\n' ∉ s) : '\n' ∉ c :: (s ++ [d]) := by
  rw [List.mem_cons, List.mem_append, List.mem_singleton, not_or, not_or]
  exact ⟨Ne.symm hc, hs, Ne.symm hd⟩

theorem lineFeed_not_mem_member {k : String} {s : List Char} (hs : '\n' ∉ s) :
    '\n' ∉ quote k.toList ++ ':' :: s := by
  rw [List.mem_append, List.mem_cons, not_or, not_or]
  exact ⟨lineFeed_not_mem_quote k.toList, by decide, hs⟩

theorem lineFeed_not_mem_next {s t : List Char} (hs : '\n' ∉ s) (ht : '\n' ∉ t) :
    '\n' ∉ s ++ ',' :: t := by
  rw [List.mem_append, List.mem_cons, not_or, not_or]
  exact ⟨hs, by decide, ht⟩

mutual

/-- The text of a value is one line. -/
theorem lineFeed_not_mem_render : ∀ v : Value, '\n' ∉ v.render
  | .null => by decide
  | .bool true => by decide
  | .bool false => by decide
  | .num n => fun h => absurd (isNumeral_render n _ h) (by decide)
  | .str s => lineFeed_not_mem_quote s.toList
  | .arr items =>
    lineFeed_not_mem_enclosed (by decide) (by decide) (lineFeed_not_mem_renderItems items)
  | .obj members =>
    lineFeed_not_mem_enclosed (by decide) (by decide) (lineFeed_not_mem_renderMembers members)

theorem lineFeed_not_mem_renderItems : ∀ items : List Value, '\n' ∉ renderItems items
  | [] => List.not_mem_nil
  | [v] => lineFeed_not_mem_render v
  | v :: w :: rest =>
    lineFeed_not_mem_next (lineFeed_not_mem_render v) (lineFeed_not_mem_renderItems (w :: rest))

theorem lineFeed_not_mem_renderMembers : ∀ members : List (String × Value),
    '\n' ∉ renderMembers members
  | [] => List.not_mem_nil
  | [(_, v)] => lineFeed_not_mem_member (lineFeed_not_mem_render v)
  | (_, v) :: m :: rest =>
    lineFeed_not_mem_member (lineFeed_not_mem_next (lineFeed_not_mem_render v)
      (lineFeed_not_mem_renderMembers (m :: rest)))

end

end Failsafe.Json
