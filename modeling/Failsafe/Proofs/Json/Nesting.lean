import Failsafe.Proofs.Json.Rereading
/-
  Values that are nested too deep are not read back.

  A reader that may open so many containers refuses every value that is nested deeper, whatever
  stands in front of the innermost point: an item there is read or refused by itself, and so the
  reader comes to the point or stops before it (`readNested_deep`).
-/

namespace Failsafe.Json

variable (whole : List Char → Except Fault Value)

/-- A reader fails with what follows it. -/
theorem gives_bind_none {r : Except Fault (α × List Char)} {s t : List Char} {o : Option α}
    {next : α × List Char → Except Fault (β × List Char)} (h : Gives r s o)
    (hn : ∀ a, Gives (next (a, s)) t none) : Gives (r.bind next) t none := by
  have hb : Gives (r.bind next) t (o.bind fun _ => none) := gives_bind h hn
  rwa [Option.bind_fun_none] at hb

/-- A reader fails with what it begins with. -/
theorem gives_none_bind {r : Except Fault (α × List Char)} {s t : List Char}
    {next : α × List Char → Except Fault (β × List Char)} (h : Gives r s none) :
    Gives (r.bind next) t none := by
  obtain ⟨f, rfl⟩ := h
  exact ⟨f, rfl⟩

theorem gives_none_map {r : Except Fault (α × List Char)} {s t : List Char}
    {change : α × List Char → β × List Char} (h : Gives r s none) :
    Gives (r.map change) t none := by
  obtain ⟨f, rfl⟩ := h
  exact ⟨f, rfl⟩

mutual

/-- A value that is nested deeper than the reader may go is not read. -/
theorem readNested_deep : ∀ (v : Value) (depth : Nat) (s : List Char), v.isWhole = true →
    depth < v.nesting → Gives (readNested whole depth (v.render ++ s)) s none
  | .null, _, _, _, hd => absurd hd (Nat.not_lt_zero _)
  | .bool _, _, _, _, hd => absurd hd (Nat.not_lt_zero _)
  | .num _, _, _, _, hd => absurd hd (Nat.not_lt_zero _)
  | .str _, _, _, _, hd => absurd hd (Nat.not_lt_zero _)
  | .arr items, depth, s, hw, hd => by
    unfold Value.nesting at hd
    rw [render_arr_append]
    cases depth with
    | zero => exact ⟨_, rfl⟩
    | succ d =>
      rw [readNested_list]
      exact gives_none_map (readItems_deep items d _ true [] s hw (Nat.lt_of_succ_lt_succ hd)
        (length_lt_itemsFrom true items s))
  | .obj [], depth, s, _, hd => by
    unfold Value.nesting at hd
    obtain rfl : depth = 0 := Nat.lt_one_iff.mp hd
    exact ⟨_, rfl⟩
  | .obj ((k, v) :: rest), depth, s, hw, hd => by
    unfold Value.nesting at hd
    rw [nestingMembers] at hd
    unfold Value.isWhole at hw
    rw [Bool.and_eq_true, wholeMembers, Bool.and_eq_true] at hw
    obtain ⟨-, hv, hrest⟩ := hw
    rw [render_obj_append]
    cases depth with
    | zero => exact ⟨_, rfl⟩
    | succ d =>
      have hk := nextKey_membersFrom true k v rest ('\x7d' :: s)
      rw [readNested_map]
      by_cases hq : k = quotingKey
      · subst hq
        -- only a string is quoted, and nothing stands behind it
        have hn : (Value.obj ((quotingKey, v) :: rest)).reread? whole = none := by
          rw [Value.reread?, if_pos rfl]
          rintro t rfl rfl
          simp [Value.nesting, nestingMembers] at hd
        have hquoted := readQuoted_render whole v hv rest s
        rw [hn] at hquoted
        unfold readFields
        simp only [hk, readString_quote, String.ofList_toList, if_true]
        exact hquoted
      · rw [readFields_of_ne whole hq hk]
        by_cases hdv : d < v.nesting
        · exact gives_none_bind (readNested_deep v d _ hv hdv)
        · refine gives_bind_none (readNested_render whole v d _ hv (Nat.le_of_not_lt hdv)
            (delimited_renderNextMembers rest s)) fun w => ?_
          exact gives_none_map (foldMembers_deep rest d _ false _ s hrest (by omega)
            (length_lt_membersFrom false rest s))

/-- Items one of which is nested too deep are not read. -/
theorem readItems_deep : ∀ (items : List Value) (depth n : Nat) (first : Bool)
    (acc : List Value) (s : List Char), wholeItems items = true → depth < nestingItems items →
    items.length < n →
    Gives (readItems (readNested whole depth) n first acc (itemsFrom first items ++ ']' :: s)) s
      none
  | [], _, _, _, _, _, _, hd, _ => absurd hd (Nat.not_lt_zero _)
  | v :: rest, depth, n, first, acc, s, hw, hd, hn => by
    rw [wholeItems, Bool.and_eq_true] at hw
    rw [nestingItems] at hd
    obtain ⟨m, rfl⟩ : ∃ m, n = m + 1 := ⟨n - 1, by omega⟩
    rw [readItems_item (nextItem_itemsFrom first hw.1 rest (']' :: s))]
    by_cases hdv : depth < v.nesting
    · exact gives_none_bind (readNested_deep v depth _ hw.1 hdv)
    · refine gives_bind_none (readNested_render whole v depth _ hw.1 (Nat.le_of_not_lt hdv)
        (delimited_renderNextItems rest s)) fun w => ?_
      exact readItems_deep rest depth m false (w :: acc) s hw.2 (by omega) (by simpa using hn)

/-- Members one of which is nested too deep are not read. -/
theorem foldMembers_deep : ∀ (members : List (String × Value)) (depth n : Nat) (first : Bool)
    (state : Members) (s : List Char), wholeMembers members = true →
    depth < nestingMembers members → members.length < n →
    Gives (foldMembers (readMember (readNested whole depth)) n first state
        (membersFrom first members ++ '\x7d' :: s)) ('\x7d' :: s) none
  | [], _, _, _, _, _, _, hd, _ => absurd hd (Nat.not_lt_zero _)
  | (k, v) :: rest, depth, n, first, state, s, hw, hd, hn => by
    rw [wholeMembers, Bool.and_eq_true] at hw
    rw [nestingMembers] at hd
    obtain ⟨m, rfl⟩ : ∃ m, n = m + 1 := ⟨n - 1, by omega⟩
    rw [foldMembers_value (nextKey_membersFrom first k v rest ('\x7d' :: s))]
    by_cases hdv : depth < v.nesting
    · exact gives_none_bind (readNested_deep v depth _ hw.1 hdv)
    · refine gives_bind_none (readNested_render whole v depth _ hw.1 (Nat.le_of_not_lt hdv)
        (delimited_renderNextMembers rest s)) fun w => ?_
      exact foldMembers_deep rest depth m false (state.insert k w) s hw.2 (by omega)
        (by simpa using hn)

end

end Failsafe.Json
