import Failsafe.Proofs.Json.Whole
/-
  What the canonical text of a value is read back as.

  A value with whole numbers and ascending keys comes back as itself, unless an object inside it
  begins with `quotingKey`: such an object is taken for a quotation. `Value.reread?` says what
  becomes of every value, and `readNested_render` that the reader does just that.
-/

namespace Failsafe.Json

mutual

/-- What the text of the value is read back as; `whole` reads texts that are quoted. -/
def Value.reread? (whole : List Char → Except Fault Value) : Value → Option Value
  | .arr items => (rereadItems? whole items).map .arr
  | .obj [] => some (.obj [])
  | .obj ((k, v) :: rest) =>
    if k = quotingKey then
      match v, rest with
      | .str s, [] => (whole s.toList).toOption
      | _, _ => none
    else
      match v.reread? whole, rereadMembers? whole rest with
      | some w, some ws => some (.obj ((k, w) :: ws))
      | _, _ => none
  | v => some v

/-- What the texts of some items are read back as. -/
def rereadItems? (whole : List Char → Except Fault Value) : List Value → Option (List Value)
  | [] => some []
  | v :: rest =>
    match v.reread? whole, rereadItems? whole rest with
    | some w, some ws => some (w :: ws)
    | _, _ => none

/-- What the texts of some members are read back as, if no quotation begins with them. -/
def rereadMembers? (whole : List Char → Except Fault Value) : List (String × Value) →
    Option (List (String × Value))
  | [] => some []
  | (k, v) :: rest =>
    match v.reread? whole, rereadMembers? whole rest with
    | some w, some ws => some ((k, w) :: ws)
    | _, _ => none

end

/-- The reader gives the value, if there is one, and leaves the text `s`. -/
def Gives (r : Except Fault (α × List Char)) (s : List Char) : Option α → Prop
  | some a => r = .ok (a, s)
  | none => ∃ f, r = .error f

/-! ## Steps of a reader -/

/-- What a reader gives may be changed together with the text it leaves. -/
theorem gives_map {r : Except Fault (α × List Char)} {s t : List Char} {o : Option α}
    {f : α → β} {change : α × List Char → β × List Char} (h : Gives r s o)
    (hc : ∀ a, change (a, s) = (f a, t)) : Gives (r.map change) t (o.map f) := by
  cases o with
  | none =>
    obtain ⟨e, rfl⟩ := h
    exact ⟨e, rfl⟩
  | some a =>
    obtain rfl : r = .ok (a, s) := h
    exact congrArg Except.ok (hc a)

/-- A reader that is followed by another one gives what that one makes of its value. -/
theorem gives_bind {r : Except Fault (α × List Char)} {s t : List Char} {o : Option α}
    {next : α × List Char → Except Fault (β × List Char)} {o' : α → Option β}
    (h : Gives r s o) (hn : ∀ a, Gives (next (a, s)) t (o' a)) :
    Gives (r.bind next) t (o.bind o') := by
  cases o with
  | none =>
    obtain ⟨e, rfl⟩ := h
    exact ⟨e, rfl⟩
  | some a =>
    obtain rfl : r = .ok (a, s) := h
    exact hn a

theorem rereadItems?_cons (whole : List Char → Except Fault Value) (v : Value)
    (rest : List Value) : rereadItems? whole (v :: rest)
      = (v.reread? whole).bind fun w => (rereadItems? whole rest).map (w :: ·) := by
  rw [rereadItems?]
  cases v.reread? whole with
  | none => rfl
  | some w => cases rereadItems? whole rest <;> rfl

theorem rereadMembers?_cons (whole : List Char → Except Fault Value) (k : String) (v : Value)
    (rest : List (String × Value)) : rereadMembers? whole ((k, v) :: rest)
      = (v.reread? whole).bind fun w => (rereadMembers? whole rest).map ((k, w) :: ·) := by
  rw [rereadMembers?]
  cases v.reread? whole with
  | none => rfl
  | some w => cases rereadMembers? whole rest <;> rfl

/-! ## Scalars -/

theorem readNested_str (whole : List Char → Except Fault Value) (depth : Nat) (t : String)
    (s : List Char) : readNested whole depth (quote t.toList ++ s) = .ok (.str t, s) := by
  rw [quote_append, readNested]
  simp only [skipBlank_cons (c := '"') rfl, readString_quote, String.ofList_toList]
  rfl

theorem readNested_int (whole : List Char → Except Fault Value) (depth : Nat) {n : Int}
    (hn : (Number.int n).isWhole = true) {s : List Char} (hs : Delimited s) :
    readNested whole depth (Decimal.integer n ++ s) = .ok (.num (.int n), s) := by
  have hr : -(Width.bound 63 : Int) ≤ n ∧ n < Width.bound 64 := of_decide_eq_true hn
  have h63 : Width.bound 63 = 9223372036854775808 := by decide
  have h64 : Width.bound 64 = 18446744073709551616 := by decide
  unfold Decimal.integer
  split
  · next hneg =>
    have hw : wholeNumber false n.natAbs = .int n := by
      have hc : ¬ (n.natAbs = 0 ∨ Width.bound 63 < n.natAbs) := by omega
      have hi : -(n.natAbs : Int) = n := by omega
      simp only [wholeNumber, if_neg hc, hi]
      rfl
    rw [List.cons_append, readNested]
    simp only [skipBlank_cons (c := '-') rfl, readNumber_natural false (by omega : n.natAbs < _) hs,
      hw]
    rfl
  · next hpos =>
    have hw : wholeNumber true n.natAbs = .int n := by
      have hi : (n.natAbs : Int) = n := by omega
      simp only [wholeNumber, hi]
      rfl
    have hr := readNumber_natural true (by omega : n.natAbs < _) hs
    obtain ⟨c, t, he, hc⟩ := natural_eq_digit_cons n.natAbs
    rw [he, List.cons_append] at hr ⊢
    rw [readNested]
    simp only [skipBlank_cons (isBlank_of_isDigit hc), if_neg (ne_of_isDigit (d := 'n') hc rfl),
      if_neg (ne_of_isDigit (d := 't') hc rfl), if_neg (ne_of_isDigit (d := 'f') hc rfl),
      if_neg (ne_of_isDigit (d := '-') hc rfl), if_pos hc, hr, hw]

/-! ## What stands between items and members -/

theorem delimited_renderNextItems (items : List Value) (s : List Char) :
    Delimited (renderNextItems items ++ ']' :: s) := by
  cases items with
  | nil => exact delimited_cons s (by simp)
  | cons v rest => exact delimited_cons _ (by simp)

theorem delimited_renderNextMembers (members : List (String × Value)) (s : List Char) :
    Delimited (renderNextMembers members ++ '\x7d' :: s) := by
  cases members with
  | nil => exact delimited_cons s (by simp)
  | cons m rest => exact delimited_cons _ (by simp)

theorem nextItem_end (first : Bool) (s : List Char) :
    nextItem first (']' :: s) = .ok (false, ']' :: s) := rfl

theorem nextItem_first {c : Char} (hb : isBlank c = false) (hc : c ≠ ']') (s : List Char) :
    nextItem true (c :: s) = .ok (true, c :: s) := by
  unfold nextItem
  rw [skipBlank_cons hb]
  split
  · next h => simp at h
  · next h => exact absurd (List.cons.inj h).1 hc
  · next h =>
    cases h
    rfl

theorem nextItem_next {c : Char} (hb : isBlank c = false) (hc : c ≠ ']') (s : List Char) :
    nextItem false (',' :: c :: s) = .ok (true, c :: s) := by
  rw [nextItem, skipBlank_cons (c := ',') rfl]
  split
  · next h => simp at h
  · next h => exact absurd (List.cons.inj h).1 (by decide)
  · next h =>
    cases h
    rw [if_neg (by decide), if_pos rfl, skipBlank_cons hb]
    split
    · next h => simp at h
    · next h => exact absurd (List.cons.inj h).1 hc
    · rfl

theorem nextKey_end (first : Bool) (s : List Char) :
    nextKey first ('\x7d' :: s) = .ok (false, '\x7d' :: s) := rfl

theorem nextKey_first (k s : List Char) :
    nextKey true (quote k ++ s) = .ok (true, k.flatMap escape ++ '"' :: s) := by
  rw [quote_append]
  rfl

theorem nextKey_next (k s : List Char) :
    nextKey false (',' :: (quote k ++ s)) = .ok (true, k.flatMap escape ++ '"' :: s) := by
  rw [quote_append]
  rfl

theorem readColon_cons (s : List Char) : readColon (':' :: s) = .ok s := rfl

/-- The reader of members takes one member and goes on. -/
theorem foldMembers_member {member : String → σ → Reader σ} {n : Nat} {first : Bool} {state : σ}
    {k : String} {s t : List Char}
    (h : nextKey first s = .ok (true, k.toList.flatMap escape ++ '"' :: t)) :
    foldMembers member (n + 1) first state s
      = (member k state t).bind fun (state, rest) => foldMembers member n false state rest := by
  rw [foldMembers]
  simp only [h, readString_quote, String.ofList_toList]
  cases member k state t with
  | error f => rfl
  | ok done => rfl

/-- The reader of an object's members reads the value behind a key and goes on. -/
theorem foldMembers_value {value : Reader Value} {n : Nat} {first : Bool} {ms : Members}
    {k : String} {s t : List Char}
    (h : nextKey first s = .ok (true, k.toList.flatMap escape ++ '"' :: ':' :: t)) :
    foldMembers (readMember value) (n + 1) first ms s
      = (value t).bind fun (v, rest) =>
        foldMembers (readMember value) n false (ms.insert k v) rest := by
  rw [foldMembers_member h]
  unfold readMember
  simp only [readColon_cons]
  cases value t with
  | error f => rfl
  | ok done => rfl

theorem foldMembers_end {member : String → σ → Reader σ} (n : Nat) (first : Bool) (state : σ)
    (s : List Char) :
    foldMembers member (n + 1) first state ('\x7d' :: s) = .ok (state, '\x7d' :: s) := by
  rw [foldMembers]
  simp only [nextKey_end]

/-! ## Ascending keys -/

/-- A key behind all others is inserted at the end. -/
theorem insert_eq_append {k : String} {v : Value} {ms : Members} (h : ∀ m ∈ ms, m.1 < k) :
    Members.insert k v ms = ms ++ [(k, v)] := by
  induction ms with
  | nil => rfl
  | cons m ms ih =>
    obtain ⟨k', v'⟩ := m
    have hk : k' < k := h (k', v') List.mem_cons_self
    have hlt : ¬ k < k' := String.lt_asymm hk
    have hne : k ≠ k' := by
      intro e
      rw [e] at hk
      exact String.lt_irrefl k' hk
    rw [Members.insert, if_neg hlt, if_neg hne, ih fun m hm => h m (List.mem_cons_of_mem _ hm)]
    rfl

/-- Members in ascending order are inserted one behind the other. -/
theorem foldl_insert_eq_append {held ms : Members}
    (h : Members.isAscending (held ++ ms) = true) :
    ms.foldl (fun held m => held.insert m.1 m.2) held = held ++ ms := by
  induction ms generalizing held with
  | nil => rw [List.foldl_nil, List.append_nil]
  | cons m ms ih =>
    obtain ⟨k, v⟩ := m
    have hp : ((held ++ (k, v) :: ms).map Prod.fst).Pairwise (· < ·) := of_decide_eq_true h
    rw [List.map_append, List.pairwise_append] at hp
    have hk : ∀ m ∈ held, m.1 < k := fun m hm =>
      hp.2.2 m.1 (List.mem_map_of_mem hm) k List.mem_cons_self
    rw [List.append_cons] at h
    rw [List.foldl_cons, insert_eq_append hk, ih h, ← List.append_cons]

theorem keys_rereadMembers? {whole : List Char → Except Fault Value} {ms ws : Members}
    (h : rereadMembers? whole ms = some ws) : ws.map Prod.fst = ms.map Prod.fst := by
  induction ms generalizing ws with
  | nil =>
    cases h
    rfl
  | cons m ms ih =>
    obtain ⟨k, v⟩ := m
    rw [rereadMembers?] at h
    split at h
    · next w us _ hu =>
      cases h
      rw [List.map_cons, List.map_cons, ih hu]
    · simp at h

/-- What is read back of ascending members is inserted as it stands. -/
theorem map_foldl_insert {whole : List Char → Except Fault Value} {held rest : Members}
    (h : Members.isAscending (held ++ rest) = true) :
    (rereadMembers? whole rest).map (fun l => l.foldl (fun ms m => ms.insert m.1 m.2) held)
      = (rereadMembers? whole rest).map (held ++ ·) := by
  cases hs : rereadMembers? whole rest with
  | none => rfl
  | some ws =>
    have ha : Members.isAscending (held ++ ws) = true := by
      unfold Members.isAscending
      rw [List.map_append, keys_rereadMembers? hs, ← List.map_append]
      exact h
    exact congrArg some (foldl_insert_eq_append ha)

/-! ## Whole values -/

/-- The items, with a comma in front unless they are the first. -/
def itemsFrom (first : Bool) (items : List Value) : List Char :=
  if first then renderItems items else renderNextItems items

/-- The members, with a comma in front unless they are the first. -/
def membersFrom (first : Bool) (members : List (String × Value)) : List Char :=
  if first then renderMembers members else renderNextMembers members

theorem render_arr_append (items : List Value) (s : List Char) :
    (Value.arr items).render ++ s = '[' :: (itemsFrom true items ++ ']' :: s) := by
  rw [Value.render, List.cons_append, List.append_assoc]
  rfl

theorem render_obj_append (members : List (String × Value)) (s : List Char) :
    (Value.obj members).render ++ s = '\x7b' :: (membersFrom true members ++ '\x7d' :: s) := by
  rw [Value.render, List.cons_append, List.append_assoc]
  rfl

/-- The text of some items is long enough to count them by. -/
theorem length_lt_itemsFrom (first : Bool) (items : List Value) (s : List Char) :
    items.length < (itemsFrom first items ++ ']' :: s).length + 1 := by
  have hl : items.length ≤ (itemsFrom first items).length + 1 := by
    cases first with
    | true => exact length_le_renderItems items
    | false => exact Nat.le_succ_of_le (length_le_renderNextItems items)
  rw [List.length_append, List.length_cons]
  omega

/-- The text of some members is long enough to count them by. -/
theorem length_lt_membersFrom (first : Bool) (members : List (String × Value))
    (s : List Char) :
    members.length < (membersFrom first members ++ '\x7d' :: s).length + 1 := by
  have hl : members.length ≤ (membersFrom first members).length + 1 := by
    cases first with
    | true => exact length_le_renderMembers members
    | false => exact Nat.le_succ_of_le (length_le_renderNextMembers members)
  rw [List.length_append, List.length_cons]
  omega

theorem nextItem_itemsFrom (first : Bool) {v : Value} (hv : v.isWhole = true) (rest : List Value)
    (s : List Char) :
    nextItem first (itemsFrom first (v :: rest) ++ s)
      = .ok (true, v.render ++ (renderNextItems rest ++ s)) := by
  obtain ⟨c, t, he, hb, hc, -⟩ := render_eq_cons v hv
  cases first with
  | true =>
    unfold itemsFrom
    rw [if_pos rfl, renderItems_cons, List.append_assoc, he, List.cons_append]
    exact nextItem_first hb hc _
  | false =>
    unfold itemsFrom
    rw [if_neg (by decide), renderNextItems, renderItems_cons, List.cons_append,
      List.append_assoc, he, List.cons_append]
    exact nextItem_next hb hc _

theorem nextKey_membersFrom (first : Bool) (k : String) (v : Value)
    (rest : List (String × Value)) (s : List Char) :
    nextKey first (membersFrom first ((k, v) :: rest) ++ s)
      = .ok (true, k.toList.flatMap escape ++ '"' :: ':' ::
          (v.render ++ (renderNextMembers rest ++ s))) := by
  cases first with
  | true =>
    unfold membersFrom
    rw [if_pos rfl, renderMembers_cons, List.append_assoc, List.cons_append,
      List.append_assoc]
    exact nextKey_first _ _
  | false =>
    unfold membersFrom
    rw [if_neg (by decide), renderNextMembers, renderMembers_cons, List.cons_append,
      List.append_assoc, List.cons_append, List.append_assoc]
    exact nextKey_next _ _

theorem readItems_item {item : Reader α} {n : Nat} {first : Bool} {acc : List α}
    {s t : List Char} (h : nextItem first s = .ok (true, t)) :
    readItems item (n + 1) first acc s
      = (item t).bind fun (a, rest) => readItems item n false (a :: acc) rest := by
  rw [readItems]
  simp only [h]
  cases item t with
  | error f => rfl
  | ok done => rfl

theorem readText_error (expected : String) {c : Char} (hb : isBlank c = false) (hc : c ≠ '"')
    (s : List Char) : ∃ f, readText expected (c :: s) = .error f := by
  unfold readText
  rw [skipBlank_cons hb]
  split
  · exact ⟨_, rfl⟩
  · next h => exact absurd (List.cons.inj h).1 hc
  · exact ⟨_, rfl⟩

variable (whole : List Char → Except Fault Value)

/-- A quotation is read if it is the only member of its object and a string. -/
theorem readQuoted_render (v : Value) (hv : v.isWhole = true) (rest : List (String × Value))
    (s : List Char) :
    Gives (readQuoted whole (':' :: (v.render ++ (renderNextMembers rest ++ '\x7d' :: s)))) s
      ((Value.obj ((quotingKey, v) :: rest)).reread? whole) := by
  by_cases hs : ∃ t, v = .str t
  · obtain ⟨t, rfl⟩ := hs
    unfold readQuoted
    simp only [readColon_cons, Value.render, readText_quote]
    cases hw : whole t.toList with
    | error f =>
      simp only [Value.reread?, if_true]
      cases rest with
      | nil =>
        simp only [hw]
        exact ⟨_, rfl⟩
      | cons m rest => exact ⟨_, rfl⟩
    | ok w =>
      cases rest with
      | nil =>
        simp only [Value.reread?, if_true, hw]
        rfl
      | cons m rest =>
        simp only [Value.reread?, if_true]
        exact ⟨_, rfl⟩
  · obtain ⟨c, t, he, hb, -, hq⟩ := render_eq_cons v hv
    obtain ⟨f, hf⟩ := readText_error "raw value" hb (fun e => hs (hq e))
      (t ++ (renderNextMembers rest ++ '\x7d' :: s))
    have hn : (Value.obj ((quotingKey, v) :: rest)).reread? whole = none := by
      rw [Value.reread?, if_pos rfl]
      exact fun t e _ => hs ⟨t, e⟩
    rw [hn, readQuoted]
    simp only [readColon_cons, he, List.cons_append, hf]
    exact ⟨f, rfl⟩

theorem reread?_obj_of_ne {k : String} (hk : k ≠ quotingKey) (v : Value)
    (rest : List (String × Value)) :
    (Value.obj ((k, v) :: rest)).reread? whole
      = (rereadMembers? whole ((k, v) :: rest)).map .obj := by
  unfold Value.reread?
  rw [if_neg hk, rereadMembers?]
  split <;> rfl

/-- An object that begins with an ordinary key is read member by member. -/
theorem readFields_of_ne {value : Reader Value} {k : String} (hk : k ≠ quotingKey)
    {s t : List Char}
    (h : nextKey true s = .ok (true, k.toList.flatMap escape ++ '"' :: ':' :: t)) :
    readFields whole value s
      = (value t).bind fun (v, rest) =>
        (foldMembers (readMember value) (rest.length + 1) false (Members.insert k v []) rest).map
          fun (members, rest) => (.obj members, rest.drop 1) := by
  unfold readFields readMember
  simp only [h, readString_quote, String.ofList_toList, if_neg hk, readColon_cons]
  cases value t with
  | error f => rfl
  | ok done =>
    obtain ⟨v, rest⟩ := done
    dsimp only [Except.bind]
    cases foldMembers _ (rest.length + 1) false (Members.insert k v []) rest with
    | error f => rfl
    | ok done => rfl

theorem readNested_list (depth : Nat) (t : List Char) :
    readNested whole (depth + 1) ('[' :: t)
      = (readItems (readNested whole depth) (t.length + 1) true [] t).map
        fun (items, rest) => (.arr items, rest) := by
  rw [readNested]
  simp only [skipBlank_cons (c := '[') rfl]
  cases readItems (readNested whole depth) (t.length + 1) true [] t with
  | error f => rfl
  | ok done => rfl

theorem readNested_map (depth : Nat) (t : List Char) :
    readNested whole (depth + 1) ('\x7b' :: t) = readFields whole (readNested whole depth) t := by
  rw [readNested]
  rfl

mutual

/-- The text of a value is read back as `Value.reread?` says. -/
theorem readNested_render : ∀ (v : Value) (depth : Nat) (s : List Char), v.isWhole = true →
    v.nesting ≤ depth → Delimited s →
    Gives (readNested whole depth (v.render ++ s)) s (v.reread? whole)
  | .null, depth, s, _, _, _ => by
    unfold Value.render
    rw [readNested]
    rfl
  | .bool true, depth, s, _, _, _ => by
    unfold Value.render
    rw [readNested]
    rfl
  | .bool false, depth, s, _, _, _ => by
    unfold Value.render
    rw [readNested]
    rfl
  | .num (.int n), depth, s, hw, _, hs => readNested_int whole depth hw hs
  | .num (.float _), _, _, hw, _, _ => by cases hw
  | .str t, depth, s, _, _, _ => readNested_str whole depth t s
  | .arr items, depth, s, hw, hd, hs => by
    unfold Value.nesting at hd
    obtain ⟨d, rfl⟩ : ∃ d, depth = d + 1 := ⟨depth - 1, by omega⟩
    have hi := readItems_render items d _ true [] s hw (by omega)
      (length_lt_itemsFrom true items s)
    rw [render_arr_append, readNested_list, Value.reread?]
    refine gives_map ?_ fun _ => rfl
    simpa using hi
  | .obj [], depth, s, _, hd, _ => by
    unfold Value.nesting at hd
    obtain ⟨d, rfl⟩ : ∃ d, depth = d + 1 := ⟨depth - 1, by omega⟩
    exact readNested_map whole d ('\x7d' :: s)
  | .obj ((k, v) :: rest), depth, s, hw, hd, hs => by
    unfold Value.nesting at hd
    rw [nestingMembers] at hd
    unfold Value.isWhole at hw
    rw [Bool.and_eq_true, wholeMembers, Bool.and_eq_true] at hw
    obtain ⟨hasc, hv, hrest⟩ := hw
    obtain ⟨d, rfl⟩ : ∃ d, depth = d + 1 := ⟨depth - 1, by omega⟩
    have hk := nextKey_membersFrom true k v rest ('\x7d' :: s)
    rw [render_obj_append, readNested_map]
    by_cases hq : k = quotingKey
    · subst hq
      unfold readFields
      simp only [hk, readString_quote, String.ofList_toList, if_true]
      exact readQuoted_render whole v hv rest s
    · have hr := readNested_render v d (renderNextMembers rest ++ '\x7d' :: s) hv (by omega)
        (delimited_renderNextMembers rest s)
      rw [reread?_obj_of_ne whole hq, rereadMembers?_cons, Option.map_bind,
        readFields_of_ne whole hq hk]
      refine gives_bind hr fun w => ?_
      have hm := foldMembers_render rest d _ false [(k, w)] s hrest (by omega)
        (length_lt_membersFrom false rest s)
      have ha : Members.isAscending ([(k, w)] ++ rest) = true := hasc
      rw [map_foldl_insert ha] at hm
      exact gives_map hm fun _ => rfl

/-- The texts of some items are read back one by one. -/
theorem readItems_render : ∀ (items : List Value) (depth n : Nat) (first : Bool)
    (acc : List Value) (s : List Char), wholeItems items = true → nestingItems items ≤ depth →
    items.length < n →
    Gives (readItems (readNested whole depth) n first acc (itemsFrom first items ++ ']' :: s)) s
      ((rereadItems? whole items).map (acc.reverse ++ ·))
  | [], depth, n, first, acc, s, _, _, hn => by
    obtain ⟨m, rfl⟩ : ∃ m, n = m + 1 := ⟨n - 1, by simp at hn; omega⟩
    have he : itemsFrom first [] = [] := by cases first <;> rfl
    rw [he, List.nil_append, readItems]
    simp only [nextItem_end, rereadItems?, Option.map_some, List.append_nil]
    rfl
  | v :: rest, depth, n, first, acc, s, hw, hd, hn => by
    rw [wholeItems, Bool.and_eq_true] at hw
    rw [nestingItems] at hd
    obtain ⟨m, rfl⟩ : ∃ m, n = m + 1 := ⟨n - 1, by omega⟩
    have hv := readNested_render v depth (renderNextItems rest ++ ']' :: s) hw.1 (by omega)
      (delimited_renderNextItems rest s)
    rw [readItems_item (nextItem_itemsFrom first hw.1 rest (']' :: s)), rereadItems?_cons,
      Option.map_bind]
    refine gives_bind hv fun w => ?_
    have hi := readItems_render rest depth m false (w :: acc) s hw.2 (by omega)
      (by simpa using hn)
    have hf : (acc.reverse ++ ·) ∘ (w :: ·) = ((w :: acc).reverse ++ ·) := by
      funext l
      simp
    rw [Function.comp_apply, Option.map_map, hf]
    exact hi

/-- The texts of some members are read back one by one, where no quotation can begin. -/
theorem foldMembers_render : ∀ (members : List (String × Value)) (depth n : Nat) (first : Bool)
    (state : Members) (s : List Char), wholeMembers members = true →
    nestingMembers members ≤ depth → members.length < n →
    Gives (foldMembers (readMember (readNested whole depth)) n first state
        (membersFrom first members ++ '\x7d' :: s)) ('\x7d' :: s)
      ((rereadMembers? whole members).map fun l => l.foldl (fun ms m => ms.insert m.1 m.2) state)
  | [], depth, n, first, state, s, _, _, hn => by
    obtain ⟨m, rfl⟩ : ∃ m, n = m + 1 := ⟨n - 1, by simp at hn; omega⟩
    have he : membersFrom first [] = [] := by cases first <;> rfl
    rw [he, List.nil_append, foldMembers_end, rereadMembers?]
    rfl
  | (k, v) :: rest, depth, n, first, state, s, hw, hd, hn => by
    rw [wholeMembers, Bool.and_eq_true] at hw
    rw [nestingMembers] at hd
    obtain ⟨m, rfl⟩ : ∃ m, n = m + 1 := ⟨n - 1, by omega⟩
    have hv := readNested_render v depth (renderNextMembers rest ++ '\x7d' :: s) hw.1 (by omega)
      (delimited_renderNextMembers rest s)
    rw [foldMembers_value (nextKey_membersFrom first k v rest ('\x7d' :: s)),
      rereadMembers?_cons, Option.map_bind]
    refine gives_bind hv fun w => ?_
    have hm := foldMembers_render rest depth m false (state.insert k w) s hw.2 (by omega)
      (by simpa using hn)
    rw [Function.comp_apply, Option.map_map]
    exact hm

end

end Failsafe.Json
