import Failsafe.Proofs.Json.Whole
/-
  The structure of a JSON text: how deep its brackets are nested, and where its strings are.

  `Stance.next` follows a text one character at a time and gives up where no text can go on: at a
  closing bracket too many, and behind a string at anything that does not separate it from what
  follows. The text of a value leads back to the depth where it began (`isLevel_render`), so a part
  of an object that has been cut off leaves a bracket open (`depth_of_cut`), and no later object
  closes it (`depth_of_front`).
-/

namespace Failsafe.Json

/-- What a character outside of strings does to the structure of a text. -/
inductive Role where
  | opening
  | closing
  | quote
  | separator
  | other
deriving DecidableEq, Repr

/-- The role of a character. -/
def role (c : Char) : Role :=
  if c = '{' ∨ c = '[' then .opening
  else if c = '}' ∨ c = ']' then .closing
  else if c = '"' then .quote
  else if isBlank c = true ∨ c = ',' ∨ c = ':' then .separator
  else .other

/-- Where in its structure a text has come to. -/
inductive Stance where
  /-- outside of strings, so many brackets being open; right behind a string or not -/
  | outside (depth : Nat) (behind : Bool)
  /-- in a string -/
  | inside (depth : Nat)
  /-- in a string, right behind a backslash -/
  | escaped (depth : Nat)
deriving DecidableEq, Repr

namespace Stance

/-- The number of open brackets. -/
def depth : Stance → Nat
  | outside d _ | inside d | escaped d => d

/-- The same, within more brackets. -/
def lift (n : Nat) : Stance → Stance
  | outside d behind => outside (d + n) behind
  | inside d => inside (d + n)
  | escaped d => escaped (d + n)

/-- Outside of strings, after a character of some role. -/
def pass : Nat → Bool → Role → Option Stance
  | d, _, .separator => some (outside d false)
  | 0, _, .closing => none
  | d + 1, _, .closing => some (outside d false)
  | _, true, _ => none
  | d, false, .opening => some (outside (d + 1) false)
  | d, false, .quote => some (inside d)
  | d, false, .other => some (outside d false)

/-- After one more character; nothing if the text cannot go on with it. -/
def next : Stance → Char → Option Stance
  | outside d behind, c => pass d behind (role c)
  | inside d, c =>
    if c = '"' then some (outside d true)
    else if c = '\\' then some (escaped d)
    else some (inside d)
  | escaped d, _ => some (inside d)

/-- After some more characters. -/
def follow (a : Stance) (l : List Char) : Option Stance := l.foldlM next a

theorem follow_cons (a : Stance) (c : Char) (l : List Char) :
    a.follow (c :: l) = (a.next c).bind fun b => b.follow l := List.foldlM_cons

theorem follow_append (a : Stance) (l l' : List Char) :
    a.follow (l ++ l') = (a.follow l).bind fun b => b.follow l' := List.foldlM_append

theorem depth_lift (n : Nat) (a : Stance) : (a.lift n).depth = a.depth + n := by
  cases a <;> rfl

/-! ## Within more brackets -/

theorem pass_lift {d : Nat} {behind : Bool} {r : Role} {b : Stance}
    (h : pass d behind r = some b) (n : Nat) : pass (d + n) behind r = some (b.lift n) := by
  cases r with
  | closing =>
    cases d with
    | zero => cases h
    | succ d =>
      rw [Nat.add_right_comm]
      rw [← Option.some.inj h]
      rfl
  | separator =>
    rw [← Option.some.inj h]
    rfl
  | opening =>
    cases behind with
    | true => cases h
    | false =>
      rw [← Option.some.inj h]
      simp [pass, lift, Nat.add_right_comm]
  | quote =>
    cases behind with
    | true => cases h
    | false =>
      rw [← Option.some.inj h]
      rfl
  | other =>
    cases behind with
    | true => cases h
    | false =>
      rw [← Option.some.inj h]
      rfl

/-- More brackets around a text do not matter to it. -/
theorem next_lift {a b : Stance} {c : Char} (h : a.next c = some b) (n : Nat) :
    (a.lift n).next c = some (b.lift n) := by
  cases a with
  | outside d behind => exact pass_lift h n
  | inside d =>
    rw [next] at h
    rw [lift, next]
    split at h
    · next hc => rw [if_pos hc, ← Option.some.inj h, lift]
    split at h
    · next hq hb => rw [if_neg hq, if_pos hb, ← Option.some.inj h, lift]
    · next hq hb => rw [if_neg hq, if_neg hb, ← Option.some.inj h, lift]
  | escaped d =>
    rw [← Option.some.inj h]
    rfl

theorem follow_lift {a b : Stance} {l : List Char} (h : a.follow l = some b) (n : Nat) :
    (a.lift n).follow l = some (b.lift n) := by
  induction l generalizing a with
  | nil =>
    obtain rfl := Option.some.inj h
    rfl
  | cons c l ih =>
    rw [follow_cons] at h ⊢
    obtain ⟨a', ha, hl⟩ := Option.bind_eq_some_iff.mp h
    rw [next_lift ha n]
    exact ih hl

/-- A text that can be followed to its end can be followed to any place before it. -/
theorem follow_of_prefix {a b : Stance} {l l' : List Char} (h : a.follow (l ++ l') = some b) :
    ∃ c, a.follow l = some c := by
  rw [follow_append] at h
  obtain ⟨c, hc, -⟩ := Option.bind_eq_some_iff.mp h
  exact ⟨c, hc⟩

/-! ## The text of a value -/

theorem other_of_all {l : List Char} (h : (l.all fun c => role c == .other) = true) :
    ∀ c ∈ l, role c = .other := fun c hc => eq_of_beq (List.all_eq_true.mp h c hc)

/-- Characters of no role lead nowhere. -/
theorem follow_of_other (d : Nat) {l : List Char} (h : ∀ c ∈ l, role c = .other) :
    (outside d false).follow l = some (outside d false) := by
  induction l with
  | nil => rfl
  | cons c l ih =>
    rw [List.forall_mem_cons] at h
    rw [follow_cons, next, h.1]
    exact ih h.2

theorem role_of_isNumeral {c : Char} (h : isNumeral c = true) : role c = .other := by
  have hne : ∀ d, isNumeral d = false → c ≠ d := fun d hd => ne_of_isNumeral h hd
  simp (disch := decide) [role, isBlank, hne]

theorem next_inside (d : Nat) {c : Char} (hq : c ≠ '"') (hb : c ≠ '\\') :
    (inside d).next c = some (inside d) := by
  rw [next, if_neg hq, if_neg hb]

/-- What is written for a character stays in the string. -/
theorem follow_escape (d : Nat) (c : Char) : (inside d).follow (escape c) = some (inside d) := by
  unfold escape
  split
  · rfl
  · next hq =>
    split
    · rfl
    · next hb =>
      split
      · rfl
      split
      · rfl
      split
      · rfl
      split
      · rfl
      split
      · rfl
      split
      · next h =>
        have hd : ∀ n, n < 16 → hexDigit n ≠ '"' ∧ hexDigit n ≠ '\\' := by decide
        have h1 := hd (c.toNat / 16) (by omega)
        have h2 := hd (c.toNat % 16) (by omega)
        show (inside d).follow [hexDigit (c.toNat / 16), hexDigit (c.toNat % 16)] = _
        rw [follow_cons, next_inside d h1.1 h1.2, Option.bind_some, follow_cons,
          next_inside d h2.1 h2.2]
        rfl
      · rw [follow_cons, next_inside d hq hb]
        rfl

/-- A string between quotes leads out of itself. -/
theorem follow_quote (d : Nat) (cs : List Char) :
    (outside d false).follow (quote cs) = some (outside d true) := by
  have hcs : (inside d).follow (cs.flatMap escape) = some (inside d) := by
    induction cs with
    | nil => rfl
    | cons c cs ih =>
      rw [List.flatMap_cons, follow_append, follow_escape]
      exact ih
  show (inside d).follow (cs.flatMap escape ++ ['"']) = _
  rw [follow_append, hcs]
  rfl

/-- A text leads back to the depth where it began. -/
def IsLevel (l : List Char) : Prop :=
  ∀ d, ∃ behind, (outside d false).follow l = some (outside d behind)

theorem isLevel_of_other {l : List Char} (h : ∀ c ∈ l, role c = .other) : IsLevel l :=
  fun d => ⟨false, follow_of_other d h⟩

theorem isLevel_enclosed {l : List Char} {o c : Char} (ho : role o = .opening)
    (hc : role c = .closing) (h : IsLevel l) : IsLevel (o :: (l ++ [c])) := by
  intro d
  obtain ⟨behind, hl⟩ := h (d + 1)
  refine ⟨false, ?_⟩
  rw [follow_cons, next, ho]
  show (outside (d + 1) false).follow (l ++ [c]) = _
  rw [follow_append, hl]
  show (outside (d + 1) behind).follow [c] = _
  rw [follow_cons, next, hc]
  rfl

/-- Two texts with a separator between them. -/
theorem isLevel_separated {l l' : List Char} {c : Char} (hc : role c = .separator) (h : IsLevel l)
    (h' : IsLevel l') : IsLevel (l ++ c :: l') := by
  intro d
  obtain ⟨behind, hl⟩ := h d
  rw [follow_append, hl]
  show ∃ behind', (outside d behind).follow (c :: l') = some (outside d behind')
  rw [follow_cons, next, hc]
  exact h' d

mutual

/-- The text of a value leads back to where it began. -/
theorem isLevel_render : ∀ v : Value, IsLevel v.render
  | .null => isLevel_of_other (other_of_all rfl)
  | .bool true => isLevel_of_other (other_of_all rfl)
  | .bool false => isLevel_of_other (other_of_all rfl)
  | .num n => isLevel_of_other fun c hc => role_of_isNumeral (isNumeral_render n c hc)
  | .str s => fun d => ⟨true, follow_quote d s.toList⟩
  | .arr items => isLevel_enclosed rfl rfl (isLevel_renderItems items)
  | .obj members => isLevel_enclosed rfl rfl (isLevel_renderMembers members)

theorem isLevel_renderItems : ∀ items : List Value, IsLevel (renderItems items)
  | [] => isLevel_of_other (other_of_all rfl)
  | [v] => isLevel_render v
  | v :: w :: rest => isLevel_separated rfl (isLevel_render v) (isLevel_renderItems (w :: rest))

theorem isLevel_renderMembers : ∀ members : List (String × Value),
    IsLevel (renderMembers members)
  | [] => isLevel_of_other (other_of_all rfl)
  | [(k, v)] => isLevel_separated rfl (fun d => ⟨true, follow_quote d k.toList⟩) (isLevel_render v)
  | (k, v) :: m :: rest =>
    isLevel_separated rfl (fun d => ⟨true, follow_quote d k.toList⟩)
      (isLevel_separated rfl (isLevel_render v) (isLevel_renderMembers (m :: rest)))

end

/-! ## Objects that have been cut off -/

/-- The front of an object that is not all of it leaves a bracket open. -/
theorem depth_of_cut {members : List (String × Value)} {p : List Char} (hp : p ≠ [])
    (hcut : p <+: (Value.obj members).render) (hne : p ≠ (Value.obj members).render) :
    ∃ a, (outside 0 false).follow p = some a ∧ 1 ≤ a.depth := by
  obtain ⟨c, p, rfl⟩ := List.exists_cons_of_ne_nil hp
  rw [Value.render] at hcut hne
  obtain ⟨rfl, hrest⟩ := List.cons_prefix_cons.mp hcut
  rcases List.prefix_concat_iff.mp hrest with rfl | ⟨l, hl⟩
  · exact absurd rfl hne
  obtain ⟨behind, hfollow⟩ := isLevel_renderMembers members 0
  rw [← hl] at hfollow
  obtain ⟨a, ha⟩ := follow_of_prefix hfollow
  refine ⟨a.lift 1, follow_lift ha 1, ?_⟩
  rw [depth_lift]
  exact Nat.le_add_left 1 a.depth

/-- The front of an object whose first key begins with a letter closes no bracket in front of it: in
a string the object's first quote is the end of the string, and no letter may follow that. -/
theorem depth_of_front {a b : Stance} {c : Char} {l p : List Char} (hc : role c = .other)
    (ha : 1 ≤ a.depth) (hl : IsLevel ('{' :: '"' :: c :: l)) (hp : p <+: '{' :: '"' :: c :: l)
    (h : a.follow p = some b) : 1 ≤ b.depth := by
  have hquote : ∀ d q, q <+: '"' :: c :: l → (inside d).follow q = some b → b.depth = d := by
    intro d q hq hb
    cases q with
    | nil => rw [← Option.some.inj hb, depth]
    | cons x q =>
      obtain ⟨rfl, hrest⟩ := List.cons_prefix_cons.mp hq
      change (outside d true).follow q = some b at hb
      cases q with
      | nil => rw [← Option.some.inj hb, depth]
      | cons x q =>
        obtain ⟨rfl, -⟩ := List.cons_prefix_cons.mp hrest
        have hnone : (outside d true).next x = none := by
          rw [next, hc]
          cases d <;> rfl
        rw [follow_cons, hnone] at hb
        cases hb
  cases p with
  | nil => rwa [← Option.some.inj h]
  | cons x q =>
    obtain ⟨rfl, hq⟩ := List.cons_prefix_cons.mp hp
    cases a with
    | outside d behind =>
      cases behind with
      | true => cases d <;> cases h
      | false =>
        obtain ⟨behind, hb⟩ := hl 0
        obtain ⟨r, hr⟩ := hp
        obtain ⟨x, hx⟩ := follow_of_prefix (hr ▸ hb)
        have hlift := follow_lift hx d
        rw [lift, Nat.zero_add, h] at hlift
        rw [Option.some.inj hlift, depth_lift]
        exact Nat.le_trans ha (Nat.le_add_left d _)
    | inside d => exact (hquote d q hq h).symm ▸ ha
    | escaped d => exact (hquote d q hq h).symm ▸ ha

/-- An object ends at the first brace that closes it. -/
theorem eq_of_closing {l l' s s' : List Char} {behind behind' : Bool}
    (h : (outside 0 false).follow l = some (outside 0 behind))
    (h' : (outside 0 false).follow l' = some (outside 0 behind'))
    (heq : l ++ '}' :: s = l' ++ '}' :: s') : l = l' ∧ s = s' := by
  have hnone : ∀ {q q' : List Char} {x : Char} {u r r' : List Char} {b b' : Bool},
      (outside 0 false).follow q = some (outside 0 b) →
      (outside 0 false).follow q' = some (outside 0 b') → q' = q ++ x :: u →
      '}' :: r = x :: u ++ '}' :: r' → False := by
    intro q q' x u r r' b b' hq hq' happ hx
    obtain rfl := (List.cons.inj hx).1
    rw [happ, follow_append, hq] at hq'
    cases b <;> cases hq'
  rcases List.append_eq_append_iff.mp heq with ⟨m, hl', hs⟩ | ⟨m, hl, hs⟩
  · cases m with
    | nil =>
      rw [List.append_nil] at hl'
      exact ⟨hl'.symm, (List.cons.inj hs).2⟩
    | cons x u => exact (hnone h h' hl' hs).elim
  · cases m with
    | nil =>
      rw [List.append_nil] at hl
      exact ⟨hl, (List.cons.inj hs).2.symm⟩
    | cons x u => exact (hnone h' h hl hs).elim

end Stance

end Failsafe.Json
