import Failsafe.Event
import Failsafe.Proofs.Json.Balance
import Failsafe.Proofs.Json.Nesting
import Failsafe.Proofs.Json.Records
import Failsafe.Proofs.Timestamp
/-
  Fields of known shapes are read back from what is written for them.

  Names, numbers, strings and timestamps come back as they were. A plain object comes back if it is
  not nested deeper than the reader may go and no quotation stands in it (`rereadWithin?`), and a
  record with such a field comes back just if that field does (`readRecord_object`).
-/

namespace Failsafe.Json

/-- A whole text that a reader reads to its end. -/
theorem readAll_of_gives {reader : Reader α} {s : List Char} {o : Option α}
    (h : Gives (reader s) [] o) : (readAll reader s).toOption = o := by
  unfold readAll
  cases o with
  | none =>
    obtain ⟨f, hf⟩ := h
    rw [hf]
    rfl
  | some a =>
    change reader s = .ok (a, []) at h
    rw [h]
    rfl

/-! ## Names, numbers, strings and timestamps -/

theorem readText_reads {name expected : String} {presence : Presence} {set : String → σ → σ}
    {depth : Nat} (t : String) (s : List Char) :
    (Slot.store name presence (fun _ => readText expected) set).read depth
      ((Value.str t).render ++ s) = .ok (set t, s) :=
  store_read (readText_quote expected t s)

theorem render_nat (n : Nat) : (Value.nat n).render = Decimal.natural n := by
  unfold Value.nat
  rw [Value.render, Number.render, Decimal.integer, if_neg (by omega)]
  rfl

theorem readNat64_nat {n : Nat} (hn : n < Width.bound 64) {s : List Char} (hs : Delimited s) :
    readNat64 ((Value.nat n).render ++ s) = .ok (n, s) := by
  have hr := readNumber_natural true hn hs
  have hi : (0 : Int) ≤ (n : Int) ∧ (n : Int) < (Width.bound 64 : Nat) := by omega
  obtain ⟨c, t, he, hc⟩ := natural_eq_digit_cons n
  rw [render_nat]
  rw [he, List.cons_append] at hr ⊢
  unfold readNat64 readNatural
  rw [skipBlank_cons (isBlank_of_isDigit hc)]
  simp only [if_neg (ne_of_isDigit (d := '-') hc rfl), if_pos hc, hr, wholeNumber,
    if_true, if_pos hi, Int.toNat_natCast]

/-- Only `null` begins with its letter. -/
theorem readOption_cons {reader : Reader α} {c : Char} {t rest : List Char} {a : α}
    (hb : isBlank c = false) (hn : c ≠ 'n') (h : reader (c :: t) = .ok (a, rest)) :
    readOption reader (c :: t) = .ok (some a, rest) := by
  unfold readOption
  rw [skipBlank_cons hb]
  split
  · next he => exact absurd (List.cons.inj he).1 hn
  · rw [h]
    rfl

theorem readOption_nat {n : Nat} (hn : n < Width.bound 64) {s : List Char} (hs : Delimited s) :
    readOption readNat64 ((Value.nat n).render ++ s) = .ok (some n, s) := by
  have hr := readNat64_nat hn hs
  obtain ⟨c, t, he, hc⟩ := natural_eq_digit_cons n
  rw [render_nat, he] at hr ⊢
  exact readOption_cons (isBlank_of_isDigit hc) (ne_of_isDigit hc rfl) hr

theorem readOption_opt {o : Option Nat} (h : o.all (fun n => decide (n < Width.bound 64)) = true)
    {s : List Char} (hs : Delimited s) :
    readOption readNat64 ((Value.opt .nat o).render ++ s) = .ok (o, s) := by
  cases o with
  | none => rfl
  | some n => exact readOption_nat (of_decide_eq_true h) hs

theorem readOption_text (expected t : String) (s : List Char) :
    readOption (readText expected) ((Value.str t).render ++ s) = .ok (some t, s) := by
  have hr := readText_quote expected t s
  have he : quote t.toList ++ s = '"' :: (t.toList.flatMap escape ++ '"' :: s) := by
    rw [quote_append]
  rw [Value.render]
  rw [he] at hr ⊢
  exact readOption_cons rfl (by decide) hr

theorem find?_of_lookup {table : List (String × α)} {name : String} {a : α}
    (h : table.lookup name = some a) :
    table.find? (fun entry => entry.1 == name) = some (name, a) := by
  induction table with
  | nil => cases h
  | cons entry rest ih =>
    obtain ⟨k, b⟩ := entry
    rw [List.lookup_cons] at h
    by_cases hk : k = name
    · subst hk
      rw [beq_self_eq_true] at h
      rw [List.find?_cons_of_pos (by simp), Option.some.inj h]
    · rw [beq_false_of_ne (Ne.symm hk)] at h
      rw [List.find?_cons_of_neg (by simpa using hk)]
      exact ih h

/-- A name is read as what the table says. -/
theorem readName_str {table : List (String × α)} {name : String} {a : α} (depth : Nat)
    (h : table.lookup name = some a) (s : List Char) :
    readName table depth ((Value.str name).render ++ s) = .ok (a, s) := by
  rw [Value.render, quote_append]
  unfold readName
  rw [skipBlank_cons (c := '"') rfl]
  simp only [readString_quote, String.ofList_toList, lookUp, find?_of_lookup h]

theorem timestamp_read {t : Timestamp} (ht : t.isValid = true) (s : List Char) :
    Timestamp.read ((Value.str t.write).render ++ s) = .ok (t, s) := by
  unfold Value.render Timestamp.read readFormatted
  rw [readText_quote]
  simp only [Timestamp.parse_write ht]
  rfl

/-! ## Objects -/

/-- What an object is read back as where so many containers may be opened. -/
def rereadWithin? (depth : Nat) (ms : Members) : Option Members :=
  if (Value.obj ms).nesting ≤ depth then ms.reread? else none

/-- Data that is nested no deeper than the reader may go is read back as `Members.reread?` says, and
deeper data is not read. -/
theorem readObject_render {data : Members} (depth : Nat) (hw : (Value.obj data).isWhole = true)
    (s : List Char) :
    Gives (readObject depth ((Value.obj data).render ++ s)) s (rereadWithin? depth data) := by
  unfold Value.isWhole at hw
  rw [Bool.and_eq_true] at hw
  have hlength := length_lt_membersFrom true data s
  rw [render_obj_append]
  unfold readObject rereadWithin?
  rw [skipBlank_cons (c := '\x7b') rfl, Value.nesting]
  by_cases hd : nestingMembers data + 1 ≤ depth
  · obtain ⟨d, rfl⟩ := Nat.exists_eq_add_of_le' (Nat.le_of_add_left_le hd)
    have hm := foldMembers_render (fun s => readQuotedText (s.length + 1) s) data d _ true [] s
      hw.2 (Nat.le_of_succ_le_succ hd) hlength
    have ha : Members.isAscending ([] ++ data) = true := hw.1
    have hsame : (data.reread?.map ([] ++ ·)).map id = data.reread? := by simp
    rw [map_foldl_insert ha] at hm
    rw [if_pos hd, ← hsame]
    exact gives_map hm fun _ => rfl
  · rw [if_neg hd]
    cases depth with
    | zero => exact ⟨_, rfl⟩
    | succ d =>
      exact gives_none_map (t := []) (foldMembers_deep _ data d _ true [] s hw.2 (by omega)
        hlength)

/-! ## Records with an object -/

section
variable {slots : List (Slot σ)} {depth : Nat} {front back : List (Filled σ)} {name : String}
  {presence : Presence} {set : Members → σ → σ} {ms : Members}

/-- A record one field of which is an object is read back as it was but for that field, or not at
all. -/
theorem readRecord_object (label : String) (blank : σ) (hfront : ∀ f ∈ front, f.Reads slots depth)
    (hback : ∀ f ∈ back, f.Reads slots depth)
    (hslot : slots.find? (fun slot => slot.name == name)
      = some (.store name presence readObject set))
    (hd : (front.map Filled.name ++ name :: back.map Filled.name).Nodup)
    (hp : ∀ slot ∈ slots, slot.presence = .required →
      slot.name ∈ front.map Filled.name ++ name :: back.map Filled.name)
    (hw : (Value.obj ms).isWhole = true) (s : List Char) :
    Gives (readRecord label slots blank (depth + 1) ((Value.obj
        (front.map Filled.member ++ (name, .obj ms) :: back.map Filled.member)).render ++ s)) s
      ((rereadWithin? depth ms).map fun data =>
        (Filled.fill ⟨blank, []⟩ (front ++ ⟨name, .obj ms, set data⟩ :: back)).record) := by
  have hdata := readObject_render depth hw
  cases hr : rereadWithin? depth ms with
  | some data =>
    let fields := front ++ ⟨name, .obj ms, set data⟩ :: back
    have hreads : ∀ f ∈ fields, f.Reads slots depth := by
      intro f hf
      rcases List.mem_append.mp hf with hf | hf
      · exact hfront f hf
      rcases List.mem_cons.mp hf with rfl | hf
      · refine ⟨_, hslot, fun s _ => store_read ?_⟩
        have hg := hdata s
        rwa [hr] at hg
      · exact hback f hf
    have hnames : fields.map Filled.name
        = front.map Filled.name ++ name :: back.map Filled.name := by
      simp [fields]
    have hmembers : fields.map Filled.member
        = front.map Filled.member ++ (name, .obj ms) :: back.map Filled.member := by
      simp [fields, Filled.member]
    have hf := readRecord_filled label blank fields s hreads (hnames ▸ hd) (hnames ▸ hp)
    rwa [hmembers] at hf
  | none =>
    let bad : Filled σ := ⟨name, .obj ms, id⟩
    have hfails : bad.Fails slots depth := by
      refine ⟨_, hslot, fun s _ => ?_⟩
      have hg := hdata s
      rw [hr] at hg
      exact gives_none_map (t := s) hg
    exact readRecord_error label blank front bad (back.map Filled.member) s hfront
      (List.nodup_append.mp hd).1 hfails

end

end Failsafe.Json
