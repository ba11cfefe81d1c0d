/-
  How similar two words are, for suggestions after a mistyped word.

  The similarity of Jaro counts the characters that the words have in common not too far apart,
  and how many of those stand in another order.
-/

namespace Failsafe.Text

/-- Takes the first free occurrence of `c` among `slots` between two positions; `at` is the
position of the first slot. -/
def claim (c : Char) (low high : Nat) : Nat → List (Char × Bool) → Option (List (Char × Bool))
  | _, [] => none
  | pos, (d, taken) :: rest =>
    if low ≤ pos ∧ pos < high ∧ c = d ∧ !taken then some ((d, true) :: rest)
    else (claim c low high (pos + 1) rest).map fun rest => (d, taken) :: rest

/-- The characters of the first word that are found in the second, and the second word with
those marked that were found; `reach` is how far apart they may be. -/
def common (reach : Nat) : Nat → List Char → List (Char × Bool) → List Char × List (Char × Bool)
  | _, [], slots => ([], slots)
  | pos, c :: rest, slots =>
    match claim c (pos - reach) (pos + reach + 1) 0 slots with
    | none => common reach (pos + 1) rest slots
    | some slots =>
      let (found, slots) := common reach (pos + 1) rest slots
      (c :: found, slots)

/-- The similarity of two words, from zero to one. -/
def similarity (a b : List Char) : Float :=
  if a.isEmpty && b.isEmpty then 1
  else
    let reach := max a.length b.length / 2 - 1
    let (found, slots) := common reach 0 a (b.map fun c => (c, false))
    let matched := (slots.filter Prod.snd).map Prod.fst
    let moved := ((found.zip matched).filter fun p => p.1 ≠ p.2).length / 2
    if found.isEmpty then 0
    else
      let part (n d : Nat) : Float := Float.ofNat n / Float.ofNat d
      (part found.length a.length + part found.length b.length
        + part (found.length - moved) found.length) / 3

/-- Puts a scored word behind those that score no more. -/
def rank (entry : Float × String) : List (Float × String) → List (Float × String)
  | [] => [entry]
  | held :: rest => if held.1 > entry.1 then entry :: held :: rest else held :: rank entry rest

/-- The words that are similar to a mistyped one, the most similar last. -/
def similar (word : String) (known : List String) : List String :=
  let scored := known.map fun k => (similarity word.toList k.toList, k)
  ((scored.filter fun entry => entry.1 > 0.7).foldl (fun l entry => rank entry l) []).map Prod.snd

end Failsafe.Text
