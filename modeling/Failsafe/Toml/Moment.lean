import Failsafe.Text.Quoted
import Failsafe.Timestamp
import Failsafe.Toml.Key
import Failsafe.Toml.Number
/-
  Reading the dates and times of a TOML text.

  A date, a time or both are read as their canonical text: there is a `T` between them, and the
  fraction of the seconds has at most nine digits and no zeros at its end.
-/

namespace Failsafe.Toml

open Reader

/-- A number of two digits within bounds. -/
def twoDigits (least greatest : Nat) : Reader (List Char) :=
  let bounded (ds : List Char) : Except (Option String) (List Char) :=
    if least ≤ Decimal.value ds ∧ Decimal.value ds ≤ greatest then .ok ds
    else .error (some outOfRange)
  verify bounded (takeExactly 2 Char.isDigit)

/-- The day of a month. -/
def dayOf (year month : List Char) : Reader (List Char) :=
  let existing (ds : List Char) : Except (Option String) (List Char) :=
    if Decimal.value ds ≤ Date.daysIn (Decimal.value year) (Decimal.value month) then .ok ds
    else .error (some outOfRange)
  demand existing (cut (twoDigits 1 31))

/-- A date. -/
def date : Reader (List Char) := do
  let year ← takeExactly 4 Char.isDigit
  char '-'
  let month ← cut (twoDigits 1 12)
  cut (char '-')
  let day ← dayOf year month
  pure (year ++ '-' :: month ++ '-' :: day)

/-- The fraction of the seconds, with its point; without a value it is empty. -/
def secondsFraction : Reader (List Char) := do
  char '.'
  let ds ← takeSome Char.isDigit
  let kept := ((ds.take 9).reverse.dropWhile (· = '0')).reverse
  pure (if kept.isEmpty then [] else '.' :: kept)

/-- A time. -/
def time (lastHour : Nat) : Reader (List Char) := do
  let hour ← twoDigits 0 lastHour
  char ':'
  cut (do
    let minute ← twoDigits 0 59
    char ':'
    let second ← twoDigits 0 60
    let parts? ← optional secondsFraction
    pure (hour ++ ':' :: minute ++ ':' :: second ++ parts?.getD []))

/-- The offset of a time, which is positive if it is zero. -/
def offset : Reader (List Char) :=
  label "time offset" (either
    (do
      let _ ← satisfy fun c => c = 'Z' || c = 'z'
      pure ['Z'])
    (do
      let c ← satisfy fun c => c = '+' || c = '-'
      cut (do
        let hour ← twoDigits 0 23
        char ':'
        let minute ← twoDigits 0 59
        let shown := hour ++ ':' :: minute
        pure (if shown = ['0', '0', ':', '0', '0'] then '+' :: shown else c :: shown))))

/-- A date, with the time after it if there is one. -/
def dateTime (time offset : Reader (List Char)) : Reader (List Char) := do
  let d ← date
  let t? ← optional (do
    let _ ← satisfy fun c => c = 'T' || c = 't' || c = ' '
    let t ← time
    let o? ← optional offset
    pure ('T' :: t ++ o?.getD []))
  pure (d ++ t?.getD [])

/-- A date, a time or both. -/
def moment : Reader Value :=
  (fun cs => Value.moment (String.ofList cs)) <$>
    either (label "date-time" (dateTime (time 23) offset)) (label "time" (time 23))

/-! ## Moments that strings state -/

/-- Two digits for a number. -/
def shownInTwo (n : Nat) : List Char :=
  if n < 10 then '0' :: Decimal.natural n else Decimal.natural n

/-- An offset of at most a day, in which there may be more than an hour of minutes. -/
def statedOffset : Reader (List Char) :=
  either
    (do
      let _ ← satisfy fun c => c = 'Z' || c = 'z'
      pure ['Z'])
    (do
      let c ← satisfy fun c => c = '+' || c = '-'
      let hour ← twoDigits 0 99
      char ':'
      let minute ← twoDigits 0 99
      let total := Decimal.value hour * 60 + Decimal.value minute
      if total ≤ 24 * 60 then
        pure ((if total = 0 then '+' else c) :: shownInTwo (total / 60)
          ++ ':' :: shownInTwo (total % 60))
      else fail)

/-- The moment that a string states: as anywhere else, but a day may have an hour more. -/
def stated? (s : String) : Option String :=
  let whole : Reader (List Char) := do
    let cs ← either (dateTime (time 24) statedOffset) (time 24)
    eof
    pure cs
  match whole s.toList with
  | .ok (cs, _) => some (String.ofList cs)
  | .error _ => none

/-- What a value is that ought to be a string. -/
def Value.found : Value → String
  | .text s => "string " ++ Failsafe.Text.quoted s
  | .integer n => "integer " ++ ticked (Decimal.integer n)
  | .float bits => "floating point " ++ ticked (Decimal.write (.positional true) bits)
  | .bool b => "boolean " ++ ticked (if b then "true" else "false").toList
  | .list _ => "sequence"
  | .moment _ | .table _ => "map"
  | .keyed v _ => v.found
where
  ticked (cs : List Char) : String := "`" ++ String.ofList cs ++ "`"

/-- The moment that a value states, or why it states none. -/
def Value.stated : Value → Except String String
  | .text s => (stated? s).elim (.error "failed to parse datetime") .ok
  | v => .error ("invalid type: " ++ v.found ++ ", expected string containing a datetime")

/-- A value that stands under a key. -/
def underKey (key : Key) (r : Reader Value) : Reader Value := fun s => do
  let (v, rest) ← r s
  if key.getLast? = some momentKey then
    let extent := Failsafe.Text.byteLength s - Failsafe.Text.byteLength rest
    let fault (cause : String) : Fault :=
      { (Fault.before s).because (some cause) with extent? := some extent }
    .ok (.keyed v (v.stated.mapError fault), rest)
  else .ok (v, rest)

end Failsafe.Toml
