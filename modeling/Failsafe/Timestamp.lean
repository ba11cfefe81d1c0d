import Failsafe.Decimal.Shortest
import Failsafe.Text.Blank
/-
  Timestamps in universal time and their RFC 3339 texts.

  A timestamp is kept by its calendar fields. `Timestamp.write` gives the date, `T`, the time with
  the fewest of 0, 3, 6 or 9 fraction digits that lose nothing, and the zone. `Timestamp.parse?`
  also takes fields of fewer digits, blanks between parts, years beyond four digits with a sign,
  a sixtieth second, and any offset below a day, which it removes.
-/

namespace Failsafe

/-- A calendar date. -/
structure Date where
  year : Int
  month : Nat
  day : Nat
deriving DecidableEq, Repr, Inhabited

namespace Date

/-- The year has a 29th of February. -/
def isLeapYear (y : Int) : Bool := y % 4 == 0 && (y % 100 != 0 || y % 400 == 0)

/-- The number of days of a month. -/
def daysIn (y : Int) (month : Nat) : Nat :=
  if month = 2 then (if isLeapYear y then 29 else 28)
  else if month = 4 ∨ month = 6 ∨ month = 9 ∨ month = 11 then 30
  else 31

/-- The first and the last year that a date may have. -/
def yearRange : Int × Int := (-262143, 262142)

/-- The date exists. -/
def isValid (d : Date) : Bool :=
  decide (yearRange.1 ≤ d.year) && decide (d.year ≤ yearRange.2)
    && decide (1 ≤ d.month) && decide (d.month ≤ 12)
    && decide (1 ≤ d.day) && decide (d.day ≤ daysIn d.year d.month)

/-- The day after. -/
def next (d : Date) : Date :=
  if d.day < daysIn d.year d.month then { d with day := d.day + 1 }
  else if d.month < 12 then ⟨d.year, d.month + 1, 1⟩
  else ⟨d.year + 1, 1, 1⟩

/-- The day before. -/
def previous (d : Date) : Date :=
  if 1 < d.day then { d with day := d.day - 1 }
  else if 1 < d.month then ⟨d.year, d.month - 1, daysIn d.year (d.month - 1)⟩
  else ⟨d.year - 1, 12, 31⟩

/-- The date that lies some days after the first day of 1970. -/
def afterEpoch : Nat → Date
  | 0 => ⟨1970, 1, 1⟩
  | n + 1 => (afterEpoch n).next

end Date

/-- A point in universal time; second 60 is a leap second. -/
structure Timestamp where
  date : Date
  hour : Nat
  minute : Nat
  second : Nat
  nanos : Nat
deriving DecidableEq, Repr, Inhabited

namespace Timestamp

/-- The start of 1970. -/
def epoch : Timestamp := ⟨⟨1970, 1, 1⟩, 0, 0, 0, 0⟩

/-- The point that lies some nanoseconds after the start of 1970. -/
def afterEpoch (nanos : Nat) : Timestamp :=
  let seconds := nanos / 1000000000
  { date := .afterEpoch (seconds / 86400)
    hour := seconds % 86400 / 3600
    minute := seconds % 3600 / 60
    second := seconds % 60
    nanos := nanos % 1000000000 }

/-- Why a text is no timestamp. -/
inductive Error where
  | outOfRange
  | impossible
  | invalid
  | tooShort
  | tooLong
deriving DecidableEq, Repr

/-- The text of an error. -/
def Error.message : Error → String
  | outOfRange => "input is out of range"
  | impossible => "no possible date and time matching input"
  | invalid => "input contains invalid characters"
  | tooShort => "premature end of input"
  | tooLong => "trailing input"

/-! ## Writing -/

/-- A number padded with zeros on the left. -/
def padded (width n : Nat) : List Char :=
  let ds := Decimal.natural n
  List.replicate (width - ds.length) '0' ++ ds

/-- A year: four digits, or a sign and at least four digits outside 0 to 9999. -/
def writeYear (y : Int) : List Char :=
  if 0 ≤ y ∧ y ≤ 9999 then padded 4 y.toNat
  else (if y < 0 then '-' else '+') :: padded 4 y.natAbs

/-- A fraction of a second, with its point. -/
def writeFraction (nanos : Nat) : List Char :=
  if nanos = 0 then []
  else if nanos % 1000000 = 0 then '.' :: padded 3 (nanos / 1000000)
  else if nanos % 1000 = 0 then '.' :: padded 6 (nanos / 1000)
  else '.' :: padded 9 nanos

/-- The text of a timestamp up to its zone. -/
def writeLocal (t : Timestamp) : List Char :=
  writeYear t.date.year ++ '-' :: padded 2 t.date.month ++ '-' :: padded 2 t.date.day
    ++ 'T' :: padded 2 t.hour ++ ':' :: padded 2 t.minute ++ ':' :: padded 2 t.second
    ++ writeFraction t.nanos

/-- The stored form, with the zone `Z`. -/
def write (t : Timestamp) : String := String.ofList (t.writeLocal ++ ['Z'])

/-- The form in which log records are stamped, always to the microsecond. -/
def stamp (t : Timestamp) : String :=
  String.ofList (({ t with nanos := 0 } : Timestamp).writeLocal
    ++ '.' :: padded 6 (t.nanos / 1000) ++ ['Z'])

/-- The displayed form, with the zone as an offset. -/
def display (t : Timestamp) : String :=
  String.ofList (t.writeLocal ++ ['+', '0', '0', ':', '0', '0'])

/-! ## Reading -/

/-- The value of a decimal digit. -/
def digitValue (c : Char) : Nat := c.toNat - '0'.toNat

/-- The number that a list of digits stands for. -/
def numberOf (ds : List Char) : Nat := ds.foldl (fun n c => n * 10 + digitValue c) 0

/-- Digits at the front of a text, at most `most` of them. -/
def leadingDigits : Nat → List Char → List Char
  | 0, _ => []
  | _ + 1, [] => []
  | n + 1, c :: s => if c.isDigit then c :: leadingDigits n s else []

/-- A number of one to `most` digits. -/
def readNumber (most : Nat) (s : List Char) : Except Error (Nat × List Char) :=
  let ds := leadingDigits most s
  if s.isEmpty then .error .tooShort
  else if ds.isEmpty then .error .invalid
  else if Width.bound 63 ≤ numberOf ds then .error .outOfRange
  else .ok (numberOf ds, s.drop ds.length)

/-- A field of one or two digits between two bounds. -/
def readField (least greatest : Nat) (s : List Char) : Except Error (Nat × List Char) :=
  match readNumber 2 (Text.trimStart s) with
  | .error e => .error e
  | .ok (n, rest) => if least ≤ n ∧ n ≤ greatest then .ok (n, rest) else .error .outOfRange

/-- A year: four digits, or any number of them after a sign. -/
def readYear (s : List Char) : Except Error (Int × List Char) :=
  let bounded (y : Int) (rest : List Char) : Except Error (Int × List Char) :=
    if -(Width.bound 31 : Int) ≤ y ∧ y < Width.bound 31 then .ok (y, rest) else .error .outOfRange
  match Text.trimStart s with
  | '-' :: t =>
    match readNumber t.length t with
    | .error e => .error e
    | .ok (n, rest) => bounded (-(n : Int)) rest
  | '+' :: t =>
    match readNumber t.length t with
    | .error e => .error e
    | .ok (n, rest) => bounded n rest
  | t =>
    match readNumber 4 t with
    | .error e => .error e
    | .ok (n, rest) => bounded n rest

/-- A mark between two fields, with blanks in front of it. -/
def readMark (mark : Char) (s : List Char) : Except Error (List Char) :=
  match Text.trimStart s with
  | [] => .error .tooShort
  | c :: t => if c = mark then .ok t else .error .invalid

/-- The mark between date and time. -/
def readSeparator : List Char → Except Error (List Char)
  | [] => .error .tooShort
  | c :: t => if c = 'T' ∨ c = 't' ∨ c = ' ' then .ok t else .error .invalid

/-- A fraction of a second if there is one; digits beyond the ninth are dropped. -/
def readFraction : List Char → Except Error (Nat × List Char)
  | '.' :: t =>
    match readNumber 9 t with
    | .error e => .error e
    | .ok (n, rest) =>
      .ok (n * Nat.pow 10 (9 - (t.length - rest.length)), rest.dropWhile Char.isDigit)
  | s => .ok (0, s)

/-- Two digits, the first at most `most`. -/
def readPair (most : Char) : List Char → Except Error (Nat × List Char)
  | [] => .error .tooShort
  | [c] => if c.utf8Size = 1 then .error .tooShort else .error .invalid
  | a :: b :: rest =>
    if a.isDigit ∧ b.isDigit then
      if a ≤ most then .ok (numberOf [a, b], rest) else .error .outOfRange
    else .error .invalid

/-- An offset in minutes after its sign. -/
def readHoursMinutes (s : List Char) : Except Error (Nat × List Char) :=
  match readPair '9' s with
  | .error e => .error e
  | .ok (hours, rest) =>
    match readPair '5' (rest.dropWhile fun c => c = ':' || Text.isSpace c) with
    | .error e => .error e
    | .ok (minutes, rest) => .ok (hours * 60 + minutes, rest)

/-- The text without the letters `UTC`, in any case, if it begins with them. -/
def dropUniversal? : List Char → Option (List Char)
  | a :: b :: c :: rest =>
    if a.toLower = 'u' ∧ b.toLower = 't' ∧ c.toLower = 'c' then some rest else none
  | _ => none

/-- A zone, as its offset in minutes. -/
def readZone (s : List Char) : Except Error (Int × List Char) :=
  match dropUniversal? s with
  | some rest => .ok (0, rest)
  | none =>
    match s with
    | [] => .error .tooShort
    | c :: t =>
      if c = 'Z' ∨ c = 'z' then .ok (0, t)
      else if c = '+' then (readHoursMinutes t).map fun (n, rest) => ((n : Int), rest)
      else if c = '-' ∨ c = '−' then (readHoursMinutes t).map fun (n, rest) => (-(n : Int), rest)
      else .error .invalid

/-- A local time moved to universal time; the offset is below a day. -/
def removeOffset (t : Timestamp) (offset : Int) : Timestamp :=
  let minutes : Int := t.hour * 60 + t.minute - offset
  let inDay := (minutes % 1440).toNat
  { t with
    date := if minutes < 0 then t.date.previous else if 1440 ≤ minutes then t.date.next else t.date
    hour := inDay / 60
    minute := inDay % 60 }

/-- The timestamp with the given fields, if they make one. -/
def ofFields (civil : Timestamp) (offset : Int) : Except Error Timestamp :=
  if !civil.date.isValid then .error .outOfRange
  else if 1440 ≤ offset.natAbs then .error .outOfRange
  else if (civil.removeOffset offset).date.isValid then .ok (civil.removeOffset offset)
  else .error .impossible

/-- Reads a timestamp from a whole text. -/
def parseChars (s : List Char) : Except Error Timestamp := do
  let (year, s) ← readYear s
  let s ← readMark '-' s
  let (month, s) ← readField 1 12 s
  let s ← readMark '-' s
  let (day, s) ← readField 1 31 s
  let s ← readSeparator s
  let (hour, s) ← readField 0 23 s
  let s ← readMark ':' s
  let (minute, s) ← readField 0 59 s
  let s ← readMark ':' s
  let (second, s) ← readField 0 60 s
  let (nanos, s) ← readFraction s
  let (offset, s) ← readZone (Text.trimStart s)
  if (Text.trimStart s).isEmpty then
    ofFields ⟨⟨year, month, day⟩, hour, minute, second, nanos⟩ offset
  else .error .tooLong

/-- Reads a timestamp from a whole text. -/
def parse (s : String) : Except Error Timestamp := parseChars s.toList

end Timestamp

end Failsafe
