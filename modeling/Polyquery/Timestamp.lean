/-!
# Points in time

A timestamp is a date and a time of day in the calendar without an era before
it: years are counted through zero.  `display` drops fractions of a second,
`described` keeps them, and `iso` is the form with an offset of zero.
-/

namespace Polyquery

/-- A date and a time of day.  A leap second is written as second 59 with a
fraction of at least one second. -/
structure Timestamp where
  year : Int
  month : Nat
  day : Nat
  hour : Nat
  minute : Nat
  second : Nat
  nano : Nat
deriving DecidableEq

namespace Timestamp

/-- A number with leading zeros up to a width. -/
def zeroPadded (width n : Nat) : String :=
  let text := toString n
  String.ofList (List.replicate (width - text.length) '0') ++ text

/-- A year has four digits; a larger one carries a plus sign, a negative one a
minus sign. -/
def yearText (year : Int) : String :=
  if year < 0 then "-" ++ zeroPadded 4 year.natAbs
  else if 9999 < year then "+" ++ toString year
  else zeroPadded 4 year.natAbs

/-- The day of a timestamp. -/
def dateText (t : Timestamp) : String :=
  yearText t.year ++ "-" ++ zeroPadded 2 t.month ++ "-" ++ zeroPadded 2 t.day

/-- The time of day without a fraction; a leap second is second 60. -/
def timeText (t : Timestamp) : String :=
  zeroPadded 2 t.hour ++ ":" ++ zeroPadded 2 t.minute ++ ":" ++
    zeroPadded 2 (t.second + t.nano / 1000000000)

/-- The fraction of a second with three, six or nine digits, none if it is
zero. -/
def fractionText (t : Timestamp) : String :=
  let nano := t.nano % 1000000000
  if nano = 0 then ""
  else if nano % 1000000 = 0 then "." ++ zeroPadded 3 (nano / 1000000)
  else if nano % 1000 = 0 then "." ++ zeroPadded 6 (nano / 1000)
  else "." ++ zeroPadded 9 nano

/-- The form in which timestamps are shown, stored as text and sent as text. -/
def display (t : Timestamp) : String :=
  t.dateText ++ " " ++ t.timeText

/-- The form inside a description of a literal. -/
def described (t : Timestamp) : String :=
  t.dateText ++ "T" ++ t.timeText ++ t.fractionText

/-- The form with an offset of zero. -/
def iso (t : Timestamp) : String :=
  t.described ++ "+00:00"

/-- The parts of a timestamp, most significant first. -/
def parts (t : Timestamp) : List Int :=
  [t.year, t.month, t.day, t.hour, t.minute, t.second, t.nano]

/-- Chronological order. -/
def order (a b : Timestamp) : Ordering :=
  go a.parts b.parts
where
  go : List Int → List Int → Ordering
    | x :: xs, y :: ys => (compare x y).then (go xs ys)
    | _, _ => .eq

/-! ## Days and microseconds -/

/-- The number of days from 1970-01-01 to a date. -/
def daysFromDate (year : Int) (month day : Nat) : Int :=
  let shifted := if month ≤ 2 then year - 1 else year
  let era := Int.fdiv shifted 400
  let yearOfEra := shifted - era * 400
  let dayOfYear := (153 * ((month + 9) % 12) + 2) / 5 + day - 1
  let dayOfEra := yearOfEra * 365 + Int.fdiv yearOfEra 4 - Int.fdiv yearOfEra 100 + dayOfYear
  era * 146097 + dayOfEra - 719468

/-- The date a number of days after 1970-01-01. -/
def dateFromDays (days : Int) : Int × Nat × Nat :=
  let shifted := days + 719468
  let era := Int.fdiv shifted 146097
  let dayOfEra := (shifted - era * 146097).toNat
  let yearOfEra := (dayOfEra - dayOfEra / 1460 + dayOfEra / 36524 - dayOfEra / 146096) / 365
  let dayOfYear := dayOfEra - (365 * yearOfEra + yearOfEra / 4 - yearOfEra / 100)
  let shiftedMonth := (5 * dayOfYear + 2) / 153
  let day := dayOfYear - (153 * shiftedMonth + 2) / 5 + 1
  let month := if shiftedMonth < 10 then shiftedMonth + 3 else shiftedMonth - 9
  let year : Int := yearOfEra + era * 400
  (if month ≤ 2 then year + 1 else year, month, day)

/-- Days from 1970-01-01 to 2000-01-01. -/
def epochDays : Int := 10957

/-- Microseconds since 2000-01-01, truncated toward zero. -/
def micros (t : Timestamp) : Int :=
  let days := daysFromDate t.year t.month t.day - epochDays
  let seconds : Int := days * 86400 + t.hour * 3600 + t.minute * 60 + t.second
  Int.tdiv (seconds * 1000000000 + t.nano) 1000

/-- The timestamp a number of microseconds after 2000-01-01. -/
def ofMicros (micros : Int) : Timestamp :=
  let days := Int.fdiv micros 86400000000
  let rest := (micros - days * 86400000000).toNat
  let (year, month, day) := dateFromDays (days + epochDays)
  let seconds := rest / 1000000
  ⟨year, month, day, seconds / 3600, seconds / 60 % 60, seconds % 60, rest % 1000000 * 1000⟩

/-! ## Reading -/

/-- The value of decimal digits; none for no digits or anything else. -/
def readNat? (cs : List Char) : Option Nat :=
  if cs.isEmpty || !cs.all Char.isDigit then none
  else some (cs.foldl (fun n c => 10 * n + (c.toNat - '0'.toNat)) 0)

/-- Cut a text at the first occurrence of a character. -/
def cut (c : Char) (cs : List Char) : List Char × Option (List Char) :=
  match cs.dropWhile (· ≠ c) with
  | [] => (cs, none)
  | _ :: rest => (cs.takeWhile (· ≠ c), some rest)

/-- Whether the calendar has a date: counting its days leads back to it. -/
def isDate (year : Int) (month day : Nat) : Bool :=
  1 ≤ month && month ≤ 12 && dateFromDays (daysFromDate year month day) == (year, month, day)

/-- Read `YYYY-MM-DD`; the year may carry a sign. -/
def readDate? (cs : List Char) : Option (Int × Nat × Nat) := do
  let (negative, digits) := match cs with
    | '-' :: rest => (true, rest)
    | '+' :: rest => (false, rest)
    | rest => (false, rest)
  let (year, rest) := cut '-' digits
  let (month, rest) := cut '-' (← rest)
  let year ← readNat? year
  let month ← readNat? month
  let day ← readNat? (← rest)
  let year : Int := if negative then -year else year
  if isDate year month day then some (year, month, day) else none

/-- Read `HH:MM:SS` with an optional fraction: hour, minute, second and
nanoseconds. -/
def readTime? (cs : List Char) : Option (Nat × Nat × Nat × Nat) := do
  let (hour, rest) := cut ':' cs
  let (minute, rest) := cut ':' (← rest)
  let (second, fraction) := cut '.' (← rest)
  let hour ← readNat? hour
  let minute ← readNat? minute
  let second ← readNat? second
  let nano ← match fraction with
    | none => some 0
    | some digits => readNat? ((digits ++ List.replicate 9 '0').take 9)
  if 23 < hour || 59 < minute || 60 < second then none
  else some (hour, minute, second, nano)

/-- Read a date with an optional time of day. -/
def ofText? (text : String) : Option Timestamp := do
  let (date, time) := cut ' ' text.toList
  let (year, month, day) ← readDate? date
  match time with
  | none => some ⟨year, month, day, 0, 0, 0, 0⟩
  | some time =>
    let (hour, minute, second, nano) ← readTime? time
    some ⟨year, month, day, hour, minute, second, nano⟩

end Timestamp

end Polyquery
