import RackElevation.Data.Value
import RackElevation.Yaml.Fault

/-
  Dates and times

  A day, or a day and a time of it, perhaps with an offset from universal time.
  Days are counted in the Gregorian calendar from the first day of year one, and
  times in microseconds from its start.

  What is proved:
    1. `monthDays_le` — no month has more than 31 days.
-/

namespace RackElevation.Yaml

/-- A day as it is written. -/
structure Day where
  year : Nat
  month : Nat
  day : Nat
  deriving DecidableEq, Repr

/-- An offset from universal time, none if it is universal time. -/
structure Offset where
  negative : Bool
  hours : Nat
  minutes : Nat
  deriving DecidableEq, Repr

/-- A time of day as it is written. -/
structure Clock where
  hour : Nat
  minute : Nat
  second : Nat
  microsecond : Nat
  offset : Option Offset
  deriving DecidableEq, Repr

/-- A day, and a time of it if there is one. -/
structure Moment where
  day : Day
  clock : Option Clock
  deriving DecidableEq, Repr

namespace Moment

/-- The number that ASCII digits stand for. -/
def number (s : List Char) : Nat := s.foldl (fun n c => 10 * n + (c.toNat - 48)) 0

/-- Takes from `least` to `most` digits, as many as there are. -/
def digits? (least most : Nat) (s : List Char) : Option (Nat × List Char) :=
  let run := (s.take most).takeWhile Char.isDigit
  if run.length < least then none else some (number run, s.drop run.length)

/-- Takes a character. -/
def char? (c : Char) (s : List Char) : Option (List Char) :=
  match s with
  | d :: r => if d = c then some r else none
  | [] => none

/-- The day at the start of a text. -/
def day? (s : List Char) : Option (Day × List Char) := do
  let (year, s) ← digits? 4 4 s
  let (month, s) ← digits? 1 2 (← char? '-' s)
  let (day, s) ← digits? 1 2 (← char? '-' s)
  return (⟨year, month, day⟩, s)

/-- Whether a character is a space or a tab. -/
def isGap (c : Char) : Bool := c == ' ' || c == '\t'

/-- Takes what stands between a day and a time. -/
def between? (s : List Char) : Option (List Char) :=
  match s with
  | 'T' :: r => some r
  | 't' :: r => some r
  | c :: r => if isGap c then some (r.dropWhile isGap) else none
  | [] => none

/-- A fraction of a second in microseconds, if there is one: its first six digits. -/
def fraction (s : List Char) : Nat × List Char :=
  match s with
  | '.' :: r =>
    let run := r.takeWhile Char.isDigit
    let six := run.take 6
    (number (six ++ List.replicate (6 - six.length) '0'), r.dropWhile Char.isDigit)
  | s => (0, s)

/-- The offset that ends a text. -/
def offset? (s : List Char) : Option (Option Offset) :=
  match s with
  | [] => some none
  | s =>
    match s.dropWhile isGap with
    | ['Z'] => some (some ⟨false, 0, 0⟩)
    | c :: r =>
      if c = '+' ∨ c = '-' then do
        let (hours, r) ← digits? 1 2 r
        match r with
        | [] => return some ⟨c = '-', hours, 0⟩
        | r =>
          let (minutes, r) ← digits? 2 2 (← char? ':' r)
          if r.isEmpty then return some ⟨c = '-', hours, minutes⟩ else none
      else none
    | [] => none

/-- The time that ends a text. -/
def clock? (s : List Char) : Option Clock := do
  let (hour, s) ← digits? 1 2 s
  let (minute, s) ← digits? 2 2 (← char? ':' s)
  let (second, s) ← digits? 2 2 (← char? ':' s)
  let (microsecond, s) := fraction s
  return ⟨hour, minute, second, microsecond, ← offset? s⟩

/-- The moment that a text gives. -/
def ofText? (s : List Char) : Option Moment := do
  let (day, s) ← day? s
  match s with
  | [] => return ⟨day, none⟩
  | s => return ⟨day, some (← clock? (← between? s))⟩

/-- Whether a year has a day more. -/
def isLeap (year : Nat) : Bool := year % 4 == 0 && (year % 100 != 0 || year % 400 == 0)

/-- The number of days of a month. -/
def monthDays (year month : Nat) : Nat :=
  if month = 2 then (if isLeap year then 29 else 28)
  else if month = 4 ∨ month = 6 ∨ month = 9 ∨ month = 11 then 30 else 31

/-- The days before a year, from the start of year one. -/
def daysBefore (year : Nat) : Nat := (year - 1) * 365 + (year - 1) / 4 - (year - 1) / 100 + (year - 1) / 400

/-- The number of a day of the calendar. -/
def dayNumber (d : Day) : Except Misfit Nat :=
  if d.year = 0 then .error (.moment "year 0 is out of range")
  else if d.month = 0 ∨ 12 < d.month then .error (.moment "month must be in 1..12")
  else if d.day = 0 ∨ monthDays d.year d.month < d.day then
    .error (.moment "day is out of range for month")
  else .ok (daysBefore d.year +
    ((List.range (d.month - 1)).map fun m => monthDays d.year (m + 1)).foldl (· + ·) 0 + (d.day - 1))

/-- An offset in seconds. -/
def Offset.seconds (o : Offset) : Int :=
  let n : Int := o.hours * 3600 + o.minutes * 60
  if o.negative then -n else n

/-- A span of time in days and seconds of a day. -/
def spanText (seconds : Int) : String :=
  let days := "days=" ++ toString (seconds / 86400)
  let rest := if seconds % 86400 = 0 then "" else ", seconds=" ++ toString (seconds % 86400)
  "datetime.timedelta(" ++ days ++ rest ++ ")"

/-- An offset of less than a day, in seconds. -/
def offsetSeconds (o : Offset) : Except Misfit Int :=
  if (Offset.seconds o).natAbs < 86400 then .ok (Offset.seconds o)
  else .error (.moment ("offset must be a timedelta strictly between -timedelta(hours=24) and " ++
    "timedelta(hours=24), not " ++ spanText (Offset.seconds o) ++ "."))

/-- The time since midnight, in microseconds. -/
def sinceMidnight (c : Clock) : Except Misfit Nat :=
  if 23 < c.hour then .error (.moment "hour must be in 0..23")
  else if 59 < c.minute then .error (.moment "minute must be in 0..59")
  else if 59 < c.second then .error (.moment "second must be in 0..59")
  else .ok (((c.hour * 60 + c.minute) * 60 + c.second) * 1000000 + c.microsecond)

/-- The moment as a value. -/
def time (m : Moment) : Except Misfit Data.Time :=
  match m.clock with
  | none => do return .day (← dayNumber m.day)
  | some c => do
    let offset ← c.offset.mapM offsetSeconds
    let day ← dayNumber m.day
    let micros : Int := day * 86400000000 + (← sinceMidnight c)
    return match offset with
      | none => .naive micros
      | some seconds => .aware (micros - seconds * 1000000)

theorem monthDays_le (year month : Nat) : monthDays year month ≤ 31 := by
  unfold monthDays
  split
  · split <;> decide
  · split <;> decide

end Moment

end RackElevation.Yaml
