/-!
# Dates and instants

Days of the proleptic Gregorian calendar, counted from 1970-01-01, and instants in microseconds
from that midnight. The years written are 1 to 9999.
-/

namespace TransferBucket

/-- A day of the calendar. -/
structure Date where
  year : Nat
  month : Nat
  day : Nat
  deriving DecidableEq, Repr, Inhabited

/-- Whether a year has a 29 February. -/
def isLeapYear (y : Nat) : Bool := (y % 4 == 0 && y % 100 != 0) || y % 400 == 0

/-- The number of days of a month. -/
def daysInMonth (y m : Nat) : Nat :=
  if m = 2 then (if isLeapYear y then 29 else 28)
  else if m = 4 ∨ m = 6 ∨ m = 9 ∨ m = 11 then 30 else 31

/-- Digits of a number, filled up with zeros to a width. -/
def zeroPadded (width n : Nat) : String :=
  let ds := Nat.repr n
  String.ofList (List.replicate (width - ds.length) '0') ++ ds

namespace Date

/-- Why three numbers are no day. -/
inductive Problem where
  | year (y : Nat)
  | month
  | day
  deriving DecidableEq, Repr

/-- The wording of a problem. -/
def Problem.message : Problem → String
  | .year y => s!"year {y} is out of range"
  | .month => "month must be in 1..12"
  | .day => "day is out of range for month"

/-- The day with the given numbers, if there is one; the year is looked at first. -/
def ofNumbers (y m d : Nat) : Except Problem Date :=
  if y < 1 ∨ 9999 < y then .error (.year y)
  else if m < 1 ∨ 12 < m then .error .month
  else if d < 1 ∨ daysInMonth y m < d then .error .day
  else .ok ⟨y, m, d⟩

/-- `YYYY-MM-DD`. -/
def text (d : Date) : String :=
  zeroPadded 4 d.year ++ "-" ++ zeroPadded 2 d.month ++ "-" ++ zeroPadded 2 d.day

/-- The day that lies `n` days after 1970-01-01. Years are counted from 1 March, so that a leap
day is the last of its year, in eras of four hundred years. -/
def ofDayNumber (n : Int) : Date :=
  let z := n + 719468
  let era := z.fdiv 146097
  let doe := (z - era * 146097).toNat
  let yoe := (doe - doe / 1460 + doe / 36524 - doe / 146096) / 365
  let doy := doe - (365 * yoe + yoe / 4 - yoe / 100)
  let mp := (5 * doy + 2) / 153
  let d := doy - (153 * mp + 2) / 5 + 1
  let m := if mp < 10 then mp + 3 else mp - 9
  let y := (yoe : Int) + era * 400 + (if m ≤ 2 then 1 else 0)
  ⟨y.toNat, m, d⟩

/-- The number of days from 1970-01-01 to a day. -/
def dayNumber (d : Date) : Int :=
  let y : Int := (d.year : Int) - (if d.month ≤ 2 then 1 else 0)
  let era := y.fdiv 400
  let yoe := y - era * 400
  let mp : Int := if 2 < d.month then (d.month : Int) - 3 else (d.month : Int) + 9
  let doy := (153 * mp + 2).fdiv 5 + (d.day : Int) - 1
  era * 146097 + (yoe * 365 + yoe.fdiv 4 - yoe.fdiv 100 + doy) - 719468

end Date

/-- An instant: microseconds since the start of 1970 in universal time. -/
structure Instant where
  microseconds : Int
  deriving DecidableEq, Repr, Inhabited

namespace Instant

/-- The start of year 1. -/
def first : Instant := ⟨-62135596800000000⟩

/-- The start of year 10000, the first instant that cannot be written. -/
def limit : Instant := ⟨253402300800000000⟩

/-- Whether the year of an instant is 1 to 9999. -/
def isWritable (t : Instant) : Bool :=
  first.microseconds ≤ t.microseconds && t.microseconds < limit.microseconds

/-- The time of day `HH:MM:SS`, with a fraction of six digits unless it is zero. -/
def clockText (seconds micros : Nat) : String :=
  zeroPadded 2 (seconds / 3600) ++ ":" ++ zeroPadded 2 (seconds / 60 % 60) ++ ":" ++
    zeroPadded 2 (seconds % 60) ++ (if micros = 0 then "" else "." ++ zeroPadded 6 micros)

/-- `YYYY-MM-DDTHH:MM:SS[.ffffff]`. -/
def text (t : Instant) : String :=
  let day := t.microseconds.fdiv 86400000000
  let rest := (t.microseconds - day * 86400000000).toNat
  (Date.ofDayNumber day).text ++ "T" ++ clockText (rest / 1000000) (rest % 1000000)

end Instant

/-- A date with a time of day, as a document writes it; `offset` is the distance from universal
time in minutes, if one is written. -/
structure Timestamp where
  date : Date
  hour : Nat
  minute : Nat
  second : Nat
  microsecond : Nat
  offset : Option Int
  deriving DecidableEq, Repr

namespace Timestamp

/-- Why numbers are no date with a time of day. -/
inductive Problem where
  | date (p : Date.Problem)
  | hour
  | minute
  | second
  /-- The distance from universal time is a day or more. -/
  | offset (minutes : Int)
  deriving DecidableEq, Repr

/-- The moment with the given numbers, if there is one; the distance from universal time is looked
at first, then the day, then the time of day. -/
def ofNumbers (y mo d h mi s us : Nat) (offset : Option Int) : Except Problem Timestamp :=
  if offset.any fun o => 1440 ≤ o.natAbs then .error (.offset (offset.getD 0))
  else match Date.ofNumbers y mo d with
    | .error p => .error (.date p)
    | .ok date =>
      if 23 < h then .error .hour
      else if 59 < mi then .error .minute
      else if 59 < s then .error .second
      else .ok ⟨date, h, mi, s, us, offset⟩

/-- The microseconds from the start of 1970 to the moment, as if it were written in universal time. -/
def written (t : Timestamp) : Int :=
  ((t.date.dayNumber * 1440 + t.hour * 60 + t.minute) * 60 + t.second) * 1000000 + t.microsecond

/-- The instant that a moment is, if it has a distance from universal time. -/
def instant? (t : Timestamp) : Option Instant :=
  t.offset.map fun o => ⟨t.written - o * 60000000⟩

/-- Whether two moments are the same: the same instant, or both without a distance from universal
time and written alike. -/
def equals (t u : Timestamp) : Bool :=
  match t.instant?, u.instant? with
  | some i, some j => decide (i = j)
  | none, none => decide (t.written = u.written)
  | _, _ => false

/-- The time of day with its fraction. -/
def clock (t : Timestamp) : String :=
  Instant.clockText (t.hour * 3600 + t.minute * 60 + t.second) t.microsecond

/-- `YYYY-MM-DD HH:MM:SS[.ffffff][±HH:MM]` with the given mark between day and time. -/
def text (separator : String) (t : Timestamp) : String :=
  let zone := match t.offset with
    | none => ""
    | some o => (if o < 0 then "-" else "+") ++ zeroPadded 2 (o.natAbs / 60) ++ ":" ++
        zeroPadded 2 (o.natAbs % 60)
  t.date.text ++ separator ++ t.clock ++ zone

end Timestamp

end TransferBucket
