import Cyclometry.Number.Decimal

/-!
# Dates and moments

Dates of the proleptic Gregorian calendar from year 1 to year 9999, and moments on such a date
with microseconds and an optional distance from universal time.
-/

namespace Cyclometry

/-- A calendar date. -/
structure Date where
  year : Nat
  month : Nat
  day : Nat
  deriving DecidableEq, Repr

namespace Date

/-- Every fourth year is a leap year, except three of four centuries. -/
def isLeap (year : Nat) : Bool := year % 4 == 0 && (year % 100 != 0 || year % 400 == 0)

/-- The number of days of a month. -/
def daysIn (year month : Nat) : Nat :=
  if month = 2 then (if isLeap year then 29 else 28)
  else if month ∈ [4, 6, 9, 11] then 30
  else 31

/-- The date, if the calendar has it. -/
def ofParts? (year month day : Nat) : Option Date :=
  if 1 ≤ year ∧ year ≤ 9999 ∧ 1 ≤ month ∧ month ≤ 12 ∧ 1 ≤ day ∧ day ≤ daysIn year month then
    some ⟨year, month, day⟩
  else none

/-- The number of days of the years before a year. -/
def daysBeforeYear (year : Nat) : Nat :=
  (year - 1) * 365 + (year - 1) / 4 - (year - 1) / 100 + (year - 1) / 400

/-- The number of days of a year before a month. -/
def daysBeforeMonth (year month : Nat) : Nat :=
  (List.range (month - 1)).foldl (fun days earlier => days + daysIn year (earlier + 1)) 0

/-- The number of a day, counted from the first one of the calendar. -/
def dayNumber (d : Date) : Nat :=
  daysBeforeYear d.year + daysBeforeMonth d.year d.month + d.day

/-- Year, month and day with dashes. -/
def text (d : Date) : String :=
  Decimal.padded 4 d.year ++ "-" ++ Decimal.padded 2 d.month ++ "-" ++ Decimal.padded 2 d.day

end Date

/-- A time on a date.  `offset` is the distance from universal time in minutes. -/
structure Moment where
  date : Date
  hour : Nat
  minute : Nat
  second : Nat
  microsecond : Nat
  offset : Option Int
  deriving DecidableEq, Repr

namespace Moment

/-- The moment, if the clock has it.  Offsets stay below a day. -/
def ofParts? (date : Date) (hour minute second microsecond : Nat) (offset : Option Int) :
    Option Moment :=
  if hour < 24 ∧ minute < 60 ∧ second < 60 ∧ (offset.getD 0).natAbs < 24 * 60 then
    some ⟨date, hour, minute, second, microsecond, offset⟩
  else none

/-- The time in universal time, in microseconds from the beginning of the calendar, if the
distance from universal time is known. -/
def instant? (m : Moment) : Option Int :=
  m.offset.map fun offset =>
    (((m.date.dayNumber * 24 + m.hour) * 60 + m.minute - offset) * 60 + m.second) * 1000000 +
      m.microsecond

/-- Two moments are the same time.  With a distance from universal time they are compared in
universal time, and they differ from all without one. -/
def sameTime (m n : Moment) : Bool :=
  match m.instant?, n.instant? with
  | some a, some b => a == b
  | none, none => m == n
  | _, _ => false

/-- The distance from universal time as hours and minutes with a sign. -/
def offsetText (minutes : Int) : String :=
  (if minutes < 0 then "-" else "+") ++ Decimal.padded 2 (minutes.natAbs / 60) ++ ":" ++
    Decimal.padded 2 (minutes.natAbs % 60)

/-- Date and time with `separator` between them; microseconds only if there are any. -/
def text (separator : String) (m : Moment) : String :=
  m.date.text ++ separator ++ Decimal.padded 2 m.hour ++ ":" ++ Decimal.padded 2 m.minute ++
    ":" ++ Decimal.padded 2 m.second ++
    (if m.microsecond = 0 then "" else "." ++ Decimal.padded 6 m.microsecond) ++
    (m.offset.map offsetText).getD ""

end Moment

end Cyclometry
