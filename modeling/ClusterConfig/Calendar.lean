/-!
# Days and times

Dates of the Gregorian calendar and times of day with an optional distance from universal time.

Main definitions:

- `Day.ofParts?`: a day, refused if the calendar has no such day.
- `Moment.ofParts?`: a time on a day, refused if the clock has no such time.
- `Moment.sameTime`: whether two moments are the same.
-/

namespace ClusterConfig

/-- A day of the calendar. -/
structure Day where
  year : Nat
  month : Nat
  day : Nat
  deriving DecidableEq, Repr

namespace Day

/-- Whether a year has 366 days. -/
def isLeap (year : Nat) : Bool :=
  year % 4 == 0 && (year % 100 != 0 || year % 400 == 0)

/-- The number of days in a month. -/
def monthLength (year month : Nat) : Nat :=
  match month with
  | 2 => if isLeap year then 29 else 28
  | 4 | 6 | 9 | 11 => 30
  | _ => 31

/-- The day with the given parts: years run from 1 to 9999. -/
def ofParts? (year month day : Nat) : Option Day :=
  if 1 ≤ year ∧ year ≤ 9999 ∧ 1 ≤ month ∧ month ≤ 12 ∧ 1 ≤ day ∧ day ≤ monthLength year month then
    some ⟨year, month, day⟩
  else none

/-- The number of days before the given year, counted from the start of year 1. -/
def daysBeforeYear (year : Nat) : Nat :=
  let past := year - 1
  past * 365 + past / 4 - past / 100 + past / 400

/-- The number of days before the day, counted from the start of year 1. -/
def count (d : Day) : Nat :=
  let before :=
    (List.range (d.month - 1)).foldl (fun days m => days + monthLength d.year (m + 1)) 0
  daysBeforeYear d.year + before + (d.day - 1)

/-- The next day; there is none after the last day of year 9999. -/
def next? (d : Day) : Option Day :=
  if d.day < monthLength d.year d.month then some { d with day := d.day + 1 }
  else if d.month < 12 then some ⟨d.year, d.month + 1, 1⟩
  else if d.year < 9999 then some ⟨d.year + 1, 1, 1⟩
  else none

end Day

/-- A distance from universal time, in seconds east, with the name it was written with. -/
structure Zone where
  seconds : Int
  name : String
  deriving DecidableEq, Repr

/-- A time on a day, to the microsecond. -/
structure Moment where
  day : Day
  hour : Nat
  minute : Nat
  second : Nat
  micro : Nat
  zone : Option Zone
  deriving DecidableEq, Repr

namespace Moment

/-- The moment with the given parts. -/
def ofParts? (day : Day) (hour minute second micro : Nat) (zone : Option Zone) : Option Moment :=
  if hour < 24 ∧ minute < 60 ∧ second < 60 ∧ micro < 1000000 then
    some ⟨day, hour, minute, second, micro, zone⟩
  else none

/-- Microseconds since the start of year 1 by the moment's own clock. -/
def localMicros (m : Moment) : Int :=
  let seconds := m.day.count * 86400 + m.hour * 3600 + m.minute * 60 + m.second
  (seconds : Int) * 1000000 + m.micro

/-- Two moments are the same if they are the same instant, or, where neither names a zone, if they
show the same time. -/
def sameTime (a b : Moment) : Bool :=
  match a.zone, b.zone with
  | none, none => a.localMicros == b.localMicros
  | some x, some y =>
    a.localMicros - x.seconds * 1000000 == b.localMicros - y.seconds * 1000000
  | _, _ => false

/-- The moment one second later. -/
def nextSecond? (m : Moment) : Option Moment :=
  if m.second < 59 then some { m with second := m.second + 1 }
  else if m.minute < 59 then some { m with second := 0, minute := m.minute + 1 }
  else if m.hour < 23 then some { m with second := 0, minute := 0, hour := m.hour + 1 }
  else m.day.next?.map fun day => { m with second := 0, minute := 0, hour := 0, day }

end Moment

/-! ## Written forms -/

namespace Calendar

/-- A number with zeros in front, to the given width. -/
def padded (width n : Nat) : String :=
  let digits := Nat.toDigits 10 n
  String.ofList (List.replicate (width - digits.length) '0' ++ digits)

/-- A day, as year, month and day between hyphens. -/
def dayText (d : Day) : String :=
  padded 4 d.year ++ "-" ++ padded 2 d.month ++ "-" ++ padded 2 d.day

/-- A distance from universal time, as hours and minutes. -/
def zoneText (z : Zone) : String :=
  let minutes := z.seconds.natAbs / 60
  (if z.seconds < 0 then "-" else "+") ++ padded 2 (minutes / 60) ++ ":" ++ padded 2 (minutes % 60)

/-- A moment, as its day and its time, with microseconds only if there are any. -/
def momentText (m : Moment) : String :=
  dayText m.day ++ " " ++ padded 2 m.hour ++ ":" ++ padded 2 m.minute ++ ":" ++ padded 2 m.second ++
    (if m.micro = 0 then "" else "." ++ padded 6 m.micro) ++ (m.zone.map zoneText).getD ""

end Calendar

end ClusterConfig
