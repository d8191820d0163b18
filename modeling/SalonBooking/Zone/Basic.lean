import SalonBooking.Calendar.DateTime

/-!
Zones of the time zone database. A zone lists its local time types (offset from
UTC and whether it is summer time), the UTC instants at which it changes type, and
a rule for every instant after the last listed change. The rule is either one fixed
type, or a standard and a summer type with the yearly days and times at which
summer time starts and ends, in the local time in force just before each change.
-/

namespace SalonBooking.Zone

open SalonBooking.Calendar

/-- A local time type: its offset east of UTC in seconds, and whether it is summer time. -/
structure LocalType where
  offset : Int
  isDst : Bool
  deriving DecidableEq, Repr

/-- The day of a yearly change. -/
inductive DayRule where
  /-- Weekday `weekday` (0 = Sunday) of week `week` of month `month`; week 5 is the last. -/
  | monthWeek (month week weekday : Nat)
  /-- Day `n` from 1 to 365, February 29 never counted. -/
  | julian (n : Nat)
  /-- Day `n` from 0 to 365, February 29 counted; day `n` falls `n` days after the
  last day of the previous year. -/
  | zeroBased (n : Nat)
  deriving DecidableEq, Repr

/-- A yearly change: its day, and its time of day in seconds, which may be negative
or run past midnight into the next days. -/
structure Boundary where
  day : DayRule
  seconds : Int
  deriving DecidableEq, Repr

/-- How a zone behaves after its last listed change. -/
inductive Rule where
  | fixed (std : LocalType)
  | seasonal (std dst : LocalType) (dstStart dstEnd : Boundary)
  deriving DecidableEq, Repr

/-- A zone: its local time types, its listed changes as (UTC second, type index),
in increasing order of time, and its rule for later instants. -/
structure ZoneData where
  types : List LocalType
  transitions : List (Int × Nat)
  rule : Rule
  deriving Repr

/-- Days since 1970-01-01 of the last day of the year before `year`. -/
def lastDayBefore (year : Nat) : Int :=
  (daysBeforeYear year : Int) - epochDayNumber

namespace DayRule

/-- Days since 1970-01-01 of the day of the change in `year`. -/
def epochDay (r : DayRule) (year : Nat) : Int :=
  match r with
  | .monthWeek m w wd =>
    let firstWeekday := (dayNumberOf year m 1 + 6) % 7
    let first := (wd + 7 * 7 - (firstWeekday + 1)) % 7 + 1
    let nth := first + (w - 1) * 7
    let day := if nth > daysInMonth year m then nth - 7 else nth
    lastDayBefore year + daysBeforeMonth year m + day
  | .julian n =>
    let n := if n ≥ 59 ∧ isLeapYear year then n + 1 else n
    lastDayBefore year + n
  | .zeroBased n => lastDayBefore year + n

end DayRule

/-- Seconds since 1970-01-01 of the change in `year`, in the local time in force
before it. -/
def Boundary.at (b : Boundary) (year : Nat) : Int :=
  b.day.epochDay year * 86400 + b.seconds

/-- Summer time holds on `[start, stop)`; when the interval wraps past the end of
the year (`stop ≤ start`), it holds outside `[stop, start)`. -/
def inSeason (start stop t : Int) : Bool :=
  if start < stop then start ≤ t ∧ t < stop else !(stop ≤ t ∧ t < start)

namespace Rule

/-- The type in force at local second `t` of a reading in year `year`. Of two
readings of one wall-clock time, the first is taken: with positive summer time
the season starts one saving later in wall time, with negative summer time it
ends one saving later. -/
def atLocal (r : Rule) (t : Int) (year : Nat) : LocalType :=
  match r with
  | .fixed std => std
  | .seasonal std dst s e =>
    let saving := dst.offset - std.offset
    let start := s.at year
    let stop := e.at year
    let (start, stop) := if saving ≥ 0 then (start + saving, stop) else (start, stop - saving)
    if inSeason start stop t then dst else std

/-- The type in force at UTC second `t` of an instant in UTC year `year`. -/
def atUtc (r : Rule) (t : Int) (year : Nat) : LocalType :=
  match r with
  | .fixed std => std
  | .seasonal std dst s e =>
    let start := s.at year - std.offset
    let stop := e.at year - dst.offset
    if inSeason start stop t then dst else std

end Rule

end SalonBooking.Zone
