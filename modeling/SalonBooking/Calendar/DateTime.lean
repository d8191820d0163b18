import SalonBooking.Calendar.Time

/-!
Date-times without a zone (read as UTC where the library stores instants), clock
readings that may carry their own offset from UTC, and spans of time. Every
computation that leaves the calendar's range, or builds a span longer than the
calendar's arithmetic allows, is a `RangeError` with the text that callers see.
-/

namespace SalonBooking.Calendar

/-- Ways a computation on dates and times leaves what the calendar can hold. -/
inductive RangeError where
  /-- A result before 0001-01-01 or after 9999-12-31. -/
  | outsideCalendar
  /-- A span of more than 999999999 days either way. -/
  | spanTooLong (days : Int)
  /-- A span whose day count does not fit in a signed 32-bit word. -/
  | spanUnrepresentable
  deriving DecidableEq, Repr

/-- The text of each range error. -/
def RangeError.message : RangeError → String
  | .outsideCalendar => "date value out of range"
  | .spanTooLong days => "days=" ++ toString days ++ "; must have magnitude <= 999999999"
  | .spanUnrepresentable => "Python int too large to convert to C int"

/-- A span of time, in microseconds; its whole days stay within 999999999 either way. -/
structure Span where
  micros : Int
  deriving DecidableEq, Repr

namespace Span

/-- The span of `us` microseconds. Its day count, rounded down, must fit in a signed
32-bit word and then lie within 999999999 either way. -/
def ofMicros (us : Int) : Except RangeError Span :=
  let days := us / (microsPerDay : Int)
  if days > 2147483647 ∨ days < -2147483648 then .error .spanUnrepresentable
  else if days > 999999999 ∨ days < -999999999 then .error (.spanTooLong days)
  else .ok ⟨us⟩

def ofDays (k : Int) : Except RangeError Span := ofMicros (k * microsPerDay)

def ofHours (k : Int) : Except RangeError Span := ofMicros (k * microsPerHour)

end Span

/-- A date and a wall-clock time, with no zone. -/
structure DateTime where
  date : Date
  time : TimeOfDay
  deriving DecidableEq

namespace DateTime

/-- Microseconds since 1970-01-01T00:00:00, negative before it. -/
def toMicros (t : DateTime) : Int :=
  t.date.epochDays * (microsPerDay : Int) + t.time.micros

/-- Whole seconds since 1970-01-01T00:00:00, rounded down. -/
def epochSeconds (t : DateTime) : Int := t.toMicros / (microsPerSecond : Int)

/-- The date-time `us` microseconds after 1970-01-01T00:00:00, if it is in the calendar. -/
def ofMicros? (us : Int) : Option DateTime :=
  match Date.ofDayNumber? (us / (microsPerDay : Int) + epochDayNumber),
      TimeOfDay.ofMicros? (us % (microsPerDay : Int)) with
  | some d, some t => some ⟨d, t⟩
  | _, _ => none

/-- The date-time `us` microseconds later, which must stay in the calendar. -/
def shift (t : DateTime) (us : Int) : Except RangeError DateTime :=
  match ofMicros? (t.toMicros + us) with
  | some r => .ok r
  | none => .error .outsideCalendar

def year (t : DateTime) : Nat := t.date.year

/-- The ISO form `YYYY-MM-DDTHH:MM:SS`, with `.ffffff` when there are microseconds. -/
def iso (t : DateTime) : String := t.date.iso ++ "T" ++ t.time.iso

/-- The ISO form of a UTC instant that says it is UTC: the suffix `+00:00`. -/
def isoUtc (t : DateTime) : String := t.iso ++ "+00:00"

end DateTime

instance : LT DateTime := ⟨fun a b => a.toMicros < b.toMicros⟩
instance : LE DateTime := ⟨fun a b => a.toMicros ≤ b.toMicros⟩
instance (a b : DateTime) : Decidable (a < b) :=
  inferInstanceAs (Decidable (a.toMicros < b.toMicros))
instance (a b : DateTime) : Decidable (a ≤ b) :=
  inferInstanceAs (Decidable (a.toMicros ≤ b.toMicros))

/-- A clock reading: a date-time and, if the reading states one, its offset east
of UTC in microseconds. -/
structure Stamp where
  wall : DateTime
  offset : Option Int
  deriving DecidableEq

namespace Stamp

/-- A reading that states no offset. -/
def naive (t : DateTime) : Stamp := ⟨t, none⟩

/-- Microseconds since the epoch of the instant read, a reading without offset
being taken as UTC. -/
def utcMicros (s : Stamp) : Int := s.wall.toMicros - s.offset.getD 0

/-- The UTC date-time of the instant read, a reading without offset being taken as
UTC; it must stay in the calendar. -/
def toUtc (s : Stamp) : Except RangeError DateTime := s.wall.shift (-(s.offset.getD 0))

/-- Offset text `+HH:MM`, with seconds and microseconds only when present. -/
def offsetText (off : Int) : String :=
  let sign := if off < 0 then "-" else "+"
  let a := off.natAbs
  let hh := a / microsPerHour
  let mm := a / microsPerMinute % 60
  let ss := a / microsPerSecond % 60
  let us := a % microsPerSecond
  let base := sign ++ padNat 2 hh ++ ":" ++ padNat 2 mm
  if ss = 0 ∧ us = 0 then base
  else if us = 0 then base ++ ":" ++ padNat 2 ss
  else base ++ ":" ++ padNat 2 ss ++ "." ++ padNat 6 us

/-- The ISO form of the reading, with its offset when it states one. -/
def iso (s : Stamp) : String :=
  match s.offset with
  | none => s.wall.iso
  | some off => s.wall.iso ++ offsetText off

end Stamp

end SalonBooking.Calendar
