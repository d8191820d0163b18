import SalonBooking.Error
import SalonBooking.Zone.Catalog
import SalonBooking.Zone.Convert

/-!
A store's booking policy and the checks made with it. Every wall-clock value is
read in the store's zone: a slot's period is the UTC interval of its start and end,
a wall-clock time that the zone skips is refused, and an ambiguous one is read as
its first occurrence. The booking window ends `advanceBookingDays` after today's
date in the zone; cancellation closes `cancelDeadlineHours` hours of absolute time
before the start. A window or deadline of zero or less is no restriction.
-/

namespace SalonBooking

open SalonBooking.Calendar SalonBooking.Zone

/-- The booking policy of one store. -/
structure StorePolicy where
  timezone : String
  slotDuration : Int
  advanceBookingDays : Int
  cancelDeadlineHours : Int
  deriving DecidableEq, Repr

namespace Policy

/-- The zone named `name`; refused when no zone of that name can be loaded. -/
def zone (name : String) : Except Fault ZoneData :=
  match Zone.load? name with
  | some z => .ok z
  | none => .error (.invalid (.unknownTimezone name))

/-- The UTC instant at which the wall clock of zone `tz` reads `d` at `t`. A reading
the zone skips is refused; of two readings the first is taken. -/
def localToUtc (d : Date) (t : TimeOfDay) (tz : String) : Except Fault DateTime := do
  let z ← zone tz
  let wall : DateTime := ⟨d, t⟩
  let utc ← liftRange (z.toUtc wall)
  let back ← liftRange (z.ofUtc utc)
  if back = wall then pure utc else throw (.invalid (.nonexistentTime d t tz))

/-- The UTC period `[start, stop)` of a slot on day `d` in zone `tz`; the end must be
after the start. -/
def localPeriod (d : Date) (start stop : TimeOfDay) (tz : String) :
    Except Fault (DateTime × DateTime) := do
  if stop ≤ start then throw (.invalid (.endNotAfterStart start stop))
  let a ← localToUtc d start tz
  let b ← localToUtc d stop tz
  if b ≤ a then throw (.invalid (.endNotAfterStart start stop))
  pure (a, b)

/-- The UTC period of a slot whose start and end were given as clock readings. The
readings must have an order and the end must come after the start; the offsets play
no further part, both times being read on the zone's wall clock. Without offsets this
is `localPeriod`. -/
def readingPeriod (d : Date) (start stop : ClockReading) (tz : String) :
    Except Fault (DateTime × DateTime) := do
  match stop.le? start with
  | none => throw .clockMismatch
  | some true => throw (.invalid (.endNotAfterStart start.time stop.time))
  | some false =>
    let a ← localToUtc d start.time tz
    let b ← localToUtc d stop.time tz
    if b ≤ a then throw (.invalid (.endNotAfterStart start.time stop.time))
    pure (a, b)

/-- Today's date in the policy's zone at instant `now`. -/
def localToday (p : StorePolicy) (now : Stamp) : Except Fault Date := do
  let z ← zone p.timezone
  let utc ← liftRange now.toUtc
  let wall ← liftRange (z.ofUtc utc)
  pure wall.date

/-- Refuses a date after the last bookable date, `advanceBookingDays` after today. -/
def checkBookingWindow (target : Date) (p : StorePolicy) (now : Stamp) : Except Fault Unit := do
  if p.advanceBookingDays ≤ 0 then return ()
  let today ← localToday p now
  let span ← liftRange (Span.ofDays p.advanceBookingDays)
  match today.addDays? (span.micros / (microsPerDay : Int)) with
  | none => throw (.range .outsideCalendar)
  | some limit =>
    if limit < target then throw (.invalid (.beyondBookingWindow p.advanceBookingDays target limit))

/-- The instant at which cancellation closes: `cancelDeadlineHours` hours of absolute
time before the start of the slot. -/
def cancelCutoff (d : Date) (t : TimeOfDay) (p : StorePolicy) : Except Fault DateTime := do
  let z ← zone p.timezone
  let start ← liftRange (z.toUtc ⟨d, t⟩)
  let span ← liftRange (Span.ofHours p.cancelDeadlineHours)
  liftRange (start.shift (-span.micros))

/-- Refuses a cancellation at or after the cutoff. -/
def checkCancelDeadline (d : Date) (t : TimeOfDay) (p : StorePolicy) (now : Stamp) :
    Except Fault Unit := do
  if p.cancelDeadlineHours ≤ 0 then return ()
  let cutoff ← cancelCutoff d t p
  if cutoff.toMicros ≤ now.utcMicros then
    throw (.invalid (.pastCancelDeadline p.cancelDeadlineHours cutoff))

/-- The wall-clock end of a slot of `minutes` minutes from `start`, whose seconds are
dropped; the slot must last, and must end before midnight. -/
def slotEnd (start : TimeOfDay) (minutes : Int) : Except Fault TimeOfDay :=
  if minutes ≤ 0 then .error (.invalid (.durationNotPositive minutes))
  else
    let stop := (start.minuteOfDay : Int) + minutes
    if stop ≥ 1440 then .error (.invalid (.endsAfterMidnight start minutes))
    else match TimeOfDay.ofParts? (stop.toNat / 60) (stop.toNat % 60) 0 0 with
      | some t => .ok t
      | none => .error (.invalid (.endsAfterMidnight start minutes))

end Policy

end SalonBooking
