import SalonBooking.Calendar.Date

/-!
Wall-clock times of one day, to the microsecond, held as microseconds since
midnight. A time prints in full as `HH:MM:SS`, with `.ffffff` only when it has
microseconds, and in messages as `HH:MM`.

A time a caller gives may come with a UTC offset. Two such readings order as instants
of one day when both have an offset, and as wall-clock times when neither has one or
both have the same; a reading with an offset and one without have no order.
-/

namespace SalonBooking.Calendar

def microsPerSecond : Nat := 1000000
def microsPerMinute : Nat := 60000000
def microsPerHour : Nat := 3600000000
def microsPerDay : Nat := 86400000000

/-- A wall-clock time of day. -/
structure TimeOfDay where
  micros : Nat
  lt_day : micros < microsPerDay

instance : DecidableEq TimeOfDay := fun a b =>
  if h : a.micros = b.micros then
    isTrue (by cases a; cases b; simp_all)
  else isFalse (fun e => h (e ▸ rfl))

instance : LT TimeOfDay := ⟨fun a b => a.micros < b.micros⟩
instance : LE TimeOfDay := ⟨fun a b => a.micros ≤ b.micros⟩
instance (a b : TimeOfDay) : Decidable (a < b) :=
  inferInstanceAs (Decidable (a.micros < b.micros))
instance (a b : TimeOfDay) : Decidable (a ≤ b) :=
  inferInstanceAs (Decidable (a.micros ≤ b.micros))

namespace TimeOfDay

def midnight : TimeOfDay := ⟨0, by decide⟩

/-- The time `n` microseconds after midnight, if that is within the day. -/
def ofMicros? (n : Int) : Option TimeOfDay :=
  if h : 0 ≤ n ∧ n < (microsPerDay : Int) then some ⟨n.toNat, by omega⟩ else none

/-- The time of an hour, minute, second and microsecond, if each is in range. -/
def ofParts? (h m s us : Nat) : Option TimeOfDay :=
  if h < 24 ∧ m < 60 ∧ s < 60 ∧ us < microsPerSecond then
    ofMicros? (h * microsPerHour + m * microsPerMinute + s * microsPerSecond + us)
  else none

def hour (t : TimeOfDay) : Nat := t.micros / microsPerHour
def minute (t : TimeOfDay) : Nat := t.micros / microsPerMinute % 60
def second (t : TimeOfDay) : Nat := t.micros / microsPerSecond % 60
def microsecond (t : TimeOfDay) : Nat := t.micros % microsPerSecond

/-- Minutes since midnight, seconds and microseconds dropped. -/
def minuteOfDay (t : TimeOfDay) : Nat := t.micros / microsPerMinute

/-- The form `HH:MM` used in messages; seconds are not shown. -/
def hhmm (t : TimeOfDay) : String := padNat 2 t.hour ++ ":" ++ padNat 2 t.minute

/-- The full form `HH:MM:SS`, with `.ffffff` when there are microseconds. -/
def iso (t : TimeOfDay) : String :=
  let base := t.hhmm ++ ":" ++ padNat 2 t.second
  if t.microsecond = 0 then base else base ++ "." ++ padNat 6 t.microsecond

end TimeOfDay

/-- A time of day as a caller gave it, with its UTC offset in seconds when it had one. -/
structure ClockReading where
  time : TimeOfDay
  offset : Option Int := none
  deriving DecidableEq

namespace ClockReading

/-- Seconds since midnight, less the offset: the reading's second of the UTC day. -/
def utcSecond (r : ClockReading) (offset : Int) : Int :=
  ((r.time.micros / microsPerSecond : Nat) : Int) - offset

/-- Whether reading `a` is at or before reading `b`, or `none` when only one of them
has an offset. Readings with different offsets compare by their UTC second, then by
the microsecond. -/
def le? (a b : ClockReading) : Option Bool :=
  match a.offset, b.offset with
  | none, none => some (decide (a.time ≤ b.time))
  | some x, some y =>
    if x = y then some (decide (a.time ≤ b.time))
    else
      let sa := a.utcSecond x
      let sb := b.utcSecond y
      some (decide (sa < sb) || (decide (sa = sb) && decide (a.time.microsecond ≤ b.time.microsecond)))
  | _, _ => none

end ClockReading

end SalonBooking.Calendar
