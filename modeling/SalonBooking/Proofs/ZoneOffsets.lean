import SalonBooking.Zone.Convert
import SalonBooking.Proofs.Instants

/-!
Zones within a day of UTC. A zone is within a day of UTC when every type it lists and every
type its rule gives is less than a day from UTC; the catalog's zones all are (checked with
the catalog's other properties). Every type a conversion takes is one of these, or the zero
type that stands in for a missing one, so converting either way moves an instant by less
than a day. A reading with a day of the calendar on each side of it converts to an instant
of the calendar, and one with two days on each side converts there and back.
-/

namespace SalonBooking.Calendar.DateTime

/-- The calendar holds every count within `k` days of `n`. -/
def DaysInside (k : Nat) (n : Int) : Prop :=
  InCalendar (n - k * microsPerDay) ∧ InCalendar (n + k * microsPerDay)

-- the bounds are linear in the day count once the calendar's constants are numerals
theorem DaysInside.inCalendar {k : Nat} {n : Int} (h : DaysInside k n) : InCalendar n := by
  simp only [DaysInside, InCalendar, microsPerDay, epochDayNumber, lastDayNumber] at h ⊢
  omega

/-- Moving less than a day gives up at most one day of room. -/
theorem DaysInside.add {k : Nat} {n us : Int} (h : DaysInside (k + 1) n)
    (hus : us.natAbs < microsPerDay) : DaysInside k (n + us) := by
  simp only [DaysInside, InCalendar, microsPerDay, epochDayNumber, lastDayNumber] at h hus ⊢
  omega

/-- A date-time with `k + 1` days of the calendar on each side of it can be moved by less
than a day, keeping `k` days on each side. -/
theorem shift_of_daysInside {k : Nat} {t : DateTime} {us : Int} (h : DaysInside (k + 1) t.toMicros)
    (hus : us.natAbs < microsPerDay) : ∃ u, t.shift us = .ok u ∧ DaysInside k u.toMicros := by
  obtain ⟨u, hu⟩ := exists_toMicros_iff.mpr (h.add hus).inCalendar
  exact ⟨u, shift_eq_ok_iff.mpr hu, hu ▸ h.add hus⟩

/-- A reading on a day with `k` days of the calendar before and after it. -/
theorem daysInside_of_date {d : Date} {k : Nat} (hlo : k < d.dayNumber)
    (hhi : d.dayNumber + k ≤ lastDayNumber) (t : TimeOfDay) :
    DaysInside k (⟨d, t⟩ : DateTime).toMicros := by
  have ht := t.lt_day
  simp only [DaysInside, InCalendar, toMicros, Date.epochDays, microsPerDay, lastDayNumber,
    epochDayNumber] at ht hhi ⊢
  omega

end SalonBooking.Calendar.DateTime

namespace SalonBooking.Zone

open SalonBooking.Calendar DateTime

/-- The local time types a rule gives. -/
def Rule.types : Rule → List LocalType
  | .fixed std => [std]
  | .seasonal std dst _ _ => [std, dst]

theorem Rule.atUtc_mem (r : Rule) (t : Int) (year : Nat) : r.atUtc t year ∈ r.types := by
  cases r with
  | fixed std => simp [atUtc, types]
  | seasonal std dst s e =>
    simp only [atUtc, types]
    split <;> simp

theorem Rule.atLocal_mem (r : Rule) (t : Int) (year : Nat) : r.atLocal t year ∈ r.types := by
  cases r with
  | fixed std => simp [atLocal, types]
  | seasonal std dst s e =>
    -- the sign of the saving moves the season's ends; either way the type is one of the two
    simp only [atLocal, types]
    split <;> split <;> simp

namespace ZoneData

/-- Whether every type the zone lists or its rule gives is less than a day from UTC. -/
def withinADay (z : ZoneData) : Bool :=
  (z.types ++ z.rule.types).all fun ty => ty.offset.natAbs < 86400

variable {z : ZoneData}

theorem offset_lt_of_mem (h : z.withinADay = true) {ty : LocalType}
    (hty : ty ∈ z.types ++ z.rule.types) : ty.offset.natAbs < 86400 := by
  simpa using List.all_eq_true.mp h ty hty

theorem typeAt_offset_lt (h : z.withinADay = true) (i : Nat) : (z.typeAt i).offset.natAbs < 86400 := by
  unfold typeAt
  rw [List.getD_eq_getElem?_getD]
  cases hi : z.types[i]? with
  | none => simp
  | some ty => exact offset_lt_of_mem h (List.mem_append_left _ (List.mem_of_getElem? hi))

theorem typeBefore_offset_lt (h : z.withinADay = true) : z.typeBefore.offset.natAbs < 86400 := by
  unfold typeBefore
  split
  · next ty hty => exact offset_lt_of_mem h (List.mem_append_left _ (List.mem_of_find?_eq_some hty))
  · exact typeAt_offset_lt h 0

/-- Among listed changes, the type taken is a listed one, the type before them, or the
rule's. -/
theorem typeAmong_offset_lt (h : z.withinADay = true) (places : List (Int × Nat)) (t : Int)
    {byRule : Unit → LocalType} (hrule : (byRule ()).offset.natAbs < 86400) :
    (z.typeAmong places t byRule).offset.natAbs < 86400 := by
  unfold typeAmong
  split
  · exact hrule
  · split
    · exact typeBefore_offset_lt h
    · split
      · split
        · exact hrule
        · exact typeAt_offset_lt h _
      · exact hrule

theorem typeAtUtc_offset_lt (h : z.withinADay = true) (t : Int) (year : Nat) :
    (z.typeAtUtc t year).offset.natAbs < 86400 :=
  typeAmong_offset_lt h _ _
    (offset_lt_of_mem h (List.mem_append_right _ (z.rule.atUtc_mem t year)))

theorem typeAtWall_offset_lt (h : z.withinADay = true) (t : Int) (year : Nat) :
    (z.typeAtWall t year).offset.natAbs < 86400 :=
  typeAmong_offset_lt h _ _
    (offset_lt_of_mem h (List.mem_append_right _ (z.rule.atLocal_mem t year)))

/-- An offset of less than a day, counted in microseconds. -/
theorem micros_lt_of_offset_lt {off : Int} (h : off.natAbs < 86400) :
    (off * (microsPerSecond : Int)).natAbs < microsPerDay := by
  simp only [microsPerSecond, microsPerDay]
  omega

/-- A reading converts to UTC, giving up one day of room, in a zone within a day of UTC. -/
theorem toUtc_of_daysInside (h : z.withinADay = true) {k : Nat} {w : DateTime}
    (hw : DaysInside (k + 1) w.toMicros) : ∃ u, z.toUtc w = .ok u ∧ DaysInside k u.toMicros := by
  refine shift_of_daysInside hw ?_
  rw [Int.natAbs_neg]
  exact micros_lt_of_offset_lt (typeAtWall_offset_lt h w.epochSeconds w.year)

/-- An instant converts to the wall clock, giving up one day of room, in a zone within a
day of UTC. -/
theorem ofUtc_of_daysInside (h : z.withinADay = true) {k : Nat} {u : DateTime}
    (hu : DaysInside (k + 1) u.toMicros) : ∃ w, z.ofUtc u = .ok w ∧ DaysInside k w.toMicros :=
  shift_of_daysInside hu (micros_lt_of_offset_lt (typeAtUtc_offset_lt h u.epochSeconds u.year))

end ZoneData

end SalonBooking.Zone
