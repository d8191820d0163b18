import SalonBooking.Zone.Basic

/-!
Converting between UTC and the wall clock of a zone.

From UTC: the type in force is that of the last listed change at or before the
instant; before the first change it is the zone's first standard type, and after
the last change the zone's rule decides, evaluated in the instant's UTC year.

From the wall clock: each listed change is placed at its UTC second plus the
larger of the offsets before and after it, so that of two readings of one
wall-clock time the first is taken, and a skipped wall-clock time keeps the offset
in force before the change. After the last change the rule decides, evaluated in
the reading's own year.
-/

namespace SalonBooking.Zone

open SalonBooking.Calendar

namespace ZoneData

/-- Type number `i` of the zone. -/
def typeAt (z : ZoneData) (i : Nat) : LocalType := z.types.getD i ⟨0, false⟩

/-- The type before the first listed change: the first standard type, or else the
first type. -/
def typeBefore (z : ZoneData) : LocalType :=
  match z.types.find? (fun t => !t.isDst) with
  | some t => t
  | none => z.typeAt 0

/-- Wall-clock places of the listed changes, given the offset in force before the
first of them: each change's UTC second plus the larger offset around it. -/
def wallChanges (z : ZoneData) (before : Int) : List (Int × Nat) → List (Int × Nat)
  | [] => []
  | (t, i) :: rest =>
    let off := (z.typeAt i).offset
    (t + max before off, i) :: wallChanges z off rest

/-- The wall-clock places of the zone's listed changes; the offset of type 0 counts
as the one in force before the first change. -/
def wallBoundaries (z : ZoneData) : List (Int × Nat) :=
  z.wallChanges (z.typeAt 0).offset z.transitions

end ZoneData

/-- The type index of the last entry at or before second `t`, given the index found
so far. -/
def lastAtOrBefore (t : Int) (found : Nat) : List (Int × Nat) → Nat
  | [] => found
  | (s, i) :: rest => if s ≤ t then lastAtOrBefore t i rest else found

namespace ZoneData

/-- The type in force for a list of changes placed at `places`, at second `t`; the
rule decides after the last place. -/
def typeAmong (z : ZoneData) (places : List (Int × Nat)) (t : Int)
    (byRule : Unit → LocalType) : LocalType :=
  match places with
  | [] => byRule ()
  | (first, i) :: rest =>
    if t < first then z.typeBefore
    else
      match places.getLast? with
      | some (last, _) => if t > last then byRule () else z.typeAt (lastAtOrBefore t i rest)
      | none => byRule ()

/-- The type in force at UTC second `t` of UTC year `year`. -/
def typeAtUtc (z : ZoneData) (t : Int) (year : Nat) : LocalType :=
  z.typeAmong z.transitions t (fun _ => z.rule.atUtc t year)

/-- The type taken for wall-clock second `t` of a reading in year `year`. -/
def typeAtWall (z : ZoneData) (t : Int) (year : Nat) : LocalType :=
  z.typeAmong z.wallBoundaries t (fun _ => z.rule.atLocal t year)

/-- The UTC instant of wall-clock reading `w`, by the offset `typeAtWall` takes;
it must stay in the calendar. -/
def toUtc (z : ZoneData) (w : DateTime) : Except RangeError DateTime :=
  w.shift (-((z.typeAtWall w.epochSeconds w.year).offset * (microsPerSecond : Int)))

/-- The wall-clock reading of UTC instant `u`; it must stay in the calendar. -/
def ofUtc (z : ZoneData) (u : DateTime) : Except RangeError DateTime :=
  u.shift ((z.typeAtUtc u.epochSeconds u.year).offset * (microsPerSecond : Int))

end ZoneData

end SalonBooking.Zone
