import SalonBooking.Zone.Rule
import SalonBooking.Zone.Record
import SalonBooking.Zone.Data.Africa
import SalonBooking.Zone.Data.America
import SalonBooking.Zone.Data.Antarctica
import SalonBooking.Zone.Data.Asia
import SalonBooking.Zone.Data.Atlantic
import SalonBooking.Zone.Data.Australia
import SalonBooking.Zone.Data.Europe
import SalonBooking.Zone.Data.Indian
import SalonBooking.Zone.Data.Pacific
import SalonBooking.Zone.Data.Other
import SalonBooking.Zone.Data.Aliases

/-!
The zones that can be loaded by name. A name loads when it is the name of a
compiled zone or an alias of one; names are matched exactly, so paths that are
not in normal form (`./UTC`, `Asia//Tokyo`, `Asia/Tokyo/`), other case and
directory names load nothing.
-/

namespace SalonBooking.Zone

/-- Every compiled zone. -/
def allRecords : List ZoneRecord :=
  Data.africaZones ++ Data.americaZones ++ Data.antarcticaZones ++ Data.asiaZones ++
    Data.atlanticZones ++ Data.australiaZones ++ Data.europeZones ++ Data.indianZones ++
    Data.pacificZones ++ Data.otherZones

namespace Packed

/-- Reads `k` local time types, each an offset and a summer flag. -/
def types : Nat → List Nat → Option (List LocalType × List Nat)
  | 0, rest => some ([], rest)
  | k + 1, off :: dst :: rest => do
    let (ts, r) ← types k rest
    pure (⟨signed off, dst == 1⟩ :: ts, r)
  | _ + 1, _ => none

/-- Reads listed changes, each a gap in seconds after the previous change and a
type index. -/
def changes (prev : Int) : List Nat → List (Int × Nat)
  | gap :: idx :: rest => (prev + gap, idx) :: changes (prev + gap) rest
  | _ => []

end Packed

/-- The zone a record describes, if its numbers and rule text are well formed. A record without
rule text keeps its last type for good. -/
def ZoneRecord.data? (r : ZoneRecord) : Option ZoneData := do
  match r.packed with
  | [] => none
  | count :: rest =>
    let (types, rest) ← Packed.types count rest
    let transitions := match rest with
      | _ :: first :: idx :: more =>
        (Packed.signed first, idx) :: Packed.changes (Packed.signed first) more
      | _ => []
    let rule ← if r.ruleText.isEmpty then
        let last := match transitions.getLast? with
          | some (_, i) => i
          | none => types.length - 1
        (types[last]?).map Rule.fixed
      else Rule.ofText? r.ruleText
    pure ⟨types, transitions, rule⟩

/-- The zone loaded by `name`, if any. -/
def load? (name : String) : Option ZoneData :=
  let canonical := (Data.zoneAliases.lookup name).getD name
  match allRecords.find? (fun r => r.name == canonical) with
  | some r => r.data?
  | none => none

end SalonBooking.Zone
