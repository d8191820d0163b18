import SalonBooking.Error
import SalonBooking.Policy

/-!
The catalog of a salon business: the tenant, its stores with their booking
policies, its practitioners, customers, menus and menu options. Columns that may
be left unset are options; an unset flag counts as false.

A practitioner's store assignment is a free-form document: an empty one means the
practitioner works at every store, a list names the stores by their ids' text, and
an object by its keys.
-/

namespace SalonBooking

/-- A salon business. -/
structure Tenant where
  id : Uuid
  name : String
  slug : String
  status : Option String
  lineConfig : Json

/-- A store of a tenant, with its booking policy columns. -/
structure Store where
  id : Uuid
  tenant : Uuid
  name : String
  status : Option String
  timezone : Option String
  slotDuration : Option Int
  advanceBookingDays : Option Int
  cancelDeadlineHours : Option Int
  lineConfig : Json

/-- A staff member with a booking calendar of their own. -/
structure Practitioner where
  id : Uuid
  tenant : Uuid
  name : String
  isActive : Bool
  nominationFee : Option Int
  storeIds : Json
  lineConfig : Json

/-- A customer of a tenant. -/
structure Customer where
  id : Uuid
  tenant : Uuid
  name : String
  phone : Option String

/-- A bookable service. -/
structure Menu where
  id : Uuid
  tenant : Uuid
  name : String
  category : Option String
  price : Int
  duration : Int
  isActive : Bool
  sortOrder : Option Int

/-- An add-on that can go with any menu. -/
structure MenuOption where
  id : Uuid
  tenant : Uuid
  name : String
  price : Int
  duration : Option Int
  isActive : Bool

/-- The policy defaults for columns a store leaves unset. -/
def StorePolicy.defaults : StorePolicy :=
  { timezone := "Asia/Tokyo", slotDuration := 30, advanceBookingDays := 30,
    cancelDeadlineHours := 24 }

/-- A store's policy: unset columns, and an empty zone name, take the defaults. -/
def Store.policy (s : Store) : StorePolicy :=
  let d := StorePolicy.defaults
  { timezone := match s.timezone with
      | some z => if z.isEmpty then d.timezone else z
      | none => d.timezone
    slotDuration := s.slotDuration.getD d.slotDuration
    advanceBookingDays := s.advanceBookingDays.getD d.advanceBookingDays
    cancelDeadlineHours := s.cancelDeadlineHours.getD d.cancelDeadlineHours }

/-- The policy as a document. -/
def StorePolicy.toJson (p : StorePolicy) : Json :=
  .obj [("timezone", .str p.timezone), ("slot_duration", .int p.slotDuration),
    ("advance_booking_days", .int p.advanceBookingDays),
    ("cancel_deadline_hours", .int p.cancelDeadlineHours)]

/-- Whether a store's status is `active`. -/
def Store.isOpen (s : Store) : Bool := s.status == some "active"

/-- The texts a store assignment names, or the kind of a document that names
nothing in order. An empty document names no store. -/
def assignedStores (ids : Json) : Except Fault (List Json) :=
  if !ids.truthy then .ok []
  else match ids with
    | .arr xs => .ok xs
    | .obj fs => .ok (fs.map fun (k, _) => .str k)
    | .str s => .ok (s.toList.map fun c => .str (String.singleton c))
    | other => .error (.notIterable other.kindName)

/-- Whether a store assignment lets a practitioner work at `store`: an empty one
lets them work anywhere, otherwise the store's id text must be among the names. -/
def worksAt (ids : Json) (store : Uuid) : Except Fault Bool := do
  let names ← assignedStores ids
  pure (names.isEmpty || names.any fun
    | .str s => s == store.text
    | _ => false)

end SalonBooking
