import SalonBooking.Reservation.Status
import SalonBooking.Selection
import SalonBooking.Calendar.DateTime
import SalonBooking.Json

/-!
Reservations. A reservation books one practitioner for a wall-clock slot of one
day in its store's zone; it also keeps the absolute UTC period of that slot, which
is what overlaps are checked on. Names, prices and the chosen menus and options are
copies taken when it was written. A draft is what a caller asks to write.
-/

namespace SalonBooking

open SalonBooking.Calendar

/-- A stored reservation. -/
structure Reservation where
  id : Uuid
  tenant : Uuid
  store : Option Uuid
  customer : Uuid
  customerName : Option String
  customerPhone : Option String
  practitioner : Uuid
  practitionerName : Option String
  date : Date
  start : TimeOfDay
  stop : TimeOfDay
  /-- Start of the absolute period, in UTC. -/
  periodStart : DateTime
  /-- End of the absolute period, in UTC; the period is half-open. -/
  periodEnd : DateTime
  timezone : String
  subtotal : Int
  optionTotal : Int
  nominationFee : Int
  discount : Int
  totalPrice : Int
  duration : Int
  status : Status
  source : Option String
  customerNote : Option String
  staffNote : Option String
  canceledAt : Option DateTime
  cancelReason : Option String
  reminderSentAt : Option DateTime
  googleCalendarId : Option String
  googleCalendarEventId : Option String
  externalReservationId : Option String
  idempotencyKey : Option String
  createdAt : DateTime
  updatedAt : DateTime
  menuItems : List MenuLine
  optionItems : List OptionLine

/-- What a caller asks to write. The status is text, read when the draft is
written; a draft without a customer cannot be stored. -/
structure Draft where
  practitioner : Uuid
  customer : Option Uuid
  date : Date
  start : TimeOfDay
  stop : TimeOfDay
  /-- The UTC offset in seconds the start was given with, if any. -/
  startOffset : Option Int := none
  items : Option Selection := none
  store : Option Uuid := none
  practitionerName : Option String := none
  customerName : Option String := none
  customerPhone : Option String := none
  nominationFee : Int := 0
  discount : Int := 0
  totalPrice : Option Int := none
  status : String := "pending"
  source : Option String := some "line"
  customerNote : Option String := none
  staffNote : Option String := none
  googleCalendarId : Option String := none
  googleCalendarEventId : Option String := none
  externalReservationId : Option String := none
  idempotencyKey : Option String := none

namespace Reservation

/-- Whether the reservation holds its practitioner's time. -/
def isActive (r : Reservation) : Bool := r.status.holdsTime

/-- Whether the reservation's period shares an instant with `[a, b)`. -/
def overlaps (r : Reservation) (a b : DateTime) : Bool :=
  decide (r.periodStart < b) && decide (a < r.periodEnd)

/-- The menu lines in their order. -/
def sortedMenus (r : Reservation) : List MenuLine :=
  r.menuItems.mergeSort fun a b => decide (a.sortOrder ≤ b.sortOrder)

/-- A small view of the reservation kept in the audit trail. -/
def summary (r : Reservation) : Json :=
  .obj [("status", .str r.status.name), ("date", .str r.date.iso),
    ("start_time", .str r.start.hhmm), ("end_time", .str r.stop.hhmm),
    ("practitioner_id", .str r.practitioner.text),
    ("store_id", Json.ofString? (r.store.map Uuid.text)),
    ("total_price", .int r.totalPrice),
    ("menu_ids", .arr (r.sortedMenus.map fun m => .str m.menu.text))]

end Reservation

end SalonBooking
