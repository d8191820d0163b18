import SalonBooking.Uuid
import SalonBooking.Calendar.DateTime

/-!
Booking links: a token that takes a customer straight to one practitioner's
booking page, optionally for one store. A link is active until it is revoked, and
is usable while it has not expired.
-/

namespace SalonBooking

open SalonBooking.Calendar

/-- A booking link. -/
structure BookingLink where
  id : Uuid
  tenant : Uuid
  store : Option Uuid
  practitioner : Uuid
  token : String
  /-- `active` or `revoked`. -/
  status : String
  createdBy : String
  createdAt : DateTime
  lastUsedAt : Option DateTime
  expiresAt : Option DateTime

namespace BookingLink

def isActive (l : BookingLink) : Bool := l.status == "active"

/-- Whether the link belongs to the scope of a practitioner and a store, where no
store is a scope of its own. -/
def inScope (l : BookingLink) (tenant practitioner : Uuid) (store : Option Uuid) : Bool :=
  l.tenant == tenant && l.practitioner == practitioner && l.store == store

end BookingLink

end SalonBooking
