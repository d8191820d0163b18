import SalonBooking.Json
import SalonBooking.Uuid
import SalonBooking.Calendar.DateTime

/-!
The audit trail: who changed what. Each entry names the actor, the action, the
record acted on and what it looked like before and after.
-/

namespace SalonBooking

open SalonBooking.Calendar

/-- Who performs a change. -/
structure Actor where
  /-- `admin`, `customer` or `system`. -/
  kind : String
  id : Option String := none
  name : Option String := none
  ipAddress : Option String := none
  userAgent : Option String := none
  deriving Repr

/-- One entry of the audit trail. -/
structure AuditEntry where
  id : Uuid
  tenant : Uuid
  actor : Actor
  action : String
  resourceType : String
  resource : Option Uuid
  before : Json
  after : Json
  createdAt : DateTime

end SalonBooking
