/-!
The lifecycle of a reservation. A reservation starts pending or confirmed; pending
may become confirmed, canceled or no-show; confirmed may become completed, canceled
or no-show. Completed, canceled and no-show are terminal. Canceled and no-show
reservations no longer hold their practitioner's time.
-/

namespace SalonBooking

/-- Status of a reservation. -/
inductive Status where
  | pending
  | confirmed
  | completed
  | canceled
  | noShow
  deriving DecidableEq, Repr, Inhabited

namespace Status

/-- Every status, in the order the service lists them. -/
def all : List Status := [.pending, .confirmed, .completed, .canceled, .noShow]

/-- The stored name of a status. -/
def name : Status → String
  | .pending => "pending"
  | .confirmed => "confirmed"
  | .completed => "completed"
  | .canceled => "canceled"
  | .noShow => "no_show"

/-- The status with stored name `s`. -/
def ofName? (s : String) : Option Status := all.find? (·.name == s)

/-- No transition leaves a terminal status. -/
def isTerminal : Status → Bool
  | .completed | .canceled | .noShow => true
  | _ => false

/-- A reservation is created pending or confirmed. -/
def isInitial : Status → Bool
  | .pending | .confirmed => true
  | _ => false

/-- Whether a reservation in this status holds its practitioner's time. -/
def holdsTime : Status → Bool
  | .canceled | .noShow => false
  | _ => true

/-- The transitions a reservation may take. -/
def allows : Status → Status → Bool
  | .pending, .confirmed | .pending, .canceled | .pending, .noShow => true
  | .confirmed, .completed | .confirmed, .canceled | .confirmed, .noShow => true
  | _, _ => false

end Status

end SalonBooking
