import SalonBooking.Calendar.DateTime
import SalonBooking.Json
import SalonBooking.Uuid
import SalonBooking.Reservation.Status

/-!
Why an operation fails. Booking errors are the refusals callers are meant to see,
each with a code, an HTTP status, a message and details; faults are everything
else an operation can end with: a date leaving the calendar, a value of the wrong
kind in a stored document, a write the storage rejects. Every text is written in
`message` and `details` only.
-/

namespace SalonBooking

open SalonBooking.Calendar

/-- Why a request is invalid. -/
inductive Invalid where
  | unknownTimezone (name : String)
  | nonexistentTime (date : Date) (time : TimeOfDay) (zone : String)
  | endNotAfterStart (start stop : TimeOfDay)
  | beyondBookingWindow (days : Int) (date limit : Date)
  | pastCancelDeadline (hours : Int) (cutoff : DateTime)
  | negativePrice (fields : List String)
  | discountExceedsPrice (subtotal optionTotal nominationFee discount : Int)
  | totalMismatch (subtotal optionTotal nominationFee discount total expected : Int)
  | menuRequired
  | cannotCreateAs (status : Status)
  | unknownStatus (text : String)
  | transitionRefused (current target : Status)
  | unsupportedSortField (field : String)
  | fieldRequired (field : String)
  | practitionerNotAtStore (practitioner store : Uuid)
  | noStoreConfigured (tenant : Uuid)
  | durationNotPositive (minutes : Int)
  | endsAfterMidnight (start : TimeOfDay) (minutes : Int)
  | expiryNotInFuture (expiresAt : DateTime)

/-- Kinds of records a lookup can miss. -/
inductive Resource where
  | reservation
  | practitioner
  | customer
  | menu
  | menuOption
  | store
  | bookingLink
  deriving DecidableEq, Repr

def Resource.name : Resource → String
  | .reservation => "Reservation"
  | .practitioner => "Practitioner"
  | .customer => "Customer"
  | .menu => "Menu"
  | .menuOption => "Menu option"
  | .store => "Store"
  | .bookingLink => "Booking link"

/-- Why a write clashes with what is already stored. -/
inductive Clash where
  | overlap (practitioner : Uuid)
  | linkStoreNotAssigned (practitioner store : Uuid)
  | activeLinkExists (practitioner : Uuid)

/-- A refusal the caller is meant to see. -/
inductive BookingError where
  | invalid (i : Invalid)
  | notFound (resource : Resource) (id : Option Uuid)
  | conflict (c : Clash)
  | terminal (current : Status) (requested : Option Status)

namespace Invalid

/-- The four price components as a document, in their fixed order. -/
def priceParts (subtotal optionTotal nominationFee discount : Int) : List (String × Json) :=
  [("subtotal", .int subtotal), ("option_total", .int optionTotal),
   ("nomination_fee", .int nominationFee), ("discount", .int discount)]

def message : Invalid → String
  | .unknownTimezone name => "Unknown timezone: " ++ name
  | .nonexistentTime d t z => t.hhmm ++ " does not exist on " ++ d.iso ++ " in " ++ z
  | .endNotAfterStart _ _ => "End time must be after start time"
  | .beyondBookingWindow days _ _ =>
    "Reservations are accepted up to " ++ toString days ++ " days in advance"
  | .pastCancelDeadline hours _ =>
    "Reservations can be canceled up to " ++ toString hours ++ " hours before the start time"
  | .negativePrice _ => "Price components must not be negative"
  | .discountExceedsPrice .. => "Discount exceeds the reservation price"
  | .totalMismatch .. =>
    "Total price does not match subtotal + option_total + nomination_fee - discount"
  | .menuRequired => "At least one menu is required"
  | .cannotCreateAs s => "A reservation cannot be created as " ++ s.name
  | .unknownStatus s => "Unknown reservation status: " ++ s
  | .transitionRefused c t => "Cannot change a " ++ c.name ++ " reservation to " ++ t.name
  | .unsupportedSortField f => "Unsupported sort field: " ++ f
  | .fieldRequired f => f ++ " is required"
  | .practitionerNotAtStore _ _ => "Practitioner is not assigned to this store"
  | .noStoreConfigured _ => "Tenant has no store configured"
  | .durationNotPositive _ => "Reservation duration must be positive"
  | .endsAfterMidnight _ _ => "Reservation must end on the same day"
  | .expiryNotInFuture _ => "expires_at must be in the future"

def details : Invalid → Json
  | .unknownTimezone name => .obj [("timezone", .str name)]
  | .nonexistentTime d t z => .obj [("date", .str d.iso), ("time", .str t.hhmm), ("timezone", .str z)]
  | .endNotAfterStart s e => .obj [("start_time", .str s.hhmm), ("end_time", .str e.hhmm)]
  | .beyondBookingWindow _ d l => .obj [("date", .str d.iso), ("last_bookable_date", .str l.iso)]
  | .pastCancelDeadline _ c => .obj [("cutoff", .str c.isoUtc)]
  | .negativePrice fs => .obj [("fields", .arr (fs.map .str))]
  | .discountExceedsPrice s o n d => .obj (priceParts s o n d)
  | .totalMismatch s o n d t e =>
    .obj (priceParts s o n d ++ [("total_price", .int t), ("expected_total", .int e)])
  | .menuRequired => .obj [("field", .str "menu_ids")]
  | .cannotCreateAs s => .obj [("status", .str s.name)]
  | .unknownStatus s => .obj [("status", .str s)]
  | .transitionRefused c t =>
    .obj [("current_status", .str c.name), ("requested_status", .str t.name)]
  | .unsupportedSortField f => .obj [("sort_by", .str f)]
  | .fieldRequired f => .obj [("field", .str f)]
  | .practitionerNotAtStore p s => .obj [("practitioner_id", .str p.text), ("store_id", .str s.text)]
  | .noStoreConfigured t => .obj [("tenant_id", .str t.text)]
  | .durationNotPositive m => .obj [("duration", .int m)]
  | .endsAfterMidnight s m => .obj [("start_time", .str s.hhmm), ("duration", .int m)]
  | .expiryNotInFuture e => .obj [("expires_at", .str e.iso)]

end Invalid

namespace Clash

def message : Clash → String
  | .overlap _ => "The selected time overlaps an existing reservation"
  | .linkStoreNotAssigned _ _ => "Practitioner is not assigned to the selected store"
  | .activeLinkExists _ => "An active booking link already exists for this practitioner"

def details : Clash → Json
  | .overlap p => .obj [("practitioner_id", .str p.text)]
  | .linkStoreNotAssigned p s => .obj [("practitioner_id", .str p.text), ("store_id", .str s.text)]
  | .activeLinkExists p => .obj [("practitioner_id", .str p.text)]

end Clash

namespace BookingError

def code : BookingError → String
  | .invalid _ => "VALIDATION_ERROR"
  | .notFound .. => "NOT_FOUND"
  | .conflict _ => "CONFLICT"
  | .terminal .. => "TERMINAL_STATE"

/-- The HTTP status a refusal is answered with. -/
def httpStatus : BookingError → Nat
  | .invalid _ => 400
  | .notFound .. => 404
  | .conflict _ => 409
  | .terminal .. => 409

def message : BookingError → String
  | .invalid i => i.message
  | .notFound r (some id) => r.name ++ " not found: " ++ id.text
  | .notFound r none => r.name ++ " not found"
  | .conflict c => c.message
  | .terminal c (some r) => "Reservation is " ++ c.name ++ "; cannot transition to " ++ r.name
  | .terminal c none => "Reservation is " ++ c.name ++ " and can no longer be modified"

def details : BookingError → Json
  | .invalid i => i.details
  | .notFound r id => .obj [("resource", .str r.name), ("id", Json.ofString? (id.map Uuid.text))]
  | .conflict c => c.details
  | .terminal c r =>
    .obj [("current_status", .str c.name), ("requested_status", Json.ofString? (r.map Status.name))]

/-- The body an HTTP answer carries for a refusal. -/
def body (e : BookingError) : Json :=
  .obj [("error", .obj [("code", .str e.code), ("message", .str e.message), ("details", e.details)])]

end BookingError

/-- How an operation can end without a result. -/
inductive Fault where
  /-- A refusal meant for the caller. -/
  | refused (e : BookingError)
  /-- A date, time or span outside what the calendar holds. -/
  | range (e : RangeError)
  /-- An instant with an offset compared with one without. -/
  | offsetMismatch
  /-- A time of day with an offset compared with one without. -/
  | clockMismatch
  /-- A stored document of kind `kind` read as a list. -/
  | notIterable (kind : String)
  /-- A stored document of kind `kind` read as an object. -/
  | notAnObject (kind : String)
  /-- An integer beyond the 64-bit storage range written. -/
  | integerTooLarge
  /-- A required column `column` written as null. -/
  | missingColumn (column : String)
  /-- A second reservation of a tenant with the same idempotency key. -/
  | duplicateIdempotencyKey
  /-- A value written to unique column `column` that another row holds. -/
  | duplicateValue (column : String)
  /-- A sum beyond the 64-bit range computed by storage. -/
  | sumOverflow
  /-- The storage could not be opened. -/
  | storageUnavailable
  /-- Every candidate token for a new booking link was already held. -/
  | tokensExhausted

namespace Fault

def message : Fault → String
  | .refused e => e.message
  | .range e => e.message
  | .offsetMismatch => "can't compare offset-naive and offset-aware datetimes"
  | .clockMismatch => "can't compare offset-naive and offset-aware times"
  | .notIterable k => "'" ++ k ++ "' object is not iterable"
  | .notAnObject k => "'" ++ k ++ "' object has no attribute 'get'"
  | .integerTooLarge => "Python int too large to convert to SQLite INTEGER"
  | .missingColumn c => "NOT NULL constraint failed: " ++ c
  | .duplicateIdempotencyKey =>
    "UNIQUE constraint failed: reservations.tenant_id, reservations.idempotency_key"
  | .duplicateValue c => "UNIQUE constraint failed: " ++ c
  | .sumOverflow => "integer overflow"
  | .storageUnavailable => "unable to open database file"
  | .tokensExhausted => "Could not generate a unique booking link token"

end Fault

/-- Refuses with an invalid request. -/
def Fault.invalid (i : Invalid) : Fault := .refused (.invalid i)

/-- Lifts a calendar computation into an operation. -/
def liftRange {α : Type} : Except RangeError α → Except Fault α
  | .ok a => .ok a
  | .error e => .error (.range e)

end SalonBooking
