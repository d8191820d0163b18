import SalonBooking.Api.Field
import SalonBooking.Booking

/-!
The documents requests carry, and the parameters in their paths, queries and
headers. Each is read field by field in its fixed order, every failing field is
reported at its place (`body`, `path`, `query` or `header`, then the name), and a
document that reads becomes the booking request or link order the services take.

A field may be required (a missing one is reported with the whole document as its
input), have a default for when it is absent, or be optional, where `null` counts as
absent; a field with a default is not optional, so `null` there does not read.
-/

namespace SalonBooking.Api

open SalonBooking.Calendar

/-- The reservation statuses, in the order a message lists them. -/
def statusNames : List String := ["pending", "confirmed", "completed", "canceled", "no_show"]

/-- Where a reservation can come from. -/
def sourceNames : List String :=
  ["line", "web", "phone", "walk_in", "admin", "google_calendar", "salonboard", "hotpepper"]

/-- The statuses a booking link can have. -/
def linkStatusNames : List String := ["active", "revoked"]

/-- The longest note or reason a request may carry. -/
def noteLimit : Nat := 500

/-- A booking link order. -/
structure LinkOrder where
  practitioner : Uuid
  store : Option Uuid
  expiresAt : Option Stamp
  reissue : Bool
  allowMultiple : Bool

/-- A status change request. -/
structure StatusChange where
  status : String
  reason : Option String

namespace Form

/-- Records a failure. -/
def fail (e : FieldError) : Checking Unit := modify (· ++ [e])

def bodyLoc (name : String) : List LocPart := [.key "body", .key name]

/-- The body as an object, which it must be. -/
def document (body : Option Json) : Checking (Option Json) :=
  match body with
  | none | some .null => do
    fail ⟨[.key "body"], "missing", "Field required", .null, none⟩
    pure none
  | some (.obj fs) => pure (some (.obj fs))
  | some v => do
    fail ⟨[.key "body"], "model_attributes_type",
      "Input should be a valid dictionary or object to extract fields from", v, none⟩
    pure none

/-- A field that must be present. -/
def required {α : Type} (doc : Json) (name : String) (read : Json → Reading α) :
    Checking (Option α) :=
  match doc.field? name with
  | none => do
    fail (Field.missing doc (bodyLoc name))
    pure none
  | some v => Failure.at (read v) (bodyLoc name) v

/-- A field with a default for when it is absent. -/
def withDefault {α : Type} (doc : Json) (name : String) (default : α) (read : Json → Reading α) :
    Checking (Option α) :=
  match doc.field? name with
  | none => pure (some default)
  | some v => Failure.at (read v) (bodyLoc name) v

/-- An optional field; `null` counts as absent. -/
def optional {α : Type} (doc : Json) (name : String) (read : Json → Reading α) :
    Checking (Option (Option α)) :=
  match doc.field? name with
  | none | some .null => pure (some none)
  | some v => do return (← Failure.at (read v) (bodyLoc name) v).map some

/-- A list of ids found at `place`, each read at its index; with `nonEmpty`, a list
whose items all read must have one. -/
def ids (v : Json) (place : List LocPart) (nonEmpty : Bool) : Checking (Option (List Uuid)) :=
  match Field.list v with
  | .error f => Failure.at (.error f) place v
  | .ok xs => do
    let some us ← eachAt Field.uuid xs place | pure none
    if nonEmpty then Failure.at (Field.nonEmpty us) place v else pure (some us)

/-- A list of ids that must be present and not empty. -/
def requiredIds (doc : Json) (name : String) : Checking (Option (List Uuid)) :=
  match doc.field? name with
  | none => do
    fail (Field.missing doc (bodyLoc name))
    pure none
  | some v => ids v (bodyLoc name) true

/-- A list of ids, empty when absent. -/
def idsOrEmpty (doc : Json) (name : String) : Checking (Option (List Uuid)) :=
  match doc.field? name with
  | none => pure (some [])
  | some v => ids v (bodyLoc name) false

/-- An optional list of ids. -/
def optionalIds (doc : Json) (name : String) : Checking (Option (Option (List Uuid))) :=
  match doc.field? name with
  | none | some .null => pure (some none)
  | some v => do return (← ids v (bodyLoc name) false).map some

/-- An optional text of at most `n` characters. -/
def note (n : Nat) (v : Json) : Reading String := do Field.maxLength n (← Field.text v)

/-- A discount: a whole number, not negative. -/
def discount (v : Json) : Reading Int := do Field.atLeast 0 (← Field.int v)

/-- A reservation booked from the admin console. -/
def adminBooking (body : Option Json) : Checking (Option BookingRequest) := do
  let some doc ← document body | pure none
  let practitioner ← required doc "practitioner_id" Field.uuid
  let customer ← required doc "customer_id" Field.uuid
  let menus ← requiredIds doc "menu_ids"
  let options ← idsOrEmpty doc "option_ids"
  let date ← required doc "date" Field.date
  let start ← required doc "start_time" Field.time
  let store ← optional doc "store_id" Field.uuid
  let customerName ← optional doc "customer_name" Field.text
  let customerPhone ← optional doc "customer_phone" Field.text
  let nominated ← withDefault doc "is_nomination" false Field.bool
  let discount ← withDefault doc "discount" 0 discount
  let total ← optional doc "total_price" Field.int
  let status ← withDefault doc "status" "confirmed" (Field.oneOf statusNames)
  let source ← withDefault doc "source" "admin" (Field.oneOf sourceNames)
  let customerNote ← optional doc "customer_note" (note noteLimit)
  let staffNote ← optional doc "staff_note" Field.text
  let calendar ← optional doc "google_calendar_id" Field.text
  let event ← optional doc "google_calendar_event_id" Field.text
  let external ← optional doc "external_reservation_id" Field.text
  pure do
    pure {
      practitioner := some (← practitioner), customer := some (← customer), menuIds := ← menus
      optionIds := some (← options), date := ← date, start := (← start).time, startOffset := (← start).offset, store := ← store
      customerName := ← customerName, customerPhone := ← customerPhone
      isNomination := some (← nominated), discount := ← discount, totalPrice := ← total
      status := ← status, source := some (← source), customerNote := ← customerNote
      staffNote := ← staffNote, googleCalendarId := ← calendar, googleCalendarEventId := ← event
      externalReservationId := ← external }

/-- A reservation moved or re-priced from the admin console. -/
def adminChange (body : Option Json) : Checking (Option BookingRequest) := do
  let some doc ← document body | pure none
  let date ← required doc "date" Field.date
  let start ← required doc "start_time" Field.time
  let practitioner ← optional doc "practitioner_id" Field.uuid
  let customer ← optional doc "customer_id" Field.uuid
  let menus ← idsOrEmpty doc "menu_ids"
  let options ← optionalIds doc "option_ids"
  let store ← optional doc "store_id" Field.uuid
  let customerName ← optional doc "customer_name" Field.text
  let customerPhone ← optional doc "customer_phone" Field.text
  let nominated ← optional doc "is_nomination" Field.bool
  let discount ← withDefault doc "discount" 0 discount
  let total ← optional doc "total_price" Field.int
  let customerNote ← optional doc "customer_note" (note noteLimit)
  let staffNote ← optional doc "staff_note" Field.text
  let calendar ← optional doc "google_calendar_id" Field.text
  let event ← optional doc "google_calendar_event_id" Field.text
  let external ← optional doc "external_reservation_id" Field.text
  pure do
    pure {
      date := ← date, start := (← start).time, startOffset := (← start).offset, practitioner := ← practitioner, customer := ← customer
      menuIds := ← menus, optionIds := ← options, store := ← store
      customerName := ← customerName, customerPhone := ← customerPhone
      isNomination := ← nominated, discount := ← discount, totalPrice := ← total
      customerNote := ← customerNote, staffNote := ← staffNote, googleCalendarId := ← calendar
      googleCalendarEventId := ← event, externalReservationId := ← external }

/-- A reservation a customer books for themselves; the customer is the caller. -/
def customerBooking (body : Option Json) : Checking (Option BookingRequest) := do
  let some doc ← document body | pure none
  let practitioner ← required doc "practitioner_id" Field.uuid
  let menus ← requiredIds doc "menu_ids"
  let options ← idsOrEmpty doc "option_ids"
  let date ← required doc "date" Field.date
  let start ← required doc "start_time" Field.time
  let store ← optional doc "store_id" Field.uuid
  let customerName ← optional doc "customer_name" Field.text
  let customerPhone ← optional doc "customer_phone" Field.text
  let nominated ← withDefault doc "is_nomination" false Field.bool
  let customerNote ← optional doc "customer_note" (note noteLimit)
  pure do
    pure {
      practitioner := some (← practitioner), menuIds := ← menus
      optionIds := some (← options), date := ← date, start := (← start).time, startOffset := (← start).offset, store := ← store
      customerName := ← customerName, customerPhone := ← customerPhone
      isNomination := some (← nominated), status := "pending", source := some "line"
      customerNote := ← customerNote }

/-- A customer's move of their own reservation. -/
def customerChange (body : Option Json) : Checking (Option BookingRequest) := do
  let some doc ← document body | pure none
  let date ← required doc "date" Field.date
  let start ← required doc "start_time" Field.time
  let practitioner ← optional doc "practitioner_id" Field.uuid
  let menus ← idsOrEmpty doc "menu_ids"
  let options ← optionalIds doc "option_ids"
  let store ← optional doc "store_id" Field.uuid
  let nominated ← optional doc "is_nomination" Field.bool
  let customerNote ← optional doc "customer_note" (note noteLimit)
  pure do
    pure {
      date := ← date, start := (← start).time, startOffset := (← start).offset, practitioner := ← practitioner, menuIds := ← menus
      optionIds := ← options, store := ← store, isNomination := ← nominated
      customerNote := ← customerNote }

/-- A status change. -/
def statusChange (body : Option Json) : Checking (Option StatusChange) := do
  let some doc ← document body | pure none
  let status ← required doc "status" (Field.oneOf statusNames)
  let reason ← optional doc "reason" (note noteLimit)
  pure do pure ⟨← status, ← reason⟩

/-- A cancellation's reason. -/
def cancellation (body : Option Json) : Checking (Option (Option String)) := do
  let some doc ← document body | pure none
  optional doc "reason" (note noteLimit)

/-- A booking link order. -/
def linkOrder (body : Option Json) : Checking (Option LinkOrder) := do
  let some doc ← document body | pure none
  let practitioner ← required doc "practitioner_id" Field.uuid
  let store ← optional doc "store_id" Field.uuid
  let expiresAt ← optional doc "expires_at" Field.dateTime
  let reissue ← withDefault doc "reissue" true Field.bool
  let allowMultiple ← withDefault doc "allow_multiple" false Field.bool
  pure do pure ⟨← practitioner, ← store, ← expiresAt, ← reissue, ← allowMultiple⟩

end Form

namespace Param

/-- A path parameter. -/
def path {α : Type} (name value : String) (read : Json → Reading α) : Checking (Option α) :=
  Failure.at (read (.str value)) [.key "path", .key name] (.str value)

/-- A query parameter that must be given. -/
def required {α : Type} (req : Request) (name : String) (read : Json → Reading α) :
    Checking (Option α) :=
  match req.query? name with
  | none => do
    Form.fail (Field.missing .null [.key "query", .key name])
    pure none
  | some v => Failure.at (read (.str v)) [.key "query", .key name] (.str v)

/-- A query parameter with a default. -/
def withDefault {α : Type} (req : Request) (name : String) (default : α) (read : Json → Reading α) :
    Checking (Option α) :=
  match req.query? name with
  | none => pure (some default)
  | some v => Failure.at (read (.str v)) [.key "query", .key name] (.str v)

/-- An optional query parameter. -/
def optional {α : Type} (req : Request) (name : String) (read : Json → Reading α) :
    Checking (Option (Option α)) :=
  match req.query? name with
  | none => pure (some none)
  | some v => do return (← Failure.at (read (.str v)) [.key "query", .key name] (.str v)).map some

/-- A query parameter that may repeat, each value read at its index; none when it is
not given. -/
def repeated {α : Type} (req : Request) (name : String) (read : Json → Reading α) :
    Checking (Option (Option (List α))) :=
  match req.queryAll name with
  | [] => pure (some none)
  | vs => do return (← eachAt read (vs.map Json.str) [.key "query", .key name]).map some

/-- An optional header of at most `n` characters. -/
def header (req : Request) (name : String) (n : Nat) : Checking (Option (Option String)) :=
  match req.header? name with
  | none => pure (some none)
  | some v => do
    return (← Failure.at (Field.maxLength n v) [.key "header", .key name] (.str v)).map some

end Param

end SalonBooking.Api
