import SalonBooking.Reservation.Query

/-!
Booking flows: what the admin console and the customer app do with a request.
A booking resolves the store and its policy, checks the booking window, the
practitioner, the customer and the chosen menus and options, takes the end time
from the total duration, and writes the reservation; a reschedule does the same
over an existing reservation, keeping what the request leaves unset; status
changes and cancellations go through the lifecycle. Each flow that changes a
reservation adds an entry to the audit trail.

The policy checks read the instant `now` they are given, and the clock otherwise.
-/

namespace SalonBooking

open SalonBooking.Calendar

/-- A booking request. -/
structure BookingRequest where
  date : Date
  start : TimeOfDay
  /-- The UTC offset in seconds the start was given with, if any. -/
  startOffset : Option Int := none
  practitioner : Option Uuid := none
  menuIds : List Uuid := []
  /-- The chosen options; `none` keeps a rescheduled reservation's. -/
  optionIds : Option (List Uuid) := none
  store : Option Uuid := none
  customer : Option Uuid := none
  customerName : Option String := none
  customerPhone : Option String := none
  /-- Whether the practitioner was nominated; `none` keeps a rescheduled
  reservation's choice. -/
  isNomination : Option Bool := none
  discount : Int := 0
  totalPrice : Option Int := none
  status : String := "pending"
  source : Option String := some "line"
  customerNote : Option String := none
  staffNote : Option String := none
  googleCalendarId : Option String := none
  googleCalendarEventId : Option String := none
  externalReservationId : Option String := none
  idempotencyKey : Option String := none

namespace Booking

open Reservations

/-- The first of two texts that is given and not empty. -/
def firstText (a : Option String) (b : Option String) : Option String :=
  match nonEmpty a with
  | some s => some s
  | none => b

/-- The store a request is for (the given one, else the context's, else the tenant's
first) and its policy. -/
def resolveStore (ctx : Context) (store : Option Uuid) : Op (Store × StorePolicy) := do
  let db ← get
  match store.orElse fun _ => ctx.store with
  | some id =>
    match db.store? ctx.tenant id with
    | some s => pure (s, s.policy)
    | none => throw (.refused (.notFound .store (some id)))
  | none =>
    match db.stores.find? (·.tenant == ctx.tenant) with
    | some s => pure (s, s.policy)
    | none => throw (.invalid (.noStoreConfigured ctx.tenant))

/-- The instant policy checks read. -/
def instant (now : Option Stamp) : Op Stamp := do
  match now with
  | some t => pure t
  | none => pure ⟨← Database.now, some 0⟩

/-- The tenant's active practitioner `id`, who must work at `store`. -/
def loadPractitioner (ctx : Context) (id : Uuid) (store : Store) : Op Practitioner := do
  match (← get).practitioner? ctx.tenant id with
  | some p =>
    if !p.isActive then throw (.refused (.notFound .practitioner (some id)))
    if !(← worksAt p.storeIds store.id) then
      throw (.invalid (.practitionerNotAtStore id store.id))
    pure p
  | none => throw (.refused (.notFound .practitioner (some id)))

/-- The tenant's customer `id`, which must be given. -/
def loadCustomer (ctx : Context) (id : Option Uuid) : Op Customer := do
  let some id := id | throw (.invalid (.fieldRequired "customer_id"))
  match (← get).customer? ctx.tenant id with
  | some c => pure c
  | none => throw (.refused (.notFound .customer (some id)))

/-- Copies of the chosen menus, in the order chosen; the first is the main one. -/
def menuLines (ctx : Context) (ids : List Uuid) (includeInactive : Bool) : Op (List MenuLine) := do
  let db ← get
  ids.zipIdx.mapM fun (id, i) =>
    match db.menu? ctx.tenant id with
    | some m =>
      if m.isActive || includeInactive then
        pure ⟨m.id, m.name, m.price, m.duration, i, i == 0⟩
      else throw (.refused (.notFound .menu (some id)))
    | none => throw (.refused (.notFound .menu (some id)))

/-- Copies of the chosen options, in the order chosen. -/
def optionLines (ctx : Context) (ids : List Uuid) (includeInactive : Bool) :
    Op (List OptionLine) := do
  let db ← get
  ids.mapM fun id =>
    match db.option? ctx.tenant id with
    | some o =>
      if o.isActive || includeInactive then pure ⟨o.id, o.name, o.price, o.duration.getD 0⟩
      else throw (.refused (.notFound .menuOption (some id)))
    | none => throw (.refused (.notFound .menuOption (some id)))

/-- The chosen menus and options as one selection. -/
def resolveSelection (ctx : Context) (menus options : List Uuid) (includeInactive : Bool) :
    Op Selection := do
  let ms ← menuLines ctx menus includeInactive
  let os ← optionLines ctx options includeInactive
  pure ⟨ms, os⟩

/-- The store, its policy and the draft a booking request makes, once the request's
practitioner, customer, menus and options are found. -/
def bookingDraft (ctx : Context) (req : BookingRequest) (enforcePolicy : Bool)
    (includeInactive : Bool) (now : Option Stamp) : Op (Store × StorePolicy × Draft) := do
  let some pid := req.practitioner | throw (.invalid (.fieldRequired "practitioner_id"))
  if req.menuIds.isEmpty then throw (.invalid .menuRequired)
  let (store, policy) ← resolveStore ctx req.store
  if enforcePolicy then Policy.checkBookingWindow req.date policy (← instant now)
  let p ← loadPractitioner ctx pid store
  let c ← loadCustomer ctx req.customer
  let items ← resolveSelection ctx req.menuIds (req.optionIds.getD []) includeInactive
  let stop ← Policy.slotEnd req.start items.duration
  pure (store, policy, {
    practitioner := p.id, practitionerName := some p.name, customer := some c.id
    customerName := firstText req.customerName (some c.name)
    customerPhone := firstText req.customerPhone c.phone
    store := some store.id, date := req.date, start := req.start, stop := stop
    startOffset := req.startOffset
    items := some items
    nominationFee := if req.isNomination == some true then p.nominationFee.getD 0 else 0
    discount := req.discount, totalPrice := req.totalPrice, status := req.status
    source := req.source, customerNote := req.customerNote, staffNote := req.staffNote
    googleCalendarId := req.googleCalendarId, googleCalendarEventId := req.googleCalendarEventId
    externalReservationId := req.externalReservationId, idempotencyKey := req.idempotencyKey })

/-- Books a new reservation. -/
def book (ctx : Context) (req : BookingRequest) (actor : Actor) (enforcePolicy : Bool)
    (includeInactive : Bool) (now : Option Stamp) : Op Reservation := do
  let (store, policy, draft) ← bookingDraft ctx req enforcePolicy includeInactive now
  let (r, created) ← insertOrReplay { ctx with store := some store.id } draft (some policy.timezone)
  if created then
    Database.record ctx.tenant actor "create" "reservation" (some r.id) .null r.summary
  pure r

/-- Refuses a reservation of another customer as if it did not exist. -/
def ownedBy (r : Reservation) (customer : Option Uuid) : Except Fault Unit :=
  match customer with
  | some c => if r.customer != c then .error (.refused (.notFound .reservation (some r.id))) else .ok ()
  | none => .ok ()

/-- The reservation, the store, its policy and the draft a rescheduling request makes.
With the policy enforced, the old slot must still be cancellable and the new date
bookable. -/
def reschedulingDraft (ctx : Context) (id : Uuid) (req : BookingRequest) (enforcePolicy : Bool)
    (customer : Option Uuid) (includeInactive : Bool) (now : Option Stamp) :
    Op (Reservation × Store × StorePolicy × Draft) := do
  let r ← fetch ctx id
  ownedBy r customer
  if r.status.isTerminal then throw (.refused (.terminal r.status none))
  if enforcePolicy then
    let (_, oldPolicy) ← resolveStore ctx r.store
    Policy.checkCancelDeadline r.date r.start oldPolicy (← instant now)
  let (store, policy) ← resolveStore ctx (req.store.orElse fun _ => r.store)
  if enforcePolicy then Policy.checkBookingWindow req.date policy (← instant now)
  let p ← loadPractitioner ctx (req.practitioner.getD r.practitioner) store
  let c ← loadCustomer ctx (some (req.customer.getD r.customer))
  let menuIds := if req.menuIds.isEmpty then r.sortedMenus.map (·.menu) else req.menuIds
  let optionIds := req.optionIds.getD (r.optionItems.map (·.option))
  let items ← resolveSelection ctx menuIds optionIds includeInactive
  let nominated := req.isNomination.getD (decide (r.nominationFee > 0))
  let stop ← Policy.slotEnd req.start items.duration
  pure (r, store, policy, {
    practitioner := p.id, practitionerName := some p.name, customer := some c.id
    customerName := firstText req.customerName (firstText r.customerName (some c.name))
    customerPhone := firstText req.customerPhone (firstText r.customerPhone c.phone)
    store := some store.id, date := req.date, start := req.start, stop := stop
    startOffset := req.startOffset
    items := some items
    nominationFee := if nominated then p.nominationFee.getD 0 else 0
    discount := req.discount, totalPrice := req.totalPrice, source := r.source
    customerNote := req.customerNote.orElse fun _ => r.customerNote
    staffNote := req.staffNote.orElse fun _ => r.staffNote
    googleCalendarId := firstText req.googleCalendarId r.googleCalendarId
    googleCalendarEventId := firstText req.googleCalendarEventId r.googleCalendarEventId
    externalReservationId := firstText req.externalReservationId r.externalReservationId })

/-- Moves or re-prices a reservation, replacing its menus and options. -/
def reschedule (ctx : Context) (id : Uuid) (req : BookingRequest) (actor : Actor)
    (enforcePolicy : Bool) (customer : Option Uuid) (includeInactive : Bool)
    (now : Option Stamp) : Op Reservation := do
  let (r, store, policy, draft) ←
    reschedulingDraft ctx id req enforcePolicy customer includeInactive now
  let r' ← replace { ctx with store := some store.id } id draft (some policy.timezone) true
  Database.record ctx.tenant actor "update" "reservation" (some r'.id) r.summary r'.summary
  pure r'

/-- A staff-driven lifecycle step. -/
def changeStatus (ctx : Context) (id : Uuid) (status : String) (actor : Actor)
    (reason : Option String) : Op Reservation := do
  let r ← fetch ctx id
  let r' ← updateStatus ctx id status reason
  Database.record ctx.tenant actor "status_change" "reservation" (some r'.id)
    (.obj [("status", .str r.status.name)]) (.obj [("status", .str r'.status.name)])
  pure r'

/-- The reservation a cancellation is for, once it is found among the customer's. With
the policy enforced, a terminal reservation is refused first and then the cancellation
deadline applies. -/
def cancellation (ctx : Context) (id : Uuid) (enforcePolicy : Bool) (customer : Option Uuid)
    (now : Option Stamp) : Op Reservation := do
  let r ← fetch ctx id
  ownedBy r customer
  if enforcePolicy then
    if r.status.isTerminal then throw (.refused (.terminal r.status (some .canceled)))
    let (_, policy) ← resolveStore ctx r.store
    Policy.checkCancelDeadline r.date r.start policy (← instant now)
  pure r

/-- Cancels a reservation. -/
def cancel (ctx : Context) (id : Uuid) (actor : Actor) (reason : Option String)
    (enforcePolicy : Bool) (customer : Option Uuid) (now : Option Stamp) : Op Reservation := do
  let r ← cancellation ctx id enforcePolicy customer now
  let r' ← updateStatus ctx id "canceled" reason
  Database.record ctx.tenant actor "cancel" "reservation" (some r'.id)
    (.obj [("status", .str r.status.name)])
    (.obj [("status", .str r'.status.name), ("cancel_reason", Json.ofString? reason)])
  pure r'

end Booking

end SalonBooking
