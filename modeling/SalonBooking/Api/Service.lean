import SalonBooking.Api.Access
import SalonBooking.Api.Form
import SalonBooking.Api.Body
import SalonBooking.Api.Route

/-!
Serving HTTP requests. A request is routed, its requirements and fields are
checked (see `Admission`), and the endpoint then runs its service operation against
the database. A refusal of the booking rules is answered with its status and an
`error` document, and leaves the database as it was; any other failure is not
answered and stops the request. When the storage cannot be opened, an endpoint fails
at its first use of it, after the checks it makes on its own.
-/

namespace SalonBooking.Api

open SalonBooking.Calendar
open Admission

/-- The message storage gives when it cannot be opened. -/
def storageFailure : String :=
  "(sqlite3.OperationalError) unable to open database file\n" ++
  "(Background on this error at: https://sqlalche.me/e/21/e3q8)"

/-- The liveness document. -/
def healthBody : Json :=
  .obj [("status", .str "healthy"), ("service", .str "api"), ("version", .str "1.0.0")]

/-- The readiness document, which reports whether storage opens. -/
def readyBody (available : Bool) : Json :=
  let check := if available then "ok" else "failed: " ++ storageFailure
  .obj [("status", .str (if available then "ready" else "not_ready")),
    ("checks", .obj [("database", .str check)])]

/-- An operation that needs the storage. -/
def stored {α : Type} (available : Bool) (op : Op α) : Op α := do
  if !available then throw .storageUnavailable
  op

def ok (body : Json) : Response := ⟨200, some body⟩

def created (body : Json) : Response := ⟨201, some body⟩

/-- A page number: one or more. -/
def pageNumber (v : Json) : Reading Int := do Field.atLeast 1 (← Field.int v)

/-- A page size: from one to a hundred. -/
def pageSize (v : Json) : Reading Int := do Field.atMost 100 (← Field.atLeast 1 (← Field.int v))

/-- A sort field: `date` or `created_at`. -/
def sortField (v : Json) : Reading String := do
  Field.matching "^(date|created_at)$" ["date", "created_at"] (← Field.text v)

/-- A sort order: `asc` or `desc`. -/
def sortOrder (v : Json) : Reading String := do
  Field.matching "^(asc|desc)$" ["asc", "desc"] (← Field.text v)

/-- The admin listing of reservations. -/
def listReservations (req : Request) (tenant : String) (available : Bool) :
    Admission (Option (Op Response)) := do
  let ctx ← context req tenant
  let _ ← atLeast req .staff
  let page ← check (Param.withDefault req "page" 1 pageNumber)
  let limit ← check (Param.withDefault req "limit" 20 pageSize)
  let status ← check (Param.repeated req "status" (Field.oneOf statusNames))
  let practitioner ← check (Param.optional req "practitioner_id" Field.uuid)
  let customer ← check (Param.optional req "customer_id" Field.uuid)
  let date ← check (Param.optional req "date" Field.date)
  let dateFrom ← check (Param.optional req "date_from" Field.date)
  let dateTo ← check (Param.optional req "date_to" Field.date)
  let sortBy ← check (Param.withDefault req "sort_by" "date" sortField)
  let order ← check (Param.withDefault req "sort_order" "asc" sortOrder)
  pure do
    let ctx ← ctx
    let page ← page
    let limit ← limit
    let status ← status
    let f : Filters := {
      status := match status with
        | some (s :: rest) => .among (s :: rest)
        | _ => .any
      practitioner := ← practitioner, customer := ← customer, date := ← date
      dateFrom := ← dateFrom, dateTo := ← dateTo }
    let sortBy ← sortBy
    let order ← order
    pure (stored available do
      let p ← (Reservations.listPaginated (← get) ctx f page limit sortBy order : Except Fault Page)
      pure (ok (Body.page p)))

/-- The admin booking of a reservation. -/
def createReservation (req : Request) (tenant : String) (available : Bool) :
    Admission (Option (Op Response)) := do
  let ctx ← context req tenant
  let user ← atLeast req .staff
  let key ← check (Param.header req "idempotency-key" 255)
  let form ← check (Form.adminBooking req.body)
  pure do
    let ctx ← ctx
    let key ← key
    let form ← form
    pure (stored available do
      let r ← Booking.book ctx { form with idempotencyKey := key } (user.actor req) false true none
      pure (created (Body.reservation r)))

/-- The advisory overlap check. -/
def checkConflict (req : Request) (tenant : String) (available : Bool) :
    Admission (Option (Op Response)) := do
  let ctx ← context req tenant
  let _ ← atLeast req .staff
  let practitioner ← check (Param.required req "practitioner_id" Field.uuid)
  let date ← check (Param.required req "date" Field.date)
  let start ← check (Param.required req "start_time" Field.time)
  let stop ← check (Param.required req "end_time" Field.time)
  let exclude ← check (Param.optional req "exclude_id" Field.uuid)
  let store ← check (Param.optional req "store_id" Field.uuid)
  pure do
    let ctx ← ctx
    let practitioner ← practitioner
    let date ← date
    let start ← start
    let stop ← stop
    let exclude ← exclude
    let store ← store
    pure (stored available do
      let (_, policy) ← Booking.resolveStore ctx store
      let clash ← (Reservations.hasConflict (← get) ctx practitioner date start stop exclude
        (some policy.timezone) : Except Fault Bool)
      pure (ok (.obj [("has_conflict", .bool clash)])))

/-- Counts and revenue over a range of dates. -/
def reservationStats (req : Request) (tenant : String) (available : Bool) :
    Admission (Option (Op Response)) := do
  let ctx ← context req tenant
  let _ ← atLeast req .manager
  let a ← check (Param.required req "start_date" Field.date)
  let b ← check (Param.required req "end_date" Field.date)
  pure do
    let ctx ← ctx
    let a ← a
    let b ← b
    pure (stored available do
      let s ← (Reservations.stats (← get) ctx a b : Except Fault Stats)
      pure (ok (Body.stats a b s)))

/-- The reservations of a day still waiting for their reminder. -/
def dueReminders (req : Request) (tenant : String) (available : Bool) :
    Admission (Option (Op Response)) := do
  let ctx ← context req tenant
  let _ ← atLeast req .staff
  let d ← check (Param.required req "date" Field.date)
  pure do
    let ctx ← ctx
    let d ← d
    pure (stored available do
      pure (ok (.arr ((Reservations.dueReminders (← get) ctx d).map Body.reservation))))

/-- The path's reservation id. -/
def reservationParam (ps : List (String × String)) : Checking (Option Uuid) :=
  Param.path "reservation_id" ((ps.lookup "reservation_id").getD "") Field.uuid

/-- An admin operation on one reservation, answered with the reservation. -/
def onReservation (req : Request) (tenant : String) (ps : List (String × String))
    (available : Bool) (op : Context → Uuid → Caller → Op Reservation) :
    Admission (Option (Op Response)) := do
  let ctx ← context req tenant
  let user ← atLeast req .staff
  let id ← check (reservationParam ps)
  pure do
    let ctx ← ctx
    let id ← id
    pure (stored available do return ok (Body.reservation (← op ctx id user)))

/-- The admin move or re-pricing of a reservation. -/
def updateReservation (req : Request) (tenant : String) (ps : List (String × String))
    (available : Bool) : Admission (Option (Op Response)) := do
  let ctx ← context req tenant
  let user ← atLeast req .staff
  let id ← check (reservationParam ps)
  let form ← check (Form.adminChange req.body)
  pure do
    let ctx ← ctx
    let id ← id
    let form ← form
    pure (stored available do
      let r ← Booking.reschedule ctx id form (user.actor req) false none true none
      pure (ok (Body.reservation r)))

/-- A lifecycle step of a reservation. -/
def changeStatus (req : Request) (tenant : String) (ps : List (String × String))
    (available : Bool) : Admission (Option (Op Response)) := do
  let ctx ← context req tenant
  let user ← atLeast req .staff
  let id ← check (reservationParam ps)
  let form ← check (Form.statusChange req.body)
  pure do
    let ctx ← ctx
    let id ← id
    let form ← form
    pure (stored available do
      let r ← Booking.changeStatus ctx id form.status (user.actor req) form.reason
      pure (ok (Body.reservation r)))

/-- The admin cancellation of a reservation, with an optional reason. -/
def cancelReservation (req : Request) (tenant : String) (ps : List (String × String))
    (available : Bool) : Admission (Option (Op Response)) := do
  let ctx ← context req tenant
  let user ← atLeast req .staff
  let id ← check (reservationParam ps)
  let reason ← check (Param.optional req "reason" (Form.note noteLimit))
  pure do
    let ctx ← ctx
    let id ← id
    let reason ← reason
    pure (stored available do
      let r ← Booking.cancel ctx id (user.actor req) reason false none none
      pure (ok (Body.reservation r)))

/-- A customer's own reservations. -/
def myReservations (req : Request) (tenant : String) (available : Bool) :
    Admission (Option (Op Response)) := do
  let ctx ← context req tenant
  let me ← customer req tenant
  pure do
    let ctx ← ctx
    let (_, id) ← me
    pure (stored available do
      let rs ← (Reservations.list (← get) ctx { customer := some id } : Except Fault _)
      pure (ok (.arr (rs.map Body.reservation))))

/-- A customer's booking. -/
def bookMine (req : Request) (tenant : String) (available : Bool) :
    Admission (Option (Op Response)) := do
  let ctx ← context req tenant
  let me ← customer req tenant
  let form ← check (Form.customerBooking req.body)
  pure do
    let ctx ← ctx
    let (c, id) ← me
    let form ← form
    pure (stored available do
      let r ← Booking.book ctx { form with customer := some id } (c.actor req) true false none
      pure (created (Body.reservation r)))

/-- A customer's move of their own reservation. -/
def rescheduleMine (req : Request) (tenant : String) (ps : List (String × String))
    (available : Bool) : Admission (Option (Op Response)) := do
  let ctx ← context req tenant
  let me ← customer req tenant
  let rid ← check (reservationParam ps)
  let form ← check (Form.customerChange req.body)
  pure do
    let ctx ← ctx
    let (c, id) ← me
    let rid ← rid
    let form ← form
    pure (stored available do
      let r ← Booking.reschedule ctx rid form (c.actor req) true (some id) false none
      pure (ok (Body.reservation r)))

/-- A customer's cancellation of their own reservation. -/
def cancelMine (req : Request) (tenant : String) (ps : List (String × String))
    (available : Bool) : Admission (Option (Op Response)) := do
  let ctx ← context req tenant
  let me ← customer req tenant
  let rid ← check (reservationParam ps)
  let reason ← check (Form.cancellation req.body)
  pure do
    let ctx ← ctx
    let (c, id) ← me
    let rid ← rid
    let reason ← reason
    pure (stored available do
      let r ← Booking.cancel ctx rid (c.actor req) reason true (some id) none
      pure (ok (Body.reservation r)))

/-- The slots a practitioner's reservations hold on a day. -/
def bookedSlots (req : Request) (tenant : String) (ps : List (String × String))
    (available : Bool) : Admission (Option (Op Response)) := do
  let ctx ← context req tenant
  let _ ← tenantAccess req tenant
  let p ← check (Param.path "practitioner_id" ((ps.lookup "practitioner_id").getD "") Field.uuid)
  let d ← check (Param.required req "date" Field.date)
  pure do
    let ctx ← ctx
    let p ← p
    let d ← d
    pure (stored available do
      pure (ok (Body.bookedSlots p d (Reservations.bookedSlots (← get) ctx p d))))

/-- The tenant's booking links, newest first. -/
def listLinks (req : Request) (tenant : String) (available : Bool) :
    Admission (Option (Op Response)) := do
  let ctx ← context req tenant
  let _ ← atLeast req .manager
  let status ← check (Param.optional req "status" (Field.oneOf linkStatusNames))
  pure do
    let ctx ← ctx
    let status ← status
    pure (stored available do
      pure (ok (.arr ((Link.listOf (← get) ctx status).map Body.link))))

/-- Issues the link `user` ordered, its token's bytes drawn from `src`, and records who did. -/
def issueLink (req : Request) (ctx : Context) (user : Caller) (o : LinkOrder) (available : Bool)
    (src : Link.ByteSource) : Op Response := do
  if !available then
    Link.checkExpiry o.expiresAt
    throw .storageUnavailable
  let l ← Link.issue ctx o.practitioner user.sub o.store o.expiresAt o.reissue o.allowMultiple src
  Database.record ctx.tenant (user.actor req) "create" "booking_link" (some l.id) .null
    (.obj [("practitioner_id", .str l.practitioner.text), ("reissue", .bool o.reissue)])
  pure (created (Body.link l))

/-- Issues a booking link, and records who did. -/
def createLink (req : Request) (tenant : String) (available : Bool) (src : Link.ByteSource) :
    Admission (Option (Op Response)) := do
  let ctx ← context req tenant
  let user ← atLeast req .manager
  let order ← check (Form.linkOrder req.body)
  pure do
    let ctx ← ctx
    let o ← order
    pure (issueLink req ctx user o available src)

/-- Revokes a booking link, and records who did. -/
def revokeLink (req : Request) (tenant : String) (ps : List (String × String))
    (available : Bool) : Admission (Option (Op Response)) := do
  let ctx ← context req tenant
  let user ← atLeast req .manager
  let id ← check (Param.path "link_id" ((ps.lookup "link_id").getD "") Field.uuid)
  pure do
    let ctx ← ctx
    let id ← id
    pure (stored available do
      let l ← Link.revoke ctx id
      Database.record ctx.tenant (user.actor req) "revoke" "booking_link" (some l.id) .null
        (.obj [("status", .str l.status)])
      pure (ok (Body.link l)))

/-- Resolves a presented token; a malformed one is refused before storage is used. -/
def resolveLink (ps : List (String × String)) (available : Bool) : Op Response := do
  let token := (ps.lookup "token").getD ""
  if !available then
    if !Link.wellFormed (Link.strip token) then throw Link.unusable
    throw .storageUnavailable
  return ok (Body.resolution (← Link.resolve token))

/-- What an endpoint checks and then runs; a new link's token is made of bytes from `src`. -/
def plan (e : Endpoint) (ps : List (String × String)) (req : Request) (available : Bool)
    (src : Link.ByteSource) : Admission (Option (Op Response)) :=
  let tenant := (ps.lookup "tenant_id").getD ""
  match e with
  | .health => pure (some (pure (ok healthBody)))
  | .ready => pure (some (pure (ok (readyBody available))))
  | .listReservations => listReservations req tenant available
  | .createReservation => createReservation req tenant available
  | .checkConflict => checkConflict req tenant available
  | .reservationStats => reservationStats req tenant available
  | .dueReminders => dueReminders req tenant available
  | .getReservation => onReservation req tenant ps available fun ctx id _ => Reservations.fetch ctx id
  | .updateReservation => updateReservation req tenant ps available
  | .changeStatus => changeStatus req tenant ps available
  | .markReminderSent =>
    onReservation req tenant ps available fun ctx id _ => Reservations.markReminderSent ctx id
  | .cancelReservation => cancelReservation req tenant ps available
  | .myReservations => myReservations req tenant available
  | .bookMine => bookMine req tenant available
  | .rescheduleMine => rescheduleMine req tenant ps available
  | .cancelMine => cancelMine req tenant ps available
  | .bookedSlots => bookedSlots req tenant ps available
  | .listLinks => listLinks req tenant available
  | .createLink => createLink req tenant available src
  | .revokeLink => revokeLink req tenant ps available
  | .resolveLink => pure (some (resolveLink ps available))

/-- Runs an endpoint's operation; a refusal is answered. -/
def answering (op : Op Response) : Op Response := fun db =>
  match op.run db with
  | .ok r db' => .ok r db'
  | .error (.refused e) db' => .ok ⟨e.httpStatus, some e.body⟩ db'
  | .error f db' => .error f db'

/-- The answer to fields that failed their checks. -/
def unprocessable (errs : List FieldError) : Response :=
  ⟨422, some (.obj [("detail", .arr (errs.map FieldError.toJson))])⟩

/-- Serves one request; `available` says whether storage opens, and `src` gives the random
bytes of new link tokens. -/
def serve (req : Request) (available : Bool) (src : Link.ByteSource) : Op Response :=
  match Routing.of req.method req.path with
  | .notFound => pure (.detail 404 "Not Found")
  | .methodNotAllowed => pure (.detail 405 "Method Not Allowed")
  | .redirect _ => pure ⟨307, none⟩
  | .found e ps =>
    match (plan e ps req available src).run [] with
    | .error r => pure r
    | .ok (some op, []) => answering op
    | .ok (_, errs) => pure (unprocessable errs)

end SalonBooking.Api
