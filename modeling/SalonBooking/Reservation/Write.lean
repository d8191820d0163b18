import SalonBooking.Database
import SalonBooking.Pricing

/-!
Writing reservations. Every write keeps the no-overlap rule: two reservations of
one practitioner that hold time never share an instant of their UTC periods, which
are half-open, so one may start when another ends. A write is checked in a fixed
order (the items, the status, the slot, an earlier write with the same idempotency
key, the price, overlaps, then what storage accepts), and the first failed check
is the answer.

An idempotency key that is not empty replays: a second write with it answers the
reservation the first one stored. The empty key is stored but never replays, so a
second one clashes in storage.
-/

namespace SalonBooking

open SalonBooking.Calendar

/-- The reservation moved to status `t` at instant `stamp`; a cancellation also
records when and why. -/
def Reservation.moveTo (r : Reservation) (t : Status) (reason : Option String)
    (stamp : DateTime) : Reservation :=
  if t = .canceled then
    { r with status := t, canceledAt := some stamp, cancelReason := reason, updatedAt := stamp }
  else { r with status := t, updatedAt := stamp }

namespace Reservations

/-- The zone used when neither a call nor a reservation names one. -/
def defaultZone : String := StorePolicy.defaults.timezone

/-- A text, or `none` when it is absent or empty. -/
def nonEmpty : Option String → Option String
  | some s => if s.isEmpty then none else some s
  | none => none

/-- The status a text names. -/
def parseStatus (s : String) : Except Fault Status :=
  match Status.ofName? s with
  | some st => .ok st
  | none => .error (.invalid (.unknownStatus s))

/-- A reservation of the tenant's practitioner `p` that holds time overlapping
`[a, b)`, other than `exclude`. -/
def findOverlap (db : Database) (ctx : Context) (p : Uuid) (a b : DateTime)
    (exclude : Option Uuid) : Option Reservation :=
  (db.reservationsOf ctx.tenant).find? fun r =>
    r.practitioner == p && r.isActive && r.overlaps a b && exclude != some r.id

/-- Refuses a period that overlaps a reservation holding the practitioner's time. -/
def ensureNoOverlap (ctx : Context) (p : Uuid) (a b : DateTime) (exclude : Option Uuid) :
    Op Unit := do
  if (findOverlap (← get) ctx p a b exclude).isSome then
    throw (.refused (.conflict (.overlap p)))

/-- The tenant's reservation with idempotency key `key`. -/
def findByKey (db : Database) (ctx : Context) (key : String) : Option Reservation :=
  (db.reservationsOf ctx.tenant).find? (·.idempotencyKey == some key)

/-- The tenant's reservation `id`, or a refusal naming it. -/
def fetch (ctx : Context) (id : Uuid) : Op Reservation := do
  match (← get).reservation? ctx.tenant id with
  | some r => pure r
  | none => throw (.refused (.notFound .reservation (some id)))

/-- Whether a selection has a menu. -/
def hasMenus : Option Selection → Bool
  | some s => !s.menus.isEmpty
  | none => false

/-- The integer columns of the menu and option lines. -/
def lineColumns (s : Selection) : List Int :=
  s.menus.flatMap (fun m => [m.price, m.duration, m.sortOrder]) ++
    s.options.flatMap (fun o => [o.price, o.duration])

/-- The integer columns of a reservation row. -/
def rowColumns (r : Reservation) : List Int :=
  [r.subtotal, r.optionTotal, r.nominationFee, r.discount, r.totalPrice, r.duration]

/-- The fields a draft writes, on top of `r`: the price is checked against the
draft's items, or the reservation's own when the draft has none. -/
def applyDraft (r : Reservation) (d : Draft) (customer : Uuid) (zone : String)
    (a b : DateTime) : Except Fault Reservation := do
  let (subtotal, optionTotal, duration) := match d.items with
    | some s => (s.subtotal, s.optionTotal, s.duration)
    | none => (r.subtotal, r.optionTotal, r.duration)
  let p ← (Pricing.breakdown subtotal optionTotal d.nominationFee d.discount d.totalPrice).mapError
    Fault.invalid
  pure { r with
    store := d.store, customer := customer, customerName := d.customerName
    customerPhone := d.customerPhone, practitioner := d.practitioner
    practitionerName := d.practitionerName, date := d.date, start := d.start, stop := d.stop
    periodStart := a, periodEnd := b, timezone := zone
    subtotal := p.subtotal, optionTotal := p.optionTotal, nominationFee := p.nominationFee
    discount := p.discount, totalPrice := p.total, duration := duration, source := d.source
    customerNote := d.customerNote, staffNote := d.staffNote
    googleCalendarId := d.googleCalendarId, googleCalendarEventId := d.googleCalendarEventId
    externalReservationId := d.externalReservationId }

/-- Stores a reservation row as storage would: integers must fit, the customer must
be given, and an idempotency key may be used once per tenant. -/
def checkRow (ctx : Context) (r : Reservation) (customer : Option Uuid) (key : Option String)
    (exclude : Option Uuid) : Op Unit := do
  Database.checkColumns (rowColumns r)
  if customer.isNone then throw (.missingColumn "reservations.customer_id")
  if let some k := key then
    if ((← get).reservationsOf ctx.tenant).any fun x => x.idempotencyKey == some k && exclude != some x.id then
      throw .duplicateIdempotencyKey

/-- The checks a new reservation passes before anything is read, in order: it has a
menu, its status is one a reservation may start in, and its slot has a period in
`zone`. The result is the selection, the status and the period. -/
def checkDraft (d : Draft) (zone : String) : Except Fault (Selection × Status × DateTime × DateTime) := do
  let some items := d.items | throw (.invalid .menuRequired)
  if items.menus.isEmpty then throw (.invalid .menuRequired)
  let status ← parseStatus d.status
  if !status.isInitial then throw (.invalid (.cannotCreateAs status))
  let (a, b) ← Policy.readingPeriod d.date ⟨d.start, d.startOffset⟩ ⟨d.stop, none⟩ zone
  pure (items, status, a, b)

/-- The reservation that a write with idempotency key `key` replays: the tenant's
reservation with that key, when the key is not empty. -/
def replayOf (db : Database) (ctx : Context) (key : Option String) : Option Reservation :=
  (nonEmpty key).bind (findByKey db ctx)

/-- The row of a new reservation before its draft is applied. The timestamps are
taken when the row is flushed; until then they hold the start of the period. -/
def newRow (ctx : Context) (d : Draft) (items : Selection) (status : Status) (zone : String)
    (a b : DateTime) (id : Uuid) : Reservation := {
  id := id, tenant := ctx.tenant, store := none, customer := d.customer.getD ⟨0⟩
  customerName := none, customerPhone := none, practitioner := d.practitioner
  practitionerName := none, date := d.date, start := d.start, stop := d.stop
  periodStart := a, periodEnd := b, timezone := zone, subtotal := 0, optionTotal := 0
  nominationFee := 0, discount := 0, totalPrice := 0, duration := 0, status := status
  source := none, customerNote := none, staffNote := none, canceledAt := none
  cancelReason := none, reminderSentAt := none, googleCalendarId := none
  googleCalendarEventId := none, externalReservationId := none
  idempotencyKey := d.idempotencyKey, createdAt := a, updatedAt := a
  menuItems := items.menus, optionItems := items.options }

/-- The transaction of an insert: the overlap check, the flush that stamps the row,
and what storage refuses, before the row is added. -/
def insertRow (ctx : Context) (d : Draft) (items : Selection) (drafted : Reservation) :
    Op Reservation := do
  ensureNoOverlap ctx d.practitioner drafted.periodStart drafted.periodEnd none
  let stamp ← Database.now
  let r := { drafted with createdAt := stamp, updatedAt := stamp }
  checkRow ctx r d.customer d.idempotencyKey none
  Database.checkColumns (lineColumns items)
  modify fun db => { db with reservations := db.reservations ++ [r] }
  pure r

/-- Writes a new reservation, or answers the one an earlier write with the same
non-empty idempotency key stored; the flag says whether it was created. -/
def insertOrReplay (ctx : Context) (d : Draft) (timezone : Option String) :
    Op (Reservation × Bool) := do
  let zone := (nonEmpty timezone).getD defaultZone
  let (items, status, a, b) ← checkDraft d zone
  match replayOf (← get) ctx d.idempotencyKey with
  | some r => pure (r, false)
  | none =>
    let id ← Database.freshId
    let drafted ← applyDraft (newRow ctx d items status zone a b id) d (d.customer.getD ⟨0⟩) zone a b
    let r ← Database.transaction (insertRow ctx d items drafted)
    pure (r, true)

/-- The zone an update reads its slot in: the one given, else the reservation's own,
else the default. -/
def replaceZone (timezone : Option String) (r : Reservation) : String :=
  ((nonEmpty timezone).orElse fun _ => nonEmpty (some r.timezone)).getD defaultZone

/-- The writes of an update once its slot is free: the draft applied to `r`, what
storage refuses, and the row put back with a new update time. Without items the
reservation keeps its menus and options. -/
def rewriteRow (ctx : Context) (r : Reservation) (d : Draft) (zone : String) (a b : DateTime) :
    Op Reservation := do
  let r' ← applyDraft r d (d.customer.getD r.customer) zone a b
  checkRow ctx r' d.customer none (some r.id)
  let stamp ← Database.now
  let r' := match d.items with
    | some s => { r' with menuItems := s.menus, optionItems := s.options, updatedAt := stamp }
    | none => { r' with updatedAt := stamp }
  if let some s := d.items then Database.checkColumns (lineColumns s)
  modify (·.putReservation r')
  pure r'

/-- Updates a reservation from a draft, replacing its menus and options too when
`replaceItems` holds. A terminal reservation is never updated. -/
def replace (ctx : Context) (id : Uuid) (d : Draft) (timezone : Option String)
    (replaceItems : Bool) : Op Reservation := do
  if replaceItems && !hasMenus d.items then throw (.invalid .menuRequired)
  Database.transaction do
    let r ← fetch ctx id
    if r.status.isTerminal then throw (.refused (.terminal r.status none))
    let zone := replaceZone timezone r
    let (a, b) ← Policy.readingPeriod d.date ⟨d.start, d.startOffset⟩ ⟨d.stop, none⟩ zone
    ensureNoOverlap ctx d.practitioner a b (some r.id)
    rewriteRow ctx r (if replaceItems then d else { d with items := none }) zone a b

/-- Moves a reservation to status `target`, if its lifecycle allows; a canceled
reservation records when and why. -/
def updateStatus (ctx : Context) (id : Uuid) (target : String) (reason : Option String) :
    Op Reservation := do
  let t ← parseStatus target
  Database.transaction do
    let r ← fetch ctx id
    if r.status.isTerminal then throw (.refused (.terminal r.status (some t)))
    if !r.status.allows t then throw (.invalid (.transitionRefused r.status t))
    let stamp ← Database.now
    let r' := r.moveTo t reason stamp
    modify (·.putReservation r')
    pure r'

/-- Records that the reminder of a reservation was sent. -/
def markReminderSent (ctx : Context) (id : Uuid) : Op Reservation := Database.transaction do
  let r ← fetch ctx id
  let stamp ← Database.now
  let r' := { r with reminderSentAt := some stamp, updatedAt := stamp }
  modify (·.putReservation r')
  pure r'

end Reservations

end SalonBooking
