import SalonBooking.Reservation.Write

/-!
Reading reservations: filtered listings, pages, statistics by status, a
practitioner's booked slots, due reminders and the advisory overlap check.
Listings are ordered by date, start time and then the order of writing; pages
also by creation, and descending pages are the exact reverse of ascending ones.
-/

namespace SalonBooking

open SalonBooking.Calendar

/-- Which statuses a listing keeps. -/
inductive StatusFilter where
  | any
  | one (name : String)
  | among (names : List String)

/-- What a listing keeps. -/
structure Filters where
  status : StatusFilter := .any
  practitioner : Option Uuid := none
  customer : Option Uuid := none
  date : Option Date := none
  dateFrom : Option Date := none
  dateTo : Option Date := none

/-- A page of a listing. -/
structure Page where
  rows : List Reservation
  page : Nat
  limit : Nat
  total : Nat
  hasMore : Bool

/-- Reservation counts by status, and the revenue of completed ones. -/
structure Stats where
  total : Nat
  byStatus : List (Status × Nat)
  revenue : Int

namespace Reservations

/-- The test a filter makes; a status that is not one refuses the listing. An
empty status text or list filters nothing. -/
def keeps (f : Filters) : Except Fault (Reservation → Bool) := do
  let statusOk : Reservation → Bool ← match f.status with
    | .any => pure fun _ => true
    | .one s =>
      if s.isEmpty then pure fun _ => true
      else do
        let st ← parseStatus s
        pure fun r => r.status == st
    | .among names =>
      if names.isEmpty then pure fun _ => true
      else do
        let sts ← names.mapM parseStatus
        pure fun r => sts.contains r.status
  pure fun r =>
    statusOk r && f.practitioner.all (r.practitioner == ·) && f.customer.all (r.customer == ·) &&
    f.date.all (r.date == ·) && f.dateFrom.all (· ≤ r.date) && f.dateTo.all (r.date ≤ ·)

/-- Whether key `a` comes before or equals key `b` in lexicographic order. -/
def keyLe : List Int → List Int → Bool
  | [], _ => true
  | _ :: _, [] => false
  | x :: xs, y :: ys => x < y || (x == y && keyLe xs ys)

/-- Sorts rows by a key, keeping the order of writing among equal keys. -/
def sortBy (key : Reservation → List Int) (rs : List Reservation) : List Reservation :=
  rs.mergeSort fun a b => keyLe (key a) (key b)

/-- The listing order: date, start time, creation. -/
def listKey (r : Reservation) : List Int :=
  [r.date.dayNumber, r.start.micros, r.createdAt.toMicros]

/-- The tenant's reservations that pass the filter, in listing order. -/
def list (db : Database) (ctx : Context) (f : Filters) : Except Fault (List Reservation) := do
  let keep ← keeps f
  pure (sortBy listKey ((db.reservationsOf ctx.tenant).filter keep))

/-- One page of the tenant's filtered reservations, sorted by `date` (date, start,
id) or `created_at` (creation, id), ascending unless the order reads `desc` in
any case. Page and limit below one count as one. -/
def listPaginated (db : Database) (ctx : Context) (f : Filters) (page limit : Int)
    (sortField sortOrder : String) : Except Fault Page := do
  let keep ← keeps f
  let page := max page 1
  let limit := max limit 1
  let offset := (page - 1) * limit
  let rows := (db.reservationsOf ctx.tenant).filter keep
  let key : Reservation → List Int ← match sortField with
    | "created_at" => pure fun r => [r.createdAt.toMicros, r.id.value]
    | "date" => pure fun r => [r.date.dayNumber, r.start.micros, r.id.value]
    | other => throw (.invalid (.unsupportedSortField other))
  if !fitsColumn limit || !fitsColumn offset then throw .integerTooLarge
  let sorted := sortBy key rows
  let sorted := if sortOrder.toLower == "desc" then sorted.reverse else sorted
  let chosen := (sorted.drop offset.toNat).take limit.toNat
  pure ⟨chosen, page.toNat, limit.toNat, rows.length,
    decide (offset + chosen.length < rows.length)⟩

/-- Counts by status of the tenant's reservations dated from `a` to `b`, and the
revenue of the completed ones. Storage adds up each status's prices in the order it holds
them; a running total beyond 64 bits is a fault. -/
def stats (db : Database) (ctx : Context) (a b : Date) : Except Fault Stats := do
  let rows := (db.reservationsOf ctx.tenant).filter fun r => a ≤ r.date && r.date ≤ b
  let groups := Status.all.map fun s => (s, rows.filter (·.status == s))
  if groups.any fun (_, g) => !runningSumFits 0 (g.map (·.totalPrice)) then throw .sumOverflow
  let byStatus := groups.map fun (s, g) => (s, g.length)
  let revenue := sumAmounts ((rows.filter (·.status == .completed)).map (·.totalPrice))
  pure ⟨rows.length, byStatus, revenue⟩

/-- The wall-clock slots a practitioner's reservations hold on day `d`, sorted. -/
def bookedSlots (db : Database) (ctx : Context) (p : Uuid) (d : Date) :
    List (TimeOfDay × TimeOfDay) :=
  let rs := (db.reservationsOf ctx.tenant).filter fun r =>
    r.practitioner == p && r.date == d && r.isActive
  (rs.map fun r => (r.start, r.stop)).mergeSort fun x y =>
    keyLe [x.1.micros, x.2.micros] [y.1.micros, y.2.micros]

/-- Pending and confirmed reservations on day `d` not yet reminded, by start time. -/
def dueReminders (db : Database) (ctx : Context) (d : Date) : List Reservation :=
  let rs := (db.reservationsOf ctx.tenant).filter fun r =>
    r.date == d && (r.status == .pending || r.status == .confirmed) && r.reminderSentAt.isNone
  sortBy (fun r => [r.start.micros]) rs

/-- Whether a slot would overlap a reservation holding the practitioner's time. -/
def hasConflict (db : Database) (ctx : Context) (p : Uuid) (d : Date) (start stop : ClockReading)
    (exclude : Option Uuid) (timezone : Option String) : Except Fault Bool := do
  let (a, b) ← Policy.readingPeriod d start stop ((nonEmpty timezone).getD defaultZone)
  pure (findOverlap db ctx p a b exclude).isSome

end Reservations

end SalonBooking
