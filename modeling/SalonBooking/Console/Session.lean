import SalonBooking.Console.Ops
import SalonBooking.Console.Views
import SalonBooking.Console.Labels

/-!
Console sessions: a database built from a script's setup, then a sequence of
steps against it, each answered on its own. A step that fails does not stop the
session. Entities of the setup are named by handles, and the
reservations and links the steps create take handles as they are first shown.
-/

namespace SalonBooking.Console

open SalonBooking.Calendar

/-- A session: the database and the handles naming its entities. -/
structure Session where
  db : Database
  handles : Handles := {}

/-- A part of a session script. -/
abbrev Scene := StateT Session Read

/-- Reads fields that may name entities by handle. -/
def naming {α : Type} (n : Naming α) : Scene α := fun s => do
  let (a, hs) ← n.run s.handles
  pure (a, { s with handles := hs })

/-- The letter of the handles an id takes when first shown. -/
def kindOf (db : Database) (u : Uuid) : String :=
  if db.reservations.any (·.id == u) then "R"
  else if db.links.any (·.id == u) then "L"
  else "X"

/-- An answer with its ids printed as handles. -/
def printed (answer : Json) : Scene Json := fun s =>
  let (j, hs) := (relabel (kindOf s.db) answer).run s.handles
  .ok (j, { s with handles := hs })

/-- Runs an operation: the database moves on to where the operation left it, and
the answer shows the result or why it failed. -/
def perform {α : Type} (op : Op α) (view : α → Json) : Scene Json := do
  let s ← get
  match op.run s.db with
  | .ok a db =>
    set { s with db := db }
    pure (okAnswer (view a))
  | .error f db =>
    set { s with db := db }
    pure f.answer

/-- A column value: absent gives the default, `null` gives none. -/
def column {α : Type} (j : Json) (k : String) (default : Option α) (read : Json → Read α) :
    Read (Option α) :=
  match j.field? k with
  | none => pure default
  | some .null => pure none
  | some v => some <$> read v

/-- A column that must hold a value. -/
def required {α : Type} (j : Json) (k : String) (read : Json → Read α) : Read α := do
  match ← column j k none read with
  | some a => pure a
  | none => throw ("missing column " ++ k)

/-- A document column: absent gives the default, `null` is kept as it is. -/
def docColumn (j : Json) (k : String) (default : Json) : Json := (j.field? k).getD default

/-- A flag column; an unset flag counts as false. -/
def flagColumn (j : Json) (k : String) : Read Bool := do
  pure ((← column j k (some true) asBool).getD false)

/-- Binds a setup entity's handle to a new id. -/
def bindEntity (j : Json) : Naming Uuid := do
  let h ← text j "id"
  modifyGet fun hs => hs.bindNew h

/-- A store assignment document, with handles written as their ids' text. -/
def storeIdsColumn (j : Json) : Naming Json :=
  match j.field? "store_ids" with
  | none => pure (.arr [])
  | some v => withIds v

def readTenant (j : Json) : Naming Tenant := do
  pure {
    id := ← bindEntity j
    name := ← required j "name" asText
    slug := ← required j "slug" asText
    status := ← column j "status" (some "active") asText
    lineConfig := docColumn j "line_config" (.obj []) }

def readStore (j : Json) : Naming Store := do
  pure {
    id := ← bindEntity j
    tenant := ← idField j "tenant"
    name := ← required j "name" asText
    status := ← column j "status" (some "active") asText
    timezone := ← column j "timezone" none asText
    slotDuration := ← column j "slot_duration" none asInt
    advanceBookingDays := ← column j "advance_booking_days" none asInt
    cancelDeadlineHours := ← column j "cancel_deadline_hours" none asInt
    lineConfig := docColumn j "line_config" (.obj []) }

def readPractitioner (j : Json) : Naming Practitioner := do
  pure {
    id := ← bindEntity j
    tenant := ← idField j "tenant"
    name := ← required j "name" asText
    isActive := ← flagColumn j "is_active"
    nominationFee := ← column j "nomination_fee" (some 0) asInt
    storeIds := ← storeIdsColumn j
    lineConfig := docColumn j "line_config" (.obj []) }

def readCustomer (j : Json) : Naming Customer := do
  pure {
    id := ← bindEntity j
    tenant := ← idField j "tenant"
    name := ← required j "name" asText
    phone := ← column j "phone" none asText }

def readMenu (j : Json) : Naming Menu := do
  pure {
    id := ← bindEntity j
    tenant := ← idField j "tenant"
    name := ← required j "name" asText
    category := ← column j "category" none asText
    price := ← required j "price" asInt
    duration := ← required j "duration" asInt
    isActive := ← flagColumn j "is_active"
    sortOrder := ← column j "sort_order" (some 0) asInt }

def readOption (j : Json) : Naming MenuOption := do
  pure {
    id := ← bindEntity j
    tenant := ← idField j "tenant"
    name := ← required j "name" asText
    price := ← required j "price" asInt
    duration := ← column j "duration" (some 0) asInt
    isActive := ← flagColumn j "is_active" }

/-- The entities of one setup list. -/
def setupList {α : Type} (setup : Json) (k : String) (read : Json → Naming α) : Naming (List α) := do
  ((← listOpt setup k).getD []).mapM read

/-- The database a setup describes, at clock base `base`. -/
def readSetup (setup : Json) (base : DateTime) : Naming Database := do
  let tenants ← setupList setup "tenants" readTenant
  let stores ← setupList setup "stores" readStore
  let practitioners ← setupList setup "practitioners" readPractitioner
  let customers ← setupList setup "customers" readCustomer
  let menus ← setupList setup "menus" readMenu
  let options ← setupList setup "options" readOption
  pure { tenants, stores, practitioners, customers, menus, options, clock := ⟨base, 0⟩ }

/-- The context of a step: its tenant and, if given, its store. -/
def readContext (j : Json) : Naming Context := do
  pure ⟨← idField j "tenant", ← idFieldOpt j "ctx_store"⟩

/-- A written selection, or none. -/
def readItems (j : Json) : Naming (Option Selection) := do
  match given? j "items" with
  | some v => some <$> readSelection v
  | none => pure none

/-- A draft. -/
def readDraft (j : Json) : Naming Draft := do
  pure {
    practitioner := ← idField j "practitioner"
    customer := ← idFieldOpt j "customer"
    date := ← date j "date"
    start := ← time j "start"
    stop := ← time j "end"
    items := ← readItems j
    store := ← idFieldOpt j "store"
    practitionerName := ← textOpt j "practitioner_name"
    customerName := ← textOpt j "customer_name"
    customerPhone := ← textOpt j "customer_phone"
    nominationFee := (← intOpt j "nomination_fee").getD 0
    discount := (← intOpt j "discount").getD 0
    totalPrice := ← intOpt j "total_price"
    status := (← textOpt j "status").getD "pending"
    source := some ((← textOpt j "source").getD "line")
    customerNote := ← textOpt j "customer_note"
    staffNote := ← textOpt j "staff_note"
    googleCalendarId := ← textOpt j "google_calendar_id"
    googleCalendarEventId := ← textOpt j "google_calendar_event_id"
    externalReservationId := ← textOpt j "external_reservation_id"
    idempotencyKey := ← textOpt j "idempotency_key" }

/-- A list of ids written as handles or texts. -/
def idList (j : Json) (k : String) : Naming (Option (List Uuid)) := do
  match ← listOpt j k with
  | some xs => some <$> xs.mapM fun x => do idOfText (← (asText x : Read String))
  | none => pure none

/-- A booking request. -/
def readRequest (j : Json) : Naming BookingRequest := do
  pure {
    date := ← date j "date"
    start := ← time j "start"
    practitioner := ← idFieldOpt j "practitioner"
    menuIds := (← idList j "menu_ids").getD []
    optionIds := ← idList j "option_ids"
    store := ← idFieldOpt j "store"
    customer := ← idFieldOpt j "customer"
    customerName := ← textOpt j "customer_name"
    customerPhone := ← textOpt j "customer_phone"
    isNomination := ← boolOpt j "is_nomination"
    discount := (← intOpt j "discount").getD 0
    totalPrice := ← intOpt j "total_price"
    status := (← textOpt j "status").getD "pending"
    source := some ((← textOpt j "source").getD "line")
    customerNote := ← textOpt j "customer_note"
    staffNote := ← textOpt j "staff_note"
    googleCalendarId := ← textOpt j "google_calendar_id"
    googleCalendarEventId := ← textOpt j "google_calendar_event_id"
    externalReservationId := ← textOpt j "external_reservation_id"
    idempotencyKey := ← textOpt j "idempotency_key" }

/-- The actor of a step; an administrator when none is given. -/
def readActor (j : Json) : Read Actor := do
  match given? j "actor" with
  | some a =>
    pure {
      kind := ← text a "actor_type"
      id := ← textOpt a "actor_id"
      name := ← textOpt a "name"
      ipAddress := ← textOpt a "ip_address"
      userAgent := ← textOpt a "user_agent" }
  | none => pure { kind := "admin" }

/-- The filters of a listing. -/
def readFilters (j : Json) : Naming Filters := do
  match given? j "filters" with
  | none => pure {}
  | some f =>
    let status ← match given? f "status" with
      | none => pure StatusFilter.any
      | some (.str s) => pure (.one s)
      | some (.arr xs) => StatusFilter.among <$> xs.mapM fun x => (asText x : Read String)
      | some _ => throw "bad status filter"
    pure {
      status := status
      practitioner := ← idFieldOpt f "practitioner"
      customer := ← idFieldOpt f "customer"
      date := ← dateOpt f "date"
      dateFrom := ← dateOpt f "date_from"
      dateTo := ← dateOpt f "date_to" }

/-- The instant a step's policy checks read: its `now`, else the clock's base. -/
def stepNow (j : Json) : Scene Stamp := do
  match ← stampOpt j "now" with
  | some t => pure t
  | none => pure ⟨(← get).db.clock.base, some 0⟩

end SalonBooking.Console
