import SalonBooking.Console.Http

/-!
The steps of a console session. Each step names its operation in `op`, acts for
the tenant in `tenant` (scoped to `ctx_store` when given), and is answered with
its result, or with the failure that stopped it.
-/

namespace SalonBooking.Console

open SalonBooking.Calendar

/-- A reservation's id, answered as its view. -/
def withReservation (op : Op Reservation) : Scene Json := perform op reservationView

/-- A column text, or none for `null`. -/
def textOrNull (v : Json) : Read (Option String) :=
  match v with
  | .null => pure none
  | v => some <$> asText v

/-- A column integer, or none for `null`. -/
def intOrNull (v : Json) : Read (Option Int) :=
  match v with
  | .null => pure none
  | v => some <$> asInt v

/-- A column flag; `null` counts as false. -/
def flagOrNull (v : Json) : Read Bool :=
  match v with
  | .null => pure false
  | v => asBool v

/-- The change a direct write of columns `fields` makes to one row. -/
def columnWrites {α : Type} (fields : Json) (write : String → Json → Naming (α → α)) :
    Naming (α → α) := do
  let fs ← match fields with
    | .obj fs => pure fs
    | _ => throw "fields must be an object"
  let steps ← fs.mapM fun (k, v) => write k v
  pure fun a => steps.foldl (fun a f => f a) a

def tenantColumn (k : String) (v : Json) : Naming (Tenant → Tenant) := do
  match k with
  | "name" => let s ← textOrNull v; pure fun t => { t with name := s.getD "" }
  | "slug" => let s ← textOrNull v; pure fun t => { t with slug := s.getD "" }
  | "status" => let s ← textOrNull v; pure fun t => { t with status := s }
  | "line_config" => pure fun t => { t with lineConfig := v }
  | _ => throw ("unknown column " ++ k)

def storeColumn (k : String) (v : Json) : Naming (Store → Store) := do
  match k with
  | "name" => let s ← textOrNull v; pure fun t => { t with name := s.getD "" }
  | "status" => let s ← textOrNull v; pure fun t => { t with status := s }
  | "timezone" => let s ← textOrNull v; pure fun t => { t with timezone := s }
  | "slot_duration" => let n ← intOrNull v; pure fun t => { t with slotDuration := n }
  | "advance_booking_days" => let n ← intOrNull v; pure fun t => { t with advanceBookingDays := n }
  | "cancel_deadline_hours" =>
    let n ← intOrNull v; pure fun t => { t with cancelDeadlineHours := n }
  | "line_config" => pure fun t => { t with lineConfig := v }
  | _ => throw ("unknown column " ++ k)

def practitionerColumn (k : String) (v : Json) : Naming (Practitioner → Practitioner) := do
  match k with
  | "name" => let s ← textOrNull v; pure fun t => { t with name := s.getD "" }
  | "is_active" => let b ← flagOrNull v; pure fun t => { t with isActive := b }
  | "nomination_fee" => let n ← intOrNull v; pure fun t => { t with nominationFee := n }
  | "store_ids" => let ids ← withIds v; pure fun t => { t with storeIds := ids }
  | "line_config" => pure fun t => { t with lineConfig := v }
  | _ => throw ("unknown column " ++ k)

def customerColumn (k : String) (v : Json) : Naming (Customer → Customer) := do
  match k with
  | "name" => let s ← textOrNull v; pure fun t => { t with name := s.getD "" }
  | "phone" => let s ← textOrNull v; pure fun t => { t with phone := s }
  | _ => throw ("unknown column " ++ k)

def menuColumn (k : String) (v : Json) : Naming (Menu → Menu) := do
  match k with
  | "name" => let s ← textOrNull v; pure fun t => { t with name := s.getD "" }
  | "category" => let s ← textOrNull v; pure fun t => { t with category := s }
  | "price" => let n ← intOrNull v; pure fun t => { t with price := n.getD 0 }
  | "duration" => let n ← intOrNull v; pure fun t => { t with duration := n.getD 0 }
  | "is_active" => let b ← flagOrNull v; pure fun t => { t with isActive := b }
  | "sort_order" => let n ← intOrNull v; pure fun t => { t with sortOrder := n }
  | _ => throw ("unknown column " ++ k)

def optionColumn (k : String) (v : Json) : Naming (MenuOption → MenuOption) := do
  match k with
  | "name" => let s ← textOrNull v; pure fun t => { t with name := s.getD "" }
  | "price" => let n ← intOrNull v; pure fun t => { t with price := n.getD 0 }
  | "duration" => let n ← intOrNull v; pure fun t => { t with duration := n }
  | "is_active" => let b ← flagOrNull v; pure fun t => { t with isActive := b }
  | _ => throw ("unknown column " ++ k)

/-- The table a kind of catalog row lives in. -/
def tableOf : String → String
  | "tenant" => "tenants"
  | "store" => "stores"
  | "practitioner" => "practitioners"
  | "customer" => "customers"
  | "menu" => "menus"
  | "option" => "menu_options"
  | other => other

/-- The columns of a kind of catalog row that must hold a value, in table order. -/
def requiredColumns : String → List String
  | "tenant" => ["name", "slug"]
  | "store" | "practitioner" | "customer" => ["name"]
  | "menu" => ["name", "price", "duration"]
  | "option" => ["name", "price"]
  | _ => []

/-- The document columns, stored as text whatever numbers they hold. -/
def documentColumns : List String := ["line_config", "store_ids"]

/-- Checks a direct write of `fields` to row `id` as storage does: every integer must
fit its column, then no required column may become null, then a tenant's slug must
stay its own. -/
def checkWrite (kind : String) (id : Uuid) (fields : Json) : Op Unit := do
  let fs := match fields with
    | .obj fs => fs
    | _ => []
  Database.checkColumns (fs.filterMap fun (k, v) => match v with
    | .int n => if documentColumns.contains k then none else some n
    | _ => none)
  let nulled (c : String) : Bool := fs.any fun (k, v) => k == c && v matches .null
  if let some c := (requiredColumns kind).find? nulled then
    throw (.missingColumn (tableOf kind ++ "." ++ c))
  if kind == "tenant" then
    if let some (_, .str slug) := fs.find? (·.1 == "slug") then
      if (← get).tenants.any fun t => t.slug == slug && t.id != id then
        throw (.duplicateValue "tenants.slug")

/-- Applies `f` to the row with id `id`. -/
def updateRow {α : Type} (idOf : α → Uuid) (id : Uuid) (f : α → α) (rows : List α) : List α :=
  rows.map fun a => if idOf a == id then f a else a

/-- A direct write of catalog columns. -/
def setColumns (kind : String) (id : Uuid) (fields : Json) : Naming (Database → Database) := do
  match kind with
  | "tenant" =>
    let f ← columnWrites fields tenantColumn
    pure fun db => { db with tenants := updateRow (·.id) id f db.tenants }
  | "store" =>
    let f ← columnWrites fields storeColumn
    pure fun db => { db with stores := updateRow (·.id) id f db.stores }
  | "practitioner" =>
    let f ← columnWrites fields practitionerColumn
    pure fun db => { db with practitioners := updateRow (·.id) id f db.practitioners }
  | "customer" =>
    let f ← columnWrites fields customerColumn
    pure fun db => { db with customers := updateRow (·.id) id f db.customers }
  | "menu" =>
    let f ← columnWrites fields menuColumn
    pure fun db => { db with menus := updateRow (·.id) id f db.menus }
  | "option" =>
    let f ← columnWrites fields optionColumn
    pure fun db => { db with options := updateRow (·.id) id f db.options }
  | _ => throw ("unknown kind " ++ kind)

/-- The token a `link_resolve` step presents. -/
def presentedToken (j : Json) : Scene String := do
  match ← textOpt j "link" with
  | some h =>
    let id ← naming (idOfText h)
    let token := (((← get).db.links.find? (·.id == id)).map (·.token)).getD ""
    match ← listOpt j "wrap" with
    | some [a, b] => pure ((← (asText a : Read String)) ++ token ++ (← (asText b : Read String)))
    | _ => pure token
  | none => pure ((← textOpt j "token").getD "")

/-- Answers one step that acts on reservations. -/
def reservationStep (op : String) (j : Json) : Scene Json := do
  let ctx ← naming (readContext j)
  match op with
  | "create" =>
    let d ← naming (readDraft (← need j "draft"))
    perform (Reservations.insertOrReplay ctx d (← textOpt j "timezone")) fun (r, created) =>
      .obj [("reservation", reservationView r), ("created", .bool created)]
  | "store_create" =>
    let d ← naming (readDraft (← need j "draft"))
    let tz ← textOpt j "timezone"
    withReservation do return (← Reservations.insertOrReplay ctx d tz).1
  | "update" | "update_with_items" =>
    let id ← naming (idField j "id")
    let d ← naming (readDraft (← need j "draft"))
    withReservation (Reservations.replace ctx id d (← textOpt j "timezone") (op == "update_with_items"))
  | "update_status" =>
    let id ← naming (idField j "id")
    withReservation (Reservations.updateStatus ctx id (← text j "status") (← textOpt j "reason"))
  | "confirm" =>
    withReservation (Reservations.updateStatus ctx (← naming (idField j "id")) "confirmed" none)
  | "complete" =>
    withReservation (Reservations.updateStatus ctx (← naming (idField j "id")) "completed" none)
  | "mark_no_show" =>
    withReservation (Reservations.updateStatus ctx (← naming (idField j "id")) "no_show" none)
  | "store_cancel" =>
    let id ← naming (idField j "id")
    withReservation (Reservations.updateStatus ctx id "canceled" (← textOpt j "reason"))
  | "mark_reminder_sent" =>
    withReservation (Reservations.markReminderSent ctx (← naming (idField j "id")))
  | "get" =>
    let id ← naming (idField j "id")
    pure (okAnswer (match (← get).db.reservation? ctx.tenant id with
      | some r => reservationView r
      | none => .null))
  | "get_or_fail" =>
    withReservation (Reservations.fetch ctx (← naming (idField j "id")))
  | "list" =>
    let f ← naming (readFilters j)
    perform (Reservations.list (← get).db ctx f : Except Fault _) fun rs =>
      .arr (rs.map reservationView)
  | "list_paginated" =>
    let f ← naming (readFilters j)
    let r := Reservations.listPaginated (← get).db ctx f ((← intOpt j "page").getD 1)
      ((← intOpt j "limit").getD 20) ((← textOpt j "sort_by").getD "date")
      ((← textOpt j "sort_order").getD "asc")
    perform (r : Except Fault _) pageView
  | "find_by_idempotency_key" =>
    let k ← text j "key"
    pure (okAnswer (match Reservations.findByKey (← get).db ctx k with
      | some r => reservationView r
      | none => .null))
  | "has_conflict" =>
    let p ← naming (idField j "practitioner")
    let exclude ← naming (idFieldOpt j "exclude")
    let r := Reservations.hasConflict (← get).db ctx p (← date j "date") ⟨← time j "start", none⟩
      ⟨← time j "end", none⟩ exclude (← textOpt j "timezone")
    perform (r : Except Fault _) Json.bool
  | "stats" =>
    let r := Reservations.stats (← get).db ctx (← date j "start_date") (← date j "end_date")
    perform (r : Except Fault _) statsView
  | "booked_slots" =>
    let p ← naming (idField j "practitioner")
    let slots := Reservations.bookedSlots (← get).db ctx p (← date j "date")
    pure (okAnswer (.arr (slots.map fun (a, b) => .arr [.str a.iso, .str b.iso])))
  | "due_reminders" =>
    let rs := Reservations.dueReminders (← get).db ctx (← date j "date")
    pure (okAnswer (.arr (rs.map fun r => .str r.id.text)))
  | "resolve_store_policy" =>
    let store ← naming (idFieldOpt j "store")
    perform (Booking.resolveStore ctx store) fun (s, p) =>
      .obj [("store", .str s.id.text), ("policy", p.toJson)]
  | "resolve_selection" =>
    let menus := (← naming (idList j "menu_ids")).getD []
    let options := (← naming (idList j "option_ids")).getD []
    let inactive := (← boolOpt j "include_inactive").getD false
    perform (Booking.resolveSelection ctx menus options inactive) selectionView
  | "book" =>
    let req ← naming (readRequest (← need j "request"))
    let actor ← readActor j
    let enforce := (← boolOpt j "enforce_policy").getD true
    let inactive := (← boolOpt j "include_inactive").getD false
    let now ← stepNow j
    withReservation (Booking.book ctx req actor enforce inactive (some now))
  | "reschedule" =>
    let id ← naming (idField j "id")
    let req ← naming (readRequest (← need j "request"))
    let actor ← readActor j
    let enforce := (← boolOpt j "enforce_policy").getD true
    let customer ← naming (idFieldOpt j "customer")
    let inactive := (← boolOpt j "include_inactive").getD false
    let now ← stepNow j
    withReservation (Booking.reschedule ctx id req actor enforce customer inactive (some now))
  | "change_status" =>
    let id ← naming (idField j "id")
    let actor ← readActor j
    withReservation (Booking.changeStatus ctx id (← text j "status") actor (← textOpt j "reason"))
  | "cancel" =>
    let id ← naming (idField j "id")
    let actor ← readActor j
    let enforce := (← boolOpt j "enforce_policy").getD false
    let customer ← naming (idFieldOpt j "customer")
    let now ← stepNow j
    withReservation (Booking.cancel ctx id actor (← textOpt j "reason") enforce customer (some now))
  | "audit_log" =>
    let entries := (← get).db.audit.filter (·.tenant == ctx.tenant)
    pure (okAnswer (.arr (entries.map auditView)))
  | "link_create" =>
    let p ← naming (idField j "practitioner")
    let store ← naming (idFieldOpt j "store")
    let r := Link.issue ctx p (← text j "created_by") store (← stampOpt j "expires_at")
      ((← boolOpt j "reissue").getD true) ((← boolOpt j "allow_multiple").getD false)
      Link.mixedSource
    perform r linkView
  | "link_revoke" =>
    perform (Link.revoke ctx (← naming (idField j "id"))) linkView
  | "link_list" =>
    let ls := Link.listOf (← get).db ctx (← textOpt j "status")
    pure (okAnswer (.arr (ls.map linkView)))
  | _ => throw ("unknown step " ++ op)

/-- Answers one step. -/
def runStep (j : Json) : Scene Json := do
  let op ← text j "op"
  if op == "http" then httpStep j else
  let answer ← match op with
    | "set_now" =>
      let t ← stamp j "now"
      let base ← (match t.toUtc with
        | .ok u => pure u
        | .error _ => throw "bad now" : Read DateTime)
      modify fun s => { s with db := { s.db with clock := { s.db.clock with base := base } } }
      pure (okAnswer (.str "ok"))
    | "set" =>
      let id ← naming (idField j "id")
      let kind ← text j "kind"
      let fields := j.fieldD "fields"
      let change ← naming (setColumns kind id fields)
      perform (do checkWrite kind id fields; modify change) fun _ => .str "ok"
    | "link_expire" =>
      let id ← naming (idField j "id")
      let e ← stampOpt j "expires_at"
      modify fun s => { s with db := { s.db with links := s.db.links.map fun l =>
        if l.id == id then { l with expiresAt := e.map (·.wall) } else l } }
      pure (okAnswer (.str "ok"))
    | "link_resolve" =>
      let token ← presentedToken j
      perform (Link.resolve token) resolutionView
    | _ => reservationStep op j
  printed answer

/-- Runs a session script: its setup, then its steps, each answered. -/
def runScript (j : Json) : Read Json := do
  let base ← readStamp ((← textOpt j "now").getD "2026-02-01T00:00:00")
  let base := base.wall
  let (db, hs) ← (readSetup (j.fieldD "setup") base).run {}
  let steps := (← listOpt j "steps").getD []
  let (answers, _) ← (steps.mapM runStep).run ⟨db, hs⟩
  pure (.obj [("steps", .arr answers)])

end SalonBooking.Console
