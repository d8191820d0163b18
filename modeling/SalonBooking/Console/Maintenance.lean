import SalonBooking.Console.Session
import SalonBooking.Schema.Ddl
import SalonBooking.Schema.Initial
import SalonBooking.Demo

/-!
Console commands that maintain the service rather than serve it: the statements
of a schema revision, and seeding the demo salon. Seeding answers with what each
run printed and the rows left behind, where every row takes a handle as its table
is shown (tenants, stores, practitioners, customers, menus, options, links, in that
order), and the printed texts then show ids and link tokens by these handles.
-/

namespace SalonBooking.Console

open SalonBooking.Schema

/-- The statements of the first revision, applied or undone. -/
def migration (j : Json) : Read Json := do
  let changes ← match ← text j "direction" with
    | "upgrade" => pure initial.upgrade
    | "downgrade" => pure initial.downgrade
    | other => throw ("unknown direction " ++ other)
  pure (okAnswer (.obj [
    ("module", .obj [("revision", .str initial.id), ("down_revision", Json.ofString? initial.follows),
      ("branch_labels", .null), ("depends_on", .null)]),
    ("statements", .arr (changes.map fun c => .str c.sql))]))

/-- A development token as shown: its claims, keys in order. -/
def showClaims (c : Api.Claims) : String :=
  "<jwt " ++ (Json.obj [("name", Json.ofString? c.name), ("role", .str c.role),
    ("store_id", Json.ofString? c.store), ("sub", .str c.sub),
    ("tenant_id", Json.ofString? c.tenant)]).text ++ ">"

def tenantRow (t : Tenant) : Json :=
  .obj [("id", .str t.id.text), ("name", .str t.name), ("slug", .str t.slug),
    ("status", Json.ofString? t.status), ("line_config", t.lineConfig)]

def storeRow (s : Store) : Json :=
  .obj [("id", .str s.id.text), ("tenant", .str s.tenant.text), ("name", .str s.name),
    ("status", Json.ofString? s.status), ("timezone", Json.ofString? s.timezone),
    ("slot_duration", Json.ofInt? s.slotDuration),
    ("advance_booking_days", Json.ofInt? s.advanceBookingDays),
    ("cancel_deadline_hours", Json.ofInt? s.cancelDeadlineHours), ("line_config", s.lineConfig)]

def practitionerRow (p : Practitioner) : Json :=
  .obj [("id", .str p.id.text), ("tenant", .str p.tenant.text), ("name", .str p.name),
    ("is_active", .bool p.isActive), ("nomination_fee", Json.ofInt? p.nominationFee),
    ("store_ids", p.storeIds), ("line_config", p.lineConfig)]

def customerRow (c : Customer) : Json :=
  .obj [("id", .str c.id.text), ("tenant", .str c.tenant.text), ("name", .str c.name),
    ("phone", Json.ofString? c.phone)]

def menuRow (m : Menu) : Json :=
  .obj [("id", .str m.id.text), ("tenant", .str m.tenant.text), ("name", .str m.name),
    ("category", Json.ofString? m.category), ("price", .int m.price), ("duration", .int m.duration),
    ("sort_order", Json.ofInt? m.sortOrder), ("is_active", .bool m.isActive)]

def optionRow (o : MenuOption) : Json :=
  .obj [("id", .str o.id.text), ("tenant", .str o.tenant.text), ("name", .str o.name),
    ("price", .int o.price), ("duration", Json.ofInt? o.duration), ("is_active", .bool o.isActive)]

/-- Gives each id the next free handle with `letter`. -/
def nameAll (letter : String) (ids : List Uuid) : StateM Handles Unit :=
  ids.forM fun u => do
    let _ ← modifyGet fun hs => hs.bindNext letter u

/-- The rows of a database by table, with handles for all of them. -/
def tablesOf (db : Database) : StateM Handles Json := do
  nameAll "T" (db.tenants.map (·.id))
  nameAll "S" (db.stores.map (·.id))
  nameAll "P" (db.practitioners.map (·.id))
  nameAll "C" (db.customers.map (·.id))
  nameAll "M" (db.menus.map (·.id))
  nameAll "O" (db.options.map (·.id))
  nameAll "L" (db.links.map (·.id))
  relabel (kindOf db) (.obj [("tenants", .arr (db.tenants.map tenantRow)),
    ("stores", .arr (db.stores.map storeRow)),
    ("practitioners", .arr (db.practitioners.map practitionerRow)),
    ("customers", .arr (db.customers.map customerRow)), ("menus", .arr (db.menus.map menuRow)),
    ("options", .arr (db.options.map optionRow)), ("links", .arr (db.links.map linkView))])

/-- Runs the seeding `n` times, with what each run printed or why it failed. -/
def seedRuns : Nat → Database → List (String × Option Fault) × Database
  | 0, db => ([], db)
  | n + 1, db =>
    let (out, db) := match (Demo.run showClaims).run db with
      | .ok printed db' => ((printed, none), db')
      | .error f db' => (("", some f), db')
    let (rest, db) := seedRuns n db
    (out :: rest, db)

/-- Seeds the demo salon `runs` times on one database. -/
def seedDemo (j : Json) : Read Json := do
  let runs := (← intOpt j "runs").getD 1
  let base ← readStamp ((← textOpt j "now").getD "2026-02-01T00:00:00")
  let (outs, db) := seedRuns runs.toNat { clock := ⟨base.wall, 0⟩ }
  let (tables, hs) := (tablesOf db).run {}
  let masks := db.links.map fun l => (l.token, "<token:" ++ ((hs.nameOf? l.id).getD "") ++ ">")
  let shown (s : String) : String :=
    let s := String.ofList ((relabelChars (kindOf db) s.toList).run hs).1
    masks.foldl (fun s (token, mask) => if token.isEmpty then s else s.replace token mask) s
  let runDocs := outs.map fun (printed, fault) =>
    .obj ([("printed", .str (shown printed))] ++ match fault with
      | some f => [("error", .str f.kind), ("message", .str f.message)]
      | none => [])
  pure (okAnswer (.obj [("runs", .arr runDocs), ("tables", tables)]))

end SalonBooking.Console
