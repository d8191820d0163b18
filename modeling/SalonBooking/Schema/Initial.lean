import SalonBooking.Schema.Basic

/-!
The first revision of the schema: the tenants and their stores, practitioners,
customers, menus and options; reservations with their menu and option lines;
booking links; and the audit trail. Reservations of one practitioner that hold the
time may not overlap, which an exclusion constraint over their periods enforces.
Undoing the revision drops the tables in the reverse order of their dependencies.
-/

namespace SalonBooking.Schema

namespace Initial

/-- The key column. -/
def key : Column := { name := "id", type := .uuid, primaryKey := true, nullable := false }

/-- The owning tenant. -/
def tenantRef : Column :=
  { name := "tenant_id", type := .uuid, nullable := false, references := some { table := "tenants" } }

def stamped (name : String) : Column := { name := name, type := .timestamp, default := some .now }

def createdAt : Column := stamped "created_at"

def updatedAt : Column := stamped "updated_at"

def text (name : String) (n : Nat) : Column := { name := name, type := .varchar n }

def requiredText (name : String) (n : Nat) : Column :=
  { name := name, type := .varchar n, nullable := false }

def number (name : String) : Column := { name := name, type := .integer }

def requiredNumber (name : String) : Column := { name := name, type := .integer, nullable := false }

def zeroByDefault (name : String) : Column :=
  { name := name, type := .integer, default := some (.literal "0") }

def document (name : String) (empty : String) : Column :=
  { name := name, type := .jsonb, default := some (.literal empty) }

def flag (name : String) (on : Bool) : Column :=
  { name := name, type := .boolean, default := some (if on then .true else .false) }

def longText (name : String) : Column := { name := name, type := .text }

def status (name : String) (initial : String) : Column :=
  { name := name, type := .varchar 20, default := some (.literal initial) }

def tenants : Table :=
  { name := "tenants"
    columns := [key, requiredText "name" 255, { requiredText "slug" 100 with unique := true },
      status "status" "active", document "line_config" "\x7b\x7d", createdAt, updatedAt] }

def stores : Table :=
  { name := "stores"
    columns := [key, tenantRef, requiredText "name" 255, status "status" "active",
      text "timezone" 50, number "slot_duration", number "advance_booking_days",
      number "cancel_deadline_hours", document "line_config" "\x7b\x7d", createdAt, updatedAt] }

def practitioners : Table :=
  { name := "practitioners"
    columns := [key, tenantRef, requiredText "name" 100, flag "is_active" true,
      zeroByDefault "nomination_fee", document "store_ids" "[]", document "line_config" "\x7b\x7d",
      createdAt, updatedAt] }

def customers : Table :=
  { name := "customers"
    columns := [key, tenantRef, requiredText "name" 100, text "phone" 20, createdAt, updatedAt] }

def menus : Table :=
  { name := "menus"
    columns := [key, tenantRef, requiredText "name" 100, longText "description",
      text "category" 100, requiredNumber "price", requiredNumber "duration",
      flag "is_active" true, zeroByDefault "sort_order", createdAt, updatedAt] }

def menuOptions : Table :=
  { name := "menu_options"
    columns := [key, tenantRef, requiredText "name" 100, requiredNumber "price",
      zeroByDefault "duration", flag "is_active" true, createdAt, updatedAt] }

def reservations : Table :=
  { name := "reservations"
    columns := [key, tenantRef,
      { name := "store_id", type := .uuid, references := some { table := "stores" } },
      { name := "customer_id", type := .uuid, nullable := false,
        references := some { table := "customers" } },
      text "customer_name" 100, text "customer_phone" 20,
      { name := "practitioner_id", type := .uuid, nullable := false,
        references := some { table := "practitioners" } },
      text "practitioner_name" 100,
      { name := "date", type := .date, nullable := false },
      { name := "start_time", type := .time, nullable := false },
      { name := "end_time", type := .time, nullable := false },
      { name := "period_start", type := .timestamp, nullable := false },
      { name := "period_end", type := .timestamp, nullable := false },
      requiredText "timezone" 50,
      zeroByDefault "subtotal", zeroByDefault "option_total", zeroByDefault "nomination_fee",
      zeroByDefault "discount", zeroByDefault "total_price", zeroByDefault "duration",
      { status "status" "pending" with nullable := false }, status "source" "line",
      longText "customer_note", longText "staff_note",
      { name := "canceled_at", type := .timestamp }, longText "cancel_reason",
      { name := "reminder_sent_at", type := .timestamp },
      text "google_calendar_id" 255, text "google_calendar_event_id" 255,
      text "external_reservation_id" 255, text "idempotency_key" 128, createdAt, updatedAt]
    constraints := [.check "ck_reservations_period_order" "period_end > period_start",
      .unique "uq_reservations_idempotency_key" ["tenant_id", "idempotency_key"]] }

/-- Two reservations of one practitioner holding the time may not share an instant. -/
def noOverlap : String :=
  "ALTER TABLE reservations\n" ++
  "        ADD CONSTRAINT ex_reservations_no_overlap\n" ++
  "        EXCLUDE USING gist (\n" ++
  "            tenant_id WITH =,\n" ++
  "            practitioner_id WITH =,\n" ++
  "            tsrange(period_start, period_end, '[)') WITH &&\n" ++
  "        )\n" ++
  "        WHERE (status NOT IN ('canceled', 'no_show'))"

/-- The line of a reservation it belongs to. -/
def reservationRef : Column :=
  { name := "reservation_id", type := .uuid, nullable := false,
    references := some { table := "reservations", onDelete := some "CASCADE" } }

def reservationMenus : Table :=
  { name := "reservation_menus"
    columns := [key, tenantRef, reservationRef,
      { name := "menu_id", type := .uuid, nullable := false }, requiredText "menu_name" 100,
      requiredNumber "menu_price", requiredNumber "menu_duration", zeroByDefault "sort_order",
      flag "is_main" false, createdAt] }

def reservationOptions : Table :=
  { name := "reservation_options"
    columns := [key, tenantRef, reservationRef,
      { name := "option_id", type := .uuid, nullable := false }, requiredText "option_name" 100,
      requiredNumber "option_price", zeroByDefault "option_duration", zeroByDefault "sort_order",
      createdAt] }

def bookingLinkTokens : Table :=
  { name := "booking_link_tokens"
    columns := [key, tenantRef,
      { name := "store_id", type := .uuid, references := some { table := "stores" } },
      { name := "practitioner_id", type := .uuid, nullable := false,
        references := some { table := "practitioners" } },
      { requiredText "token" 128 with unique := true },
      { status "status" "active" with nullable := false }, requiredText "created_by" 255,
      createdAt, { name := "last_used_at", type := .timestamp },
      { name := "expires_at", type := .timestamp }]
    constraints := [.check "ck_booking_link_tokens_status" "status IN ('active', 'revoked')"] }

def auditLogs : Table :=
  { name := "audit_logs"
    columns := [key, tenantRef, text "actor_id" 255, text "actor_type" 50, text "actor_name" 255,
      requiredText "action" 100, text "resource_type" 50,
      { name := "resource_id", type := .uuid }, { name := "data_json", type := .jsonb },
      text "ip_address" 50, longText "user_agent", createdAt] }

def index (name table : String) (columns : List String) : Change := .createIndex ⟨name, table, columns⟩

def byTenant (t : Table) : Change := index ("ix_" ++ t.name ++ "_tenant_id") t.name ["tenant_id"]

/-- The tables, in the order they are created. -/
def tables : List Table :=
  [tenants, stores, practitioners, customers, menus, menuOptions, reservations, reservationMenus,
   reservationOptions, bookingLinkTokens, auditLogs]

end Initial

open Initial in
/-- The first revision. -/
def initial : Revision where
  id := "001"
  follows := none
  upgrade :=
    [.verbatim "CREATE EXTENSION IF NOT EXISTS btree_gist",
     .createTable tenants,
     .createTable stores, byTenant stores,
     .createTable practitioners, byTenant practitioners,
     .createTable customers, byTenant customers,
     .createTable menus, byTenant menus,
     .createTable menuOptions, byTenant menuOptions,
     .createTable reservations,
     index "ix_reservations_tenant_date" "reservations" ["tenant_id", "date"],
     index "ix_reservations_practitioner_period" "reservations"
       ["tenant_id", "practitioner_id", "period_start"],
     .verbatim noOverlap,
     .createTable reservationMenus,
     index "ix_reservation_menus_reservation_id" "reservation_menus" ["reservation_id"],
     .createTable reservationOptions,
     index "ix_reservation_options_reservation_id" "reservation_options" ["reservation_id"],
     .createTable bookingLinkTokens,
     index "ix_booking_link_tokens_practitioner" "booking_link_tokens"
       ["tenant_id", "practitioner_id", "created_at"],
     .createTable auditLogs, byTenant auditLogs]
  downgrade := tables.reverse.map fun t => .dropTable t.name

end SalonBooking.Schema
