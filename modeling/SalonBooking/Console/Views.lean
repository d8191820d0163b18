import SalonBooking.Booking
import SalonBooking.Link.Service

/-!
What the console shows of stored rows. Ids are shown as their text here; the
session prints them as handles afterwards. Instants that only matter as having
happened are shown as flags.
-/

namespace SalonBooking.Console

open SalonBooking.Calendar

/-- An optional id as text. -/
def idText (u : Option Uuid) : Json := Json.ofString? (u.map Uuid.text)

/-- One menu line of a reservation. -/
def menuLineView (m : MenuLine) : Json :=
  .obj [("menu", .str m.menu.text), ("name", .str m.name), ("price", .int m.price),
    ("duration", .int m.duration), ("sort_order", .int m.sortOrder), ("is_main", .bool m.isMain)]

/-- One option line of a reservation, with its place among the options. -/
def optionLineView (o : OptionLine) (i : Nat) : Json :=
  .obj [("option", .str o.option.text), ("name", .str o.name), ("price", .int o.price),
    ("duration", .int o.duration), ("sort_order", .int i)]

/-- A reservation as the console shows it. -/
def reservationView (r : Reservation) : Json :=
  .obj [("id", .str r.id.text), ("tenant", .str r.tenant.text), ("store", idText r.store),
    ("customer", .str r.customer.text), ("customer_name", Json.ofString? r.customerName),
    ("customer_phone", Json.ofString? r.customerPhone),
    ("practitioner", .str r.practitioner.text),
    ("practitioner_name", Json.ofString? r.practitionerName),
    ("date", .str r.date.iso), ("start_time", .str r.start.iso), ("end_time", .str r.stop.iso),
    ("period_start", .str r.periodStart.iso), ("period_end", .str r.periodEnd.iso),
    ("timezone", .str r.timezone), ("subtotal", .int r.subtotal),
    ("option_total", .int r.optionTotal), ("nomination_fee", .int r.nominationFee),
    ("discount", .int r.discount), ("total_price", .int r.totalPrice),
    ("duration", .int r.duration), ("status", .str r.status.name),
    ("is_active", .bool r.isActive), ("source", Json.ofString? r.source),
    ("customer_note", Json.ofString? r.customerNote), ("staff_note", Json.ofString? r.staffNote),
    ("canceled", .bool r.canceledAt.isSome), ("cancel_reason", Json.ofString? r.cancelReason),
    ("reminder_sent", .bool r.reminderSentAt.isSome),
    ("google_calendar_id", Json.ofString? r.googleCalendarId),
    ("google_calendar_event_id", Json.ofString? r.googleCalendarEventId),
    ("external_reservation_id", Json.ofString? r.externalReservationId),
    ("idempotency_key", Json.ofString? r.idempotencyKey),
    ("menu_items", .arr (r.sortedMenus.map menuLineView)),
    ("option_items", .arr (r.optionItems.zipIdx.map fun (o, i) => optionLineView o i))]

/-- A booking link as the console shows it; the token itself is never shown. -/
def linkView (l : BookingLink) : Json :=
  .obj [("id", .str l.id.text), ("tenant", .str l.tenant.text), ("store", idText l.store),
    ("practitioner", .str l.practitioner.text), ("status", .str l.status),
    ("created_by", .str l.createdBy), ("token_well_formed", .bool (Link.wellFormed l.token)),
    ("token_length", .int l.token.length),
    ("expires_at", Json.ofString? (l.expiresAt.map DateTime.iso)),
    ("used", .bool l.lastUsedAt.isSome)]

/-- An entry of the audit trail. -/
def auditView (e : AuditEntry) : Json :=
  .obj [("actor_type", .str e.actor.kind), ("actor_id", Json.ofString? e.actor.id),
    ("actor_name", Json.ofString? e.actor.name), ("action", .str e.action),
    ("resource_type", .str e.resourceType), ("resource", idText e.resource),
    ("data", .obj [("before", e.before), ("after", e.after)]),
    ("ip_address", Json.ofString? e.actor.ipAddress), ("user_agent", Json.ofString? e.actor.userAgent)]

/-- A selection as the console shows it. -/
def selectionView (s : Selection) : Json :=
  .obj [("menus", .arr (s.menus.map menuLineView)),
    ("options", .arr (s.options.map fun o => .obj [("option", .str o.option.text),
      ("name", .str o.name), ("price", .int o.price), ("duration", .int o.duration)])),
    ("subtotal", .int s.subtotal), ("option_total", .int s.optionTotal),
    ("duration", .int s.duration)]

/-- Statistics as the console shows them. -/
def statsView (s : Stats) : Json :=
  .obj [("total", .int s.total),
    ("by_status", .obj (s.byStatus.map fun (st, n) => (st.name, .int n))),
    ("total_revenue", .int s.revenue)]

/-- A page as the console shows it: the rows by id. -/
def pageView (p : Page) : Json :=
  .obj [("data", .arr (p.rows.map fun r => .str r.id.text)), ("page", .int p.page),
    ("limit", .int p.limit), ("total", .int p.total), ("has_more", .bool p.hasMore)]

/-- A resolved token as the console shows it. -/
def resolutionView (r : Link.Resolution) : Json :=
  .obj [("tenant", .str r.tenant.text), ("tenant_key", .str r.tenantKey),
    ("store", idText r.store), ("practitioner", .str r.practitioner.text),
    ("line_mode", .str r.lineMode.name), ("line_config_source", .str r.lineSource.name)]

end SalonBooking.Console
