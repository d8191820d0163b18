import SalonBooking.Booking
import SalonBooking.Link.Service
import SalonBooking.Api.Message

/-!
The documents responses carry: reservations with their menu and option lines,
pages of them, statistics, a practitioner's booked slots, booking links and what a
token resolves to. Ids are written in canonical text, dates in ISO form, wall-clock
start and end times as `HH:MM`, and instants in ISO form without an offset.
-/

namespace SalonBooking.Api

open SalonBooking.Calendar

namespace Body

def id (u : Uuid) : Json := .str u.text

def idOpt (u : Option Uuid) : Json := Json.ofString? (u.map Uuid.text)

def instant (t : Option DateTime) : Json := Json.ofString? (t.map DateTime.iso)

def menuLine (m : MenuLine) : Json :=
  .obj [("menu_id", id m.menu), ("menu_name", .str m.name), ("menu_price", .int m.price),
    ("menu_duration", .int m.duration), ("sort_order", .int m.sortOrder), ("is_main", .bool m.isMain)]

def optionLine (o : OptionLine) : Json :=
  .obj [("option_id", id o.option), ("option_name", .str o.name), ("option_price", .int o.price),
    ("option_duration", .int o.duration)]

/-- A reservation. -/
def reservation (r : Reservation) : Json :=
  .obj [("id", id r.id), ("tenant_id", id r.tenant), ("store_id", idOpt r.store),
    ("customer_id", id r.customer), ("customer_name", Json.ofString? r.customerName),
    ("customer_phone", Json.ofString? r.customerPhone), ("practitioner_id", id r.practitioner),
    ("practitioner_name", Json.ofString? r.practitionerName), ("date", .str r.date.iso),
    ("start_time", .str r.start.hhmm), ("end_time", .str r.stop.hhmm),
    ("timezone", .str r.timezone), ("menu_items", .arr (r.sortedMenus.map menuLine)),
    ("option_items", .arr (r.optionItems.map optionLine)), ("subtotal", .int r.subtotal),
    ("option_total", .int r.optionTotal), ("nomination_fee", .int r.nominationFee),
    ("discount", .int r.discount), ("total_price", .int r.totalPrice),
    ("duration", .int r.duration), ("status", .str r.status.name),
    ("source", Json.ofString? r.source), ("customer_note", Json.ofString? r.customerNote),
    ("staff_note", Json.ofString? r.staffNote), ("canceled_at", instant r.canceledAt),
    ("cancel_reason", Json.ofString? r.cancelReason),
    ("reminder_sent_at", instant r.reminderSentAt),
    ("google_calendar_id", Json.ofString? r.googleCalendarId),
    ("google_calendar_event_id", Json.ofString? r.googleCalendarEventId),
    ("external_reservation_id", Json.ofString? r.externalReservationId),
    ("created_at", instant (some r.createdAt)), ("updated_at", instant (some r.updatedAt))]

/-- A page of reservations. -/
def page (p : Page) : Json :=
  .obj [("data", .arr (p.rows.map reservation)), ("page", .int p.page), ("limit", .int p.limit),
    ("total", .int p.total), ("has_more", .bool p.hasMore)]

/-- Statistics over the dates from `a` to `b`. -/
def stats (a b : Date) (s : Stats) : Json :=
  .obj [("start_date", .str a.iso), ("end_date", .str b.iso), ("total", .int s.total),
    ("by_status", .obj (s.byStatus.map fun (st, n) => (st.name, .int n))),
    ("total_revenue", .int s.revenue)]

/-- A practitioner's booked slots on a day. -/
def bookedSlots (p : Uuid) (d : Date) (slots : List (TimeOfDay × TimeOfDay)) : Json :=
  .obj [("practitioner_id", id p), ("date", .str d.iso),
    ("slots", .arr (slots.map fun (a, b) =>
      .obj [("start_time", .str a.hhmm), ("end_time", .str b.hhmm)]))]

/-- A booking link, with the address its token opens. -/
def link (l : BookingLink) : Json :=
  .obj [("id", id l.id), ("tenant_id", id l.tenant), ("store_id", idOpt l.store),
    ("practitioner_id", id l.practitioner), ("token", .str l.token),
    ("url", .str (Link.url l.token)), ("status", .str l.status), ("created_by", .str l.createdBy),
    ("created_at", instant (some l.createdAt)), ("last_used_at", instant l.lastUsedAt),
    ("expires_at", instant l.expiresAt)]

/-- What a token resolves to. -/
def resolution (r : Link.Resolution) : Json :=
  .obj [("tenant_id", id r.tenant), ("tenant_key", .str r.tenantKey), ("store_id", idOpt r.store),
    ("practitioner_id", id r.practitioner), ("line_mode", .str r.lineMode.name),
    ("line_config_source", .str r.lineSource.name)]

end Body

end SalonBooking.Api
