import SalonBooking.Api.Message

/-!
The service's routes and how a request finds one. A route is a method and a path
template whose segments are fixed words or named parameters; a parameter takes one
whole, non-empty segment. Routes are tried in their order: the first whose template
and method both fit serves the request. When templates fit but no method does, the
method is not allowed; when nothing fits but the path with its trailing slash added or
removed would, the client is sent there; otherwise nothing is found.
-/

namespace SalonBooking.Api

/-- A segment of a path template. -/
inductive Segment where
  | word (text : String)
  | param (name : String)

/-- What a route does. -/
inductive Endpoint where
  | health
  | ready
  | listReservations
  | createReservation
  | checkConflict
  | reservationStats
  | dueReminders
  | getReservation
  | updateReservation
  | changeStatus
  | markReminderSent
  | cancelReservation
  | myReservations
  | bookMine
  | rescheduleMine
  | cancelMine
  | bookedSlots
  | listLinks
  | createLink
  | revokeLink
  | resolveLink
  deriving DecidableEq, Repr

/-- A route. -/
structure Route where
  method : String
  template : List Segment
  endpoint : Endpoint

namespace Route

open Segment

def tenantPath (rest : List Segment) : List Segment :=
  [word "", word "tenants", param "tenant_id"] ++ rest

def reservationsPath (rest : List Segment) : List Segment :=
  tenantPath ([word "reservations"] ++ rest)

def myPath (rest : List Segment) : List Segment :=
  tenantPath ([word "my", word "reservations"] ++ rest)

def linksPath (rest : List Segment) : List Segment :=
  tenantPath ([word "booking-links"] ++ rest)

/-- The routes, in the order they are tried. -/
def table : List Route :=
  [⟨"GET", [word "", word "health"], .health⟩,
   ⟨"GET", [word "", word "health", word "ready"], .ready⟩,
   ⟨"GET", reservationsPath [], .listReservations⟩,
   ⟨"POST", reservationsPath [], .createReservation⟩,
   ⟨"GET", reservationsPath [word "conflicts"], .checkConflict⟩,
   ⟨"GET", reservationsPath [word "stats"], .reservationStats⟩,
   ⟨"GET", reservationsPath [word "reminders", word "due"], .dueReminders⟩,
   ⟨"GET", reservationsPath [param "reservation_id"], .getReservation⟩,
   ⟨"PUT", reservationsPath [param "reservation_id"], .updateReservation⟩,
   ⟨"PATCH", reservationsPath [param "reservation_id", word "status"], .changeStatus⟩,
   ⟨"POST", reservationsPath [param "reservation_id", word "reminder-sent"], .markReminderSent⟩,
   ⟨"DELETE", reservationsPath [param "reservation_id"], .cancelReservation⟩,
   ⟨"GET", myPath [], .myReservations⟩,
   ⟨"POST", myPath [], .bookMine⟩,
   ⟨"PUT", myPath [param "reservation_id"], .rescheduleMine⟩,
   ⟨"POST", myPath [param "reservation_id", word "cancel"], .cancelMine⟩,
   ⟨"GET", tenantPath [word "practitioners", param "practitioner_id", word "booked-slots"],
     .bookedSlots⟩,
   ⟨"GET", linksPath [], .listLinks⟩,
   ⟨"POST", linksPath [], .createLink⟩,
   ⟨"DELETE", linksPath [param "link_id"], .revokeLink⟩,
   ⟨"GET", [word "", word "booking-links", param "token"], .resolveLink⟩]

/-- The parameters a path's segments give a template, if the template fits them. -/
def fit : List Segment → List String → Option (List (String × String))
  | [], [] => some []
  | word w :: ts, s :: ss => if w == s then fit ts ss else none
  | param n :: ts, s :: ss => if s.isEmpty then none else ((n, s) :: ·) <$> fit ts ss
  | _, _ => none

/-- The segments of a path: the texts before, between and after its slashes. -/
def segments (path : String) : List String := (path.toList.splitOn '/').map String.ofList

/-- Whether some route's template fits the path. -/
def anyFits (path : String) : Bool := table.any fun r => (fit r.template (segments path)).isSome

/-- The path with its trailing slash removed, or added when it has none. -/
def slashToggled (path : String) : String :=
  if path.endsWith "/" then String.ofList (path.toList.reverse.dropWhile (· == '/')).reverse
  else path ++ "/"

end Route

/-- Where a request is sent. -/
inductive Routing where
  | found (e : Endpoint) (params : List (String × String))
  | methodNotAllowed
  | redirect (path : String)
  | notFound

/-- Finds the route that serves a request. -/
def Routing.of (method path : String) : Routing :=
  let segs := Route.segments path
  match Route.table.findSome? fun r =>
      if r.method == method then (Route.fit r.template segs).map (r.endpoint, ·) else none with
  | some (e, ps) => .found e ps
  | none =>
    if Route.anyFits path then .methodNotAllowed
    else if path != "/" && Route.anyFits (Route.slashToggled path) then .redirect (Route.slashToggled path)
    else .notFound

end SalonBooking.Api
