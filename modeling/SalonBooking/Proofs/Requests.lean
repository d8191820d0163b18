import SalonBooking.Api.Service
import SalonBooking.Proofs.Transactions

/-!
How a request reaches its endpoint, and how its outcome is answered. A path is routed
on its segments, and each routing lemma below says which endpoint a path of one shape
reaches. A customer's token for the tenant named in the path passes the checks of the
customer's endpoints without a field error, its subject read as the customer's id. A
request that passes is answered as its operation runs: a refusal of the booking rules
with its own status and `error` document, and with the database the operation left.
-/

namespace SalonBooking.Api

open SalonBooking.Calendar Op Admission

theorem ok_bind {ε α β : Type} (a : α) (f : α → Except ε β) : (Except.ok a >>= f) = f a := rfl

theorem checking_run_bind {α β : Type} (x : Checking α) (f : α → Checking β) (s : List FieldError) :
    (x >>= f).run s = (f (x.run s).1).run (x.run s).2 := rfl

theorem checking_run_pure {α : Type} (a : α) (s : List FieldError) :
    (pure a : Checking α).run s = (a, s) := rfl

/-- A text that reads as an id is not empty. -/
theorem isEmpty_of_parse {s : String} {u : Uuid} (h : Uuid.parse s = .ok u) :
    s.isEmpty = false := by
  cases hs : s.isEmpty with
  | false => rfl
  | true =>
    rw [String.isEmpty_iff.mp hs] at h
    simp [Uuid.parse] at h

/-! ## Routes -/

section Routes

variable {path tA tx : String}

theorem routes_myReservations (hp : Route.segments path = ["", "tenants", tA, "my", "reservations"])
    (hA : tA.isEmpty = false) :
    Routing.of "GET" path = .found .myReservations [("tenant_id", tA)] := by
  simp [Routing.of, hp, Route.table, Route.fit, Route.tenantPath, Route.reservationsPath,
    Route.myPath, Route.linksPath, hA, List.findSome?]

theorem routes_bookMine (hp : Route.segments path = ["", "tenants", tA, "my", "reservations"])
    (hA : tA.isEmpty = false) :
    Routing.of "POST" path = .found .bookMine [("tenant_id", tA)] := by
  simp [Routing.of, hp, Route.table, Route.fit, Route.tenantPath, Route.reservationsPath,
    Route.myPath, Route.linksPath, hA, List.findSome?]

theorem routes_rescheduleMine
    (hp : Route.segments path = ["", "tenants", tA, "my", "reservations", tx])
    (hA : tA.isEmpty = false) (hx : tx.isEmpty = false) :
    Routing.of "PUT" path = .found .rescheduleMine [("tenant_id", tA), ("reservation_id", tx)] := by
  simp [Routing.of, hp, Route.table, Route.fit, Route.tenantPath, Route.reservationsPath,
    Route.myPath, Route.linksPath, hA, hx, List.findSome?]

theorem routes_cancelMine
    (hp : Route.segments path = ["", "tenants", tA, "my", "reservations", tx, "cancel"])
    (hA : tA.isEmpty = false) (hx : tx.isEmpty = false) :
    Routing.of "POST" path = .found .cancelMine [("tenant_id", tA), ("reservation_id", tx)] := by
  simp [Routing.of, hp, Route.table, Route.fit, Route.tenantPath, Route.reservationsPath,
    Route.myPath, Route.linksPath, hA, hx, List.findSome?]

theorem routes_createLink (hp : Route.segments path = ["", "tenants", tA, "booking-links"])
    (hA : tA.isEmpty = false) :
    Routing.of "POST" path = .found .createLink [("tenant_id", tA)] := by
  simp [Routing.of, hp, Route.table, Route.fit, Route.tenantPath, Route.reservationsPath,
    Route.myPath, Route.linksPath, hA, List.findSome?]

end Routes

/-! ## Admission -/

section Admission

variable {req : Request} {k : Caller} {A c : Uuid} {tA : String}

theorem check_run_eq {α : Type} (x : Checking α) (errs : List FieldError) :
    (check x).run errs = .ok (x.run errs) := rfl

/-- A field check that records no failure passes its value on. -/
theorem check_run {α : Type} {x : Checking α} {a : α} (h : x.run [] = (a, [])) :
    (check x).run [] = .ok (a, []) := by
  show Except.ok (x.run []) = _
  rw [h]

theorem tenantParam_run (h : Uuid.parse tA = .ok A) (errs : List FieldError) :
    (tenantParam tA).run errs = .ok (some A, errs) := by
  simp [tenantParam, check, Failure.at, Field.uuid, h, StateT.run]
  rfl

theorem reservationParam_run {tA tx : String} {x : Uuid} (hx : Uuid.parse tx = .ok x)
    (errs : List FieldError) :
    (reservationParam [("tenant_id", tA), ("reservation_id", tx)]).run errs = (some x, errs) := by
  simp [reservationParam, Param.path, Failure.at, Field.uuid, List.lookup_cons, hx]
  rfl

theorem caller_run (h : req.credential.caller? = some k) (errs : List FieldError) :
    (caller req).run errs = .ok (k, errs) := by
  simp [caller, h]
  rfl

theorem atLeast_run {r : Role} (h : req.credential.caller? = some k) (hr : k.role.covers r = true)
    (errs : List FieldError) : (atLeast req r).run errs = .ok (k, errs) := by
  simp only [atLeast, StateT.run_bind, caller_run h, ok_bind, hr, if_true]
  rfl

theorem tenantAccess_run (h : req.credential.caller? = some k) (hA : Uuid.parse tA = .ok A)
    (hact : k.mayActFor A = true) (errs : List FieldError) :
    (tenantAccess req tA).run errs = .ok (some k, errs) := by
  simp only [tenantAccess, StateT.run_bind, caller_run h, tenantParam_run hA, ok_bind, hact,
    if_true]
  rfl

theorem context_run (h : req.credential.caller? = some k) (hA : Uuid.parse tA = .ok A)
    (hact : k.mayActFor A = true) (errs : List FieldError) :
    (context req tA).run errs = .ok (some (k.contextFor A), errs) := by
  simp only [context, StateT.run_bind, tenantAccess_run h hA hact, tenantParam_run hA, ok_bind]
  rfl

/-- `req` comes from customer `c` of tenant `A`: it presents an unexpired customer token
whose tenant is `A` and whose subject reads as `c`, on a path whose tenant segment `tA`
reads as `A`. -/
structure CustomerRequest (req : Request) (k : Caller) (A c : Uuid) (tA : String) : Prop where
  caller : req.credential.caller? = some k
  role : k.role = .customer
  tenant : k.tenant = some A
  subject : Uuid.ofLenient? k.sub = some c
  path : Uuid.parse tA = .ok A

theorem CustomerRequest.mayActFor (h : CustomerRequest req k A c tA) : k.mayActFor A = true := by
  simp [Caller.mayActFor, h.tenant]

theorem CustomerRequest.context_run (h : CustomerRequest req k A c tA) (errs : List FieldError) :
    (context req tA).run errs = .ok (some (k.contextFor A), errs) :=
  Api.context_run h.caller h.path h.mayActFor errs

theorem CustomerRequest.customer_run (h : CustomerRequest req k A c tA) (errs : List FieldError) :
    (customer req tA).run errs = .ok (some (k, c), errs) := by
  simp only [customer, StateT.run_bind, tenantAccess_run h.caller h.path h.mayActFor, ok_bind]
  simp [Caller.isCustomer, h.role, h.subject]
  rfl

/-- A customer acts for the tenant in the path, in the store its token names. -/
theorem CustomerRequest.contextFor (h : CustomerRequest req k A c tA) :
    k.contextFor A = ⟨A, k.store⟩ := by
  simp [Caller.contextFor, h.role]

end Admission

/-! ## Answers -/

/-- A request routed to an endpoint whose checks all pass is answered as the endpoint's
operation runs. -/
theorem serve_of_plan {req : Request} {available : Bool} {src : Link.ByteSource} {e : Endpoint}
    {ps : List (String × String)} {op : Op Response}
    (hroute : Routing.of req.method req.path = .found e ps)
    (hplan : (plan e ps req available src).run [] = .ok (some op, [])) :
    serve req available src = answering op := by
  simp only [serve, hroute, hplan]

/-- With storage open, an operation that needs it simply runs. -/
@[simp] theorem stored_true {α : Type} (op : Op α) : stored true op = op := rfl

/-- The answer to an operation: its response when it returns, the refusal's status and
document when the booking rules refuse it, and any other fault passed on; the database
is the one the operation left. -/
theorem answering_run (op : Op Response) (db : Database) :
    (answering op).run db = match op.run db with
      | .ok r db' => .ok r db'
      | .error (.refused e) db' => .ok ⟨e.httpStatus, some e.body⟩ db'
      | .error f db' => .error f db' := rfl

theorem answering_ok {op : Op Response} {db db' : Database} {r : Response}
    (h : op.run db = .ok r db') : (answering op).run db = .ok r db' := by
  rw [answering_run, h]

theorem answering_refused {op : Op Response} {db db' : Database} (e : BookingError)
    (h : op.run db = .error (.refused e) db') :
    (answering op).run db = .ok ⟨e.httpStatus, some e.body⟩ db' := by
  rw [answering_run, h]

/-- A request whose operation is refused is answered with the refusal's status and
document, on the database the operation left. -/
theorem serve_refused {req : Request} {available : Bool} {src : Link.ByteSource} {e : Endpoint}
    {ps : List (String × String)} {op : Op Response} {db db' : Database} (err : BookingError)
    (hroute : Routing.of req.method req.path = .found e ps)
    (hplan : (plan e ps req available src).run [] = .ok (some op, []))
    (h : op.run db = .error (.refused err) db') :
    (serve req available src).run db = .ok ⟨err.httpStatus, some err.body⟩ db' := by
  rw [serve_of_plan hroute hplan]
  exact answering_refused err h

/-- What every end of an operation leaves holds of every end of its answer. -/
theorem wp_answering {op : Op Response} {db : Database} {Q : Database → Prop}
    (h : wp op (fun _ => Q) (fun _ => Q) db) : wp (answering op) (fun _ => Q) (fun _ => Q) db := by
  unfold wp at h ⊢
  rw [answering_run]
  cases hrun : op.run db with
  | ok r db' => rw [hrun] at h; exact h
  | error f db' => rw [hrun] at h; cases f <;> exact h

/-- A request leaves the database as the operation its endpoint runs leaves it, and
unchanged when its checks stop it before any operation runs. -/
theorem serve_wp {req : Request} {available : Bool} {src : Link.ByteSource} {db : Database} {Q : Database → Prop}
    (hdb : Q db)
    (hop : ∀ e ps op, Routing.of req.method req.path = .found e ps →
      (plan e ps req available src).run [] = .ok (some op, []) → wp op (fun _ => Q) (fun _ => Q) db) :
    wp (serve req available src) (fun _ => Q) (fun _ => Q) db := by
  unfold serve
  split
  · exact hdb
  · exact hdb
  · exact hdb
  · next e ps hroute =>
    split
    · exact hdb
    · next op hplan => exact wp_answering (hop e ps op hroute hplan)
    · exact hdb

end SalonBooking.Api
