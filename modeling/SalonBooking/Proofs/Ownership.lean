import SalonBooking.Proofs.Requests
import SalonBooking.Proofs.Lifecycle
import SalonBooking.Proofs.Invariants

/-!
A customer's reservations are their own. Through the customer's endpoints a customer
sees exactly their reservations of the tenant, in listing order; a reservation they do
not hold is answered as missing, with one document whether it is absent or another
customer's, and nothing is written; what their booking adds is theirs, pending and from
the line channel; and their change puts back a reservation that is still theirs.

The ownership test is the first check the customer's flows make once the reservation is
read, so another customer's reservation is refused before its status or its deadline
is looked at. What a call adds or rewrites is said by `NewRows`: the rows of the
database after it that the database before it did not hold.
-/

namespace SalonBooking

open SalonBooking.Calendar Op Database Reservations Booking

/-! ## Listing order -/

theorem Calendar.Date.dayNumber_inj {a b : Date} : a.dayNumber = b.dayNumber ↔ a = b :=
  ⟨fun h => by cases a; cases b; simp_all, congrArg Date.dayNumber⟩

theorem Calendar.TimeOfDay.micros_inj {a b : TimeOfDay} : a.micros = b.micros ↔ a = b :=
  ⟨fun h => by cases a; cases b; simp_all, congrArg TimeOfDay.micros⟩

namespace Reservations

theorem keyLe_total (xs ys : List Int) : (keyLe xs ys || keyLe ys xs) = true := by
  induction xs generalizing ys with
  | nil => simp [keyLe]
  | cons x xs ih =>
    cases ys with
    | nil => simp [keyLe]
    | cons y ys =>
      simp only [keyLe, Bool.or_eq_true, decide_eq_true_eq, Bool.and_eq_true, beq_iff_eq]
      rcases Int.lt_trichotomy x y with h | rfl | h
      · exact .inl (.inl h)
      · simpa using ih ys
      · exact .inr (.inl h)

theorem keyLe_trans {xs ys zs : List Int} (h₁ : keyLe xs ys = true) (h₂ : keyLe ys zs = true) :
    keyLe xs zs = true := by
  induction xs generalizing ys zs with
  | nil => rfl
  | cons x xs ih =>
    cases ys with
    | nil => simp [keyLe] at h₁
    | cons y ys =>
      cases zs with
      | nil => simp [keyLe] at h₂
      | cons z zs =>
        simp only [keyLe, Bool.or_eq_true, decide_eq_true_eq, Bool.and_eq_true,
          beq_iff_eq] at h₁ h₂ ⊢
        rcases h₁ with h₁ | ⟨rfl, h₁⟩ <;> rcases h₂ with h₂ | ⟨rfl, h₂⟩
        · exact .inl (Int.lt_trans h₁ h₂)
        · exact .inl h₁
        · exact .inl h₂
        · exact .inr ⟨rfl, ih h₁ h₂⟩

/-- Reservation `a` is listed no later than `b`: by date, then start time, then the
time it was written. -/
def ListedBefore (a b : Reservation) : Prop :=
  a.date < b.date ∨ a.date = b.date ∧
    (a.start < b.start ∨ a.start = b.start ∧ a.createdAt ≤ b.createdAt)

theorem keyLe_listKey {a b : Reservation} :
    keyLe (listKey a) (listKey b) = true ↔ ListedBefore a b := by
  have hwritten : a.createdAt ≤ b.createdAt ↔
      a.createdAt.toMicros < b.createdAt.toMicros ∨ a.createdAt.toMicros = b.createdAt.toMicros :=
    Int.le_iff_lt_or_eq
  simp only [listKey, keyLe, Bool.or_eq_true, decide_eq_true_eq, Bool.and_eq_true, beq_iff_eq,
    Bool.and_true, ListedBefore, ← Date.dayNumber_inj, ← TimeOfDay.micros_inj, hwritten,
    Int.ofNat_lt, Int.natCast_inj]
  rfl

/-- A listing is sorted in listing order. -/
theorem sortBy_listKey_pairwise (rs : List Reservation) : (sortBy listKey rs).Pairwise ListedBefore :=
  (@List.pairwise_mergeSort _ (fun a b => keyLe (listKey a) (listKey b))
    (fun _ _ _ h₁ h₂ => keyLe_trans h₁ h₂) (fun a b => keyLe_total (listKey a) (listKey b)) rs).imp
    fun h => keyLe_listKey.mp h

/-- The listing of one customer's reservations. -/
theorem list_customer (db : Database) (ctx : Context) (c : Uuid) :
    list db ctx { customer := some c } =
      .ok (sortBy listKey ((db.reservationsOf ctx.tenant).filter (·.customer == c))) := by
  simp [list, keeps]
  rfl

/-- One customer's listing holds exactly the tenant's reservations of that customer, in
listing order. -/
theorem list_customer_spec (db : Database) (ctx : Context) (c : Uuid) :
    ∃ rs, list db ctx { customer := some c } = .ok rs ∧
      rs.Perm (db.reservations.filter fun r => r.tenant == ctx.tenant && r.customer == c) ∧
      rs.Pairwise ListedBefore := by
  refine ⟨_, list_customer db ctx c, ?_, sortBy_listKey_pairwise _⟩
  have hsorted := List.mergeSort_perm ((db.reservationsOf ctx.tenant).filter (·.customer == c))
    fun a b => keyLe (listKey a) (listKey b)
  simpa [sortBy, Database.reservationsOf, List.filter_filter, Bool.and_comm] using hsorted

end Reservations

/-! ## Rows a call adds or rewrites -/

/-- Every row of `db'` that `db` does not hold satisfies `P`. -/
def NewRows (db db' : Database) (P : Reservation → Prop) : Prop :=
  ∀ r ∈ db'.reservations, r ∉ db.reservations → P r

namespace NewRows

variable {db db₁ db₂ : Database} {P Q : Reservation → Prop}

theorem of_rows_eq (h : db₁.reservations = db.reservations) : NewRows db db₁ P :=
  fun _ hr hnot => absurd (h ▸ hr) hnot

theorem of_sameRows (h : SameRows db db₁) : NewRows db db₁ P := of_rows_eq h.reservations_eq

theorem congr (h : NewRows db db₁ P) (hrows : db₂.reservations = db₁.reservations) :
    NewRows db db₂ P :=
  fun r hr => h r (hrows ▸ hr)

/-- Reads before a call do not change what it adds. -/
theorem after_sameRows (h₁ : SameRows db db₁) (h : NewRows db₁ db₂ P) : NewRows db db₂ P :=
  fun r hr hnot => h r hr (h₁.reservations_eq ▸ hnot)

theorem imp (h : NewRows db db₁ P) (hPQ : ∀ r, P r → Q r) : NewRows db db₁ Q :=
  fun r hr hnot => hPQ r (h r hr hnot)

theorem append {r : Reservation} (hrows : db₁.reservations = db.reservations ++ [r]) (hr : P r) :
    NewRows db db₁ P := by
  intro x hx hnot
  rw [hrows, List.mem_append, List.mem_singleton] at hx
  rcases hx with hx | rfl
  · exact absurd hx hnot
  · exact hr

theorem put {r : Reservation} (hrows : db₁.reservations = (db.putReservation r).reservations)
    (hr : P r) : NewRows db db₁ P := by
  intro x hx hnot
  rw [hrows] at hx
  rcases mem_putReservation hx with rfl | ⟨hx, -⟩
  · exact hr
  · exact absurd hx hnot

end NewRows

/-- What every end of `x` leaves satisfies `Q`. -/
theorem wp_ends {α : Type} {x : Op α} {Q : Database → Prop} {db : Database}
    (h : wp x (fun _ => Q) (fun _ => Q) db) {f : α → Op β} (hf : ∀ a db₁, Q db₁ → wp (f a) (fun _ => Q) (fun _ => Q) db₁) :
    wp (x >>= f) (fun _ => Q) (fun _ => Q) db := by
  rw [wp_bind]
  exact wp_mono h hf fun _ _ h => h

/-! ## The customer's flows -/

/-- Reservation `id` of the tenant is held for customer `c`. -/
def Database.heldFor (db : Database) (tenant id c : Uuid) : Prop :=
  ∃ r, db.reservation? tenant id = some r ∧ r.customer = c

namespace Booking

variable {ctx : Context} {db : Database} {id c : Uuid}

theorem ownedBy_other {r : Reservation} (h : r.customer ≠ c) :
    ownedBy r (some c) = .error (.refused (.notFound .reservation (some r.id))) := by
  simp [ownedBy, h]

/-- The read of a reservation for a customer passes only with the customer's own. -/
theorem returns_ownedBy (r : Reservation) (customer : Option Uuid) :
    Returns (liftM (ownedBy r customer) : Op Unit) fun _ => ∀ c, customer = some c → r.customer = c := by
  intro db
  cases customer with
  | none => simp [ownedBy]
  | some c =>
    by_cases h : r.customer = c
    · simp [ownedBy, h]
    · simp [ownedBy, h]

/-- A change asked by customer `c` of a reservation not held for them is refused as
missing, before anything else is read, and writes nothing. -/
theorem reschedule_refuses_unheld (req : BookingRequest) (actor : Actor) (enforcePolicy : Bool)
    (includeInactive : Bool) (now : Option Stamp) (h : ¬ db.heldFor ctx.tenant id c) :
    (reschedule ctx id req actor enforcePolicy (some c) includeInactive now).run db =
      .error (.refused (.notFound .reservation (some id))) db := by
  apply run_eq_error
  cases hfetch : db.reservation? ctx.tenant id with
  | none => simp only [reschedule, reschedulingDraft, wp_bind, wp_fetch, hfetch, and_self]
  | some r =>
    obtain ⟨-, -, hid⟩ := reservation?_some hfetch
    have hother : r.customer ≠ c := fun hc => h ⟨r, hfetch, hc⟩
    simp only [reschedule, reschedulingDraft, wp_bind, wp_fetch, hfetch, wp_lift,
      ownedBy_other hother, hid, and_self]

/-- A cancellation asked by customer `c` of a reservation not held for them is refused
as missing, before anything else is read, and writes nothing. -/
theorem cancel_refuses_unheld (actor : Actor) (reason : Option String) (enforcePolicy : Bool)
    (now : Option Stamp) (h : ¬ db.heldFor ctx.tenant id c) :
    (cancel ctx id actor reason enforcePolicy (some c) now).run db =
      .error (.refused (.notFound .reservation (some id))) db := by
  apply run_eq_error
  cases hfetch : db.reservation? ctx.tenant id with
  | none => simp only [cancel, cancellation, wp_bind, wp_fetch, hfetch, and_self]
  | some r =>
    obtain ⟨-, -, hid⟩ := reservation?_some hfetch
    have hother : r.customer ≠ c := fun hc => h ⟨r, hfetch, hc⟩
    simp only [cancel, cancellation, wp_bind, wp_fetch, hfetch, wp_lift, ownedBy_other hother,
      hid, and_self]

end Booking

namespace Reservations

theorem applyDraft_owner {r r' : Reservation} {d : Draft} {customer : Uuid} {zone : String}
    {a b : DateTime} (h : applyDraft r d customer zone a b = .ok r') :
    r'.customer = customer ∧ r'.source = d.source := by
  unfold applyDraft at h
  simp only [bind, Except.bind] at h
  split at h
  · cases h
  · simp only [pure, Except.pure, Except.ok.injEq] at h
    subst h
    exact ⟨rfl, rfl⟩

/-- A write of a draft adds at most one row: the tenant's, for the draft's customer,
in the draft's status and from its source. -/
theorem insertOrReplay_newRows (ctx : Context) (d : Draft) (timezone : Option String)
    (db : Database) :
    wp (insertOrReplay ctx d timezone)
      (fun _ db' => NewRows db db' fun r => r.tenant = ctx.tenant ∧ r.customer = d.customer.getD ⟨0⟩ ∧
        parseStatus d.status = .ok r.status ∧ r.source = d.source)
      (fun _ db' => NewRows db db' fun r => r.tenant = ctx.tenant ∧ r.customer = d.customer.getD ⟨0⟩ ∧
        parseStatus d.status = .ok r.status ∧ r.source = d.source) db := by
  refine wp_mono (wp_and (insertOrReplay_wp ctx d timezone db) (insertOrReplay_creates ctx d timezone db))
    ?_ fun _ _ h => NewRows.of_sameRows h.1
  rintro ⟨r, created⟩ db' ⟨⟨rfl, hi, -⟩ | ⟨-, -, hrows⟩, hnew⟩
  · obtain ⟨_, _, _, _, drafted, _, -, hdraft, rfl, -, hrows⟩ := hnew rfl
    obtain ⟨hc, hs⟩ := applyDraft_owner hdraft
    exact NewRows.append hrows ⟨hi.tenant, hc, hi.status, hs⟩
  · exact NewRows.of_sameRows hrows

end Reservations

namespace Booking

variable {ctx : Context} {db : Database} {c : Uuid}

/-- A booking for customer `c` adds at most one row: the tenant's, of customer `c`, in
the status and from the source the request asks for. -/
theorem book_newRows {req : BookingRequest} (hc : req.customer = some c) (actor : Actor)
    (enforcePolicy includeInactive : Bool) (now : Option Stamp) (db : Database) :
    wp (book ctx req actor enforcePolicy includeInactive now)
      (fun _ db' => NewRows db db' fun r => r.tenant = ctx.tenant ∧ r.customer = c ∧
        parseStatus req.status = .ok r.status ∧ r.source = req.source)
      (fun _ db' => NewRows db db' fun r => r.tenant = ctx.tenant ∧ r.customer = c ∧
        parseStatus req.status = .ok r.status ∧ r.source = req.source) db := by
  unfold book
  have hreads := readsOnly_bookingDraft ctx req enforcePolicy includeInactive now db
  have hdrafts := returns_bookingDraft ctx req enforcePolicy includeInactive now db
  rw [wp_bind]
  refine wp_mono (wp_and hreads hdrafts) (fun ⟨store, policy, draft⟩ db₁ ⟨h₁, hd⟩ => ?_)
    fun _ _ h => NewRows.of_sameRows h.1
  -- the draft asks for the request's customer, status and source
  have hown : ∀ r : Reservation, (r.tenant = ctx.tenant ∧ r.customer = draft.customer.getD ⟨0⟩ ∧
      parseStatus draft.status = .ok r.status ∧ r.source = draft.source) →
      r.tenant = ctx.tenant ∧ r.customer = c ∧ parseStatus req.status = .ok r.status ∧
        r.source = req.source := by
    rintro r ⟨ht, hcu, hst, hs⟩
    exact ⟨ht, by rw [hcu, hd.customer, hc]; rfl, hd.status ▸ hst, hd.source ▸ hs⟩
  rw [wp_bind]
  refine wp_mono (insertOrReplay_newRows _ draft _ db₁) (fun ⟨r, created⟩ db₂ h₂ => ?_)
    fun _ _ h₂ => (h₂.imp hown).after_sameRows h₁
  have h₂' := (h₂.imp hown).after_sameRows h₁
  -- the audit entry of a creation writes no reservation
  dsimp only
  split
  · rw [wp_bind]
    exact record_keeps _ _ _ _ _ _ _ fun _ hrows _ _ => h₂'.congr hrows
  · exact h₂'

/-- A change reads the tenant's reservation `id`, which must be the customer's when the
flow acts for one, and drafts it for the customer the request names, or else for the
reservation's own. -/
theorem reschedulingDraft_reads (ctx : Context) (id : Uuid) (req : BookingRequest)
    (enforcePolicy : Bool) (customer : Option Uuid) (includeInactive : Bool) (now : Option Stamp)
    (db : Database) :
    wp (reschedulingDraft ctx id req enforcePolicy customer includeInactive now)
      (fun res _ => db.reservation? ctx.tenant id = some res.1 ∧
        res.2.2.2.customer = some (req.customer.getD res.1.customer) ∧
        ∀ c, customer = some c → res.1.customer = c)
      (fun _ _ => True) db := by
  unfold reschedulingDraft
  rw [wp_bind, wp_fetch]
  cases hfetch : db.reservation? ctx.tenant id with
  | none => trivial
  | some r =>
    -- every answer of the rest carries the reservation read
    refine wp_mono ((?_ : Returns _ fun res => res.1 = r ∧
        res.2.2.2.customer = some (req.customer.getD r.customer) ∧
        ∀ c, customer = some c → r.customer = c) db)
      (fun res _ h => ⟨by rw [h.1], by rw [h.1]; exact h.2.1, by rw [h.1]; exact h.2.2⟩)
      fun _ _ _ => trivial
    refine (returns_ownedBy r customer).bind fun _ hown => ?_
    dsimp only
    split
    · exact fun _ => trivial
    · split
      -- with the policy enforced, the old slot's cancellation deadline is checked first
      all_goals try refine (returns_any _).bind fun _ _ =>
        (returns_any (instant now)).bind fun _ _ => (returns_any _).bind fun _ _ => ?_
      all_goals refine (returns_any _).bind fun ⟨store, policy⟩ _ => ?_
      all_goals dsimp only
      all_goals split
      -- and the new date's booking window
      all_goals try refine (returns_any (instant now)).bind fun _ _ =>
        (returns_any _).bind fun _ _ => ?_
      all_goals
        exact (returns_any _).bind fun _ _ => (returns_loadCustomer ctx _).bind fun _ hcu =>
          (returns_any _).bind fun _ _ => (returns_any _).bind fun _ _ =>
            returns_pure ⟨rfl, hcu.symm, hown⟩

/-- A change asked by customer `c` that names no customer puts back a reservation of
customer `c`, and writes nothing else. -/
theorem reschedule_newRows {req : BookingRequest} (hreq : req.customer = none) (id : Uuid)
    (actor : Actor) (enforcePolicy includeInactive : Bool) (now : Option Stamp) (db : Database) :
    wp (reschedule ctx id req actor enforcePolicy (some c) includeInactive now)
      (fun _ db' => NewRows db db' (·.customer = c)) (fun _ db' => NewRows db db' (·.customer = c)) db := by
  unfold reschedule
  have hreads := readsOnly_reschedulingDraft ctx id req enforcePolicy (some c) includeInactive now db
  have hdraft := reschedulingDraft_reads ctx id req enforcePolicy (some c) includeInactive now db
  rw [wp_bind]
  refine wp_mono (wp_and hreads hdraft) (fun ⟨r, store, policy, draft⟩ db₁ ⟨h₁, _, hd, hown⟩ => ?_)
    fun _ _ h => NewRows.of_sameRows h.1
  have hcustomer : draft.customer = some c := by
    have hd : draft.customer = some (req.customer.getD r.customer) := hd
    rwa [hreq, Option.getD_none, hown c rfl] at hd
  rw [wp_bind]
  refine wp_mono (wp_and (replace_wp _ id draft _ true db₁) (replace_rewrites _ id draft _ true db₁))
    (fun r' db₂ h₂ => ?_) fun _ _ h => NewRows.of_sameRows (h₁.trans h.1)
  -- the row put back takes the draft's customer
  obtain ⟨-, r₀, _, _, _, _, -, -, -, -, hdraft', rfl, hrows⟩ := h₂
  have hown : NewRows db db₂ (·.customer = c) := by
    refine NewRows.after_sameRows h₁ (NewRows.put hrows ?_)
    have howner := (applyDraft_owner hdraft').1
    rw [hcustomer] at howner
    exact howner
  rw [wp_bind]
  exact record_keeps _ _ _ _ _ _ _ fun _ hrows _ _ => hown.congr hrows

end Booking

/-! ## The customer's endpoints -/

namespace Api

open Admission

/-- A customer's booking form asks for no customer, a pending status and the line
channel. -/
theorem customerBooking_fields (body : Option Json) (errs : List FieldError) {f : BookingRequest}
    (h : ((Form.customerBooking body).run errs).1 = some f) :
    f.customer = none ∧ f.status = "pending" ∧ f.source = some "line" := by
  unfold Form.customerBooking at h
  simp only [checking_run_bind] at h
  generalize (Form.document body).run errs = p at h
  obtain ⟨doc, s⟩ := p
  cases doc with
  | none => simp at h
  | some doc =>
    simp only [checking_run_bind, checking_run_pure] at h
    simp only [Option.bind_eq_bind, Option.bind_eq_some_iff, Option.pure_def, Option.some.injEq] at h
    -- eleven fields read, then the request built from them
    obtain ⟨_, -, _, -, _, -, _, -, _, -, _, -, _, -, _, -, _, -, _, -, _, -, rfl⟩ := h
    exact ⟨rfl, rfl, rfl⟩

/-- A customer's change form asks for no customer. -/
theorem customerChange_customer (body : Option Json) (errs : List FieldError) {f : BookingRequest}
    (h : ((Form.customerChange body).run errs).1 = some f) : f.customer = none := by
  unfold Form.customerChange at h
  simp only [checking_run_bind] at h
  generalize (Form.document body).run errs = p at h
  obtain ⟨doc, s⟩ := p
  cases doc with
  | none => simp at h
  | some doc =>
    simp only [checking_run_bind, checking_run_pure, Option.bind_eq_bind, Option.bind_eq_some_iff,
      Option.pure_def, Option.some.injEq] at h
    -- nine fields read, then the request built from them
    obtain ⟨_, -, _, -, _, -, _, -, _, -, _, -, _, -, _, -, _, -, rfl⟩ := h
    rfl

section Endpoints

variable {req : Request} {k : Caller} {A c x : Uuid} {tA tx : String}

theorem CustomerRequest.myReservations_run (h : CustomerRequest req k A c tA) :
    (myReservations req tA true).run [] = .ok (some (do
      let rs ← (Reservations.list (← get) ⟨A, k.store⟩ { customer := some c } : Except Fault _)
      pure (ok (.arr (rs.map Body.reservation)))), []) := by
  simp only [myReservations, StateT.run_bind, h.context_run, h.customer_run, ok_bind, h.contextFor]
  rfl

theorem CustomerRequest.bookMine_run (h : CustomerRequest req k A c tA) :
    (bookMine req tA true).run [] = .ok ((((Form.customerBooking req.body).run []).1.map fun form =>
      do
        let r ← Booking.book ⟨A, k.store⟩ { form with customer := some c } (k.actor req) true false none
        pure (created (Body.reservation r))), ((Form.customerBooking req.body).run []).2) := by
  simp only [bookMine, StateT.run_bind, h.context_run, h.customer_run, ok_bind, h.contextFor,
    check_run_eq]
  cases (Form.customerBooking req.body).run [] with
  | mk form errs => cases form <;> rfl

theorem CustomerRequest.rescheduleMine_run (h : CustomerRequest req k A c tA)
    (hx : Uuid.parse tx = .ok x) :
    (rescheduleMine req tA [("tenant_id", tA), ("reservation_id", tx)] true).run [] =
      .ok ((((Form.customerChange req.body).run []).1.map fun form =>
        do
          let r ← Booking.reschedule ⟨A, k.store⟩ x form (k.actor req) true (some c) false none
          pure (ok (Body.reservation r))), ((Form.customerChange req.body).run []).2) := by
  simp only [rescheduleMine, StateT.run_bind, h.context_run, h.customer_run, ok_bind, h.contextFor,
    check_run_eq, reservationParam_run hx]
  cases (Form.customerChange req.body).run [] with
  | mk form errs => cases form <;> rfl

theorem CustomerRequest.cancelMine_run (h : CustomerRequest req k A c tA)
    (hx : Uuid.parse tx = .ok x) :
    (cancelMine req tA [("tenant_id", tA), ("reservation_id", tx)] true).run [] =
      .ok ((((Form.cancellation req.body).run []).1.map fun reason =>
        do
          let r ← Booking.cancel ⟨A, k.store⟩ x (k.actor req) reason true (some c) none
          pure (ok (Body.reservation r))), ((Form.cancellation req.body).run []).2) := by
  simp only [cancelMine, StateT.run_bind, h.context_run, h.customer_run, ok_bind, h.contextFor,
    check_run_eq, reservationParam_run hx]
  cases (Form.cancellation req.body).run [] with
  | mk reason errs => cases reason <;> rfl

/-- The document a missing reservation is answered with. -/
theorem notFound_reservation_body (x : Uuid) :
    (BookingError.notFound .reservation (some x)).body =
      .obj [("error", .obj [("code", .str "NOT_FOUND"),
        ("message", .str ("Reservation not found: " ++ x.text)),
        ("details", .obj [("resource", .str "Reservation"), ("id", .str x.text)])])] := rfl

variable {db : Database} {src : Link.ByteSource}

/-- A customer's listing answers exactly their reservations of the tenant, in listing
order, and changes nothing. -/
theorem CustomerRequest.lists_own (h : CustomerRequest req k A c tA) (hm : req.method = "GET")
    (hp : Route.segments req.path = ["", "tenants", tA, "my", "reservations"]) (db : Database) :
    ∃ rs : List Reservation, (serve req true src).run db = .ok (ok (.arr (rs.map Body.reservation))) db ∧
      rs.Perm (db.reservations.filter fun r => r.tenant == A && r.customer == c) ∧
      rs.Pairwise ListedBefore := by
  obtain ⟨rs, hlist, hperm, hsorted⟩ := list_customer_spec db ⟨A, k.store⟩ c
  refine ⟨rs, ?_, hperm, hsorted⟩
  have hroute := routes_myReservations hp (isEmpty_of_parse h.path)
  rw [← hm] at hroute
  rw [serve_of_plan hroute h.myReservations_run]
  apply answering_ok
  apply run_eq_ok
  simp only [wp_bind, wp_get, wp_lift, hlist, wp_pure, and_self]

/-- A change a customer asks of a reservation the tenant does not hold for them is
answered as missing, and changes nothing. -/
theorem CustomerRequest.change_unheld (h : CustomerRequest req k A c tA) (hm : req.method = "PUT")
    (hp : Route.segments req.path = ["", "tenants", tA, "my", "reservations", tx])
    (hx : Uuid.parse tx = .ok x) {form : BookingRequest}
    (hform : (Form.customerChange req.body).run [] = (some form, [])) (hun : ¬ db.heldFor A x c) :
    (serve req true src).run db = .ok ⟨404, some (BookingError.notFound .reservation (some x)).body⟩ db := by
  have hroute := routes_rescheduleMine hp (isEmpty_of_parse h.path) (isEmpty_of_parse hx)
  rw [← hm] at hroute
  have hplan := h.rescheduleMine_run hx
  rw [hform] at hplan
  have hun : ¬ db.heldFor (⟨A, k.store⟩ : Context).tenant x c := hun
  refine serve_refused (.notFound .reservation (some x)) hroute hplan (run_eq_error ?_)
  simp only [wp_bind, wp_of_run_error (reschedule_refuses_unheld form _ true false none hun),
    and_self]

/-- A cancellation a customer asks of a reservation the tenant does not hold for them is
answered as missing, and changes nothing. -/
theorem CustomerRequest.cancel_unheld (h : CustomerRequest req k A c tA) (hm : req.method = "POST")
    (hp : Route.segments req.path = ["", "tenants", tA, "my", "reservations", tx, "cancel"])
    (hx : Uuid.parse tx = .ok x) {reason : Option String}
    (hform : (Form.cancellation req.body).run [] = (some reason, [])) (hun : ¬ db.heldFor A x c) :
    (serve req true src).run db = .ok ⟨404, some (BookingError.notFound .reservation (some x)).body⟩ db := by
  have hroute := routes_cancelMine hp (isEmpty_of_parse h.path) (isEmpty_of_parse hx)
  rw [← hm] at hroute
  have hplan := h.cancelMine_run hx
  rw [hform] at hplan
  have hun : ¬ db.heldFor (⟨A, k.store⟩ : Context).tenant x c := hun
  refine serve_refused (.notFound .reservation (some x)) hroute hplan (run_eq_error ?_)
  simp only [wp_bind, wp_of_run_error (cancel_refuses_unheld _ reason true none hun), and_self]

/-- What a customer's booking adds is theirs: the tenant's, pending and from the line
channel. -/
theorem CustomerRequest.books_own (h : CustomerRequest req k A c tA) (hm : req.method = "POST")
    (hp : Route.segments req.path = ["", "tenants", tA, "my", "reservations"]) (db : Database) :
    wp (serve req true src)
      (fun _ db' => NewRows db db' fun r => r.tenant = A ∧ r.customer = c ∧ r.status = .pending ∧
        r.source = some "line")
      (fun _ db' => NewRows db db' fun r => r.tenant = A ∧ r.customer = c ∧ r.status = .pending ∧
        r.source = some "line") db := by
  refine serve_wp (NewRows.of_rows_eq rfl) fun e ps op hroute hplan => ?_
  rw [hm, routes_bookMine hp (isEmpty_of_parse h.path)] at hroute
  cases hroute
  rw [show plan .bookMine [("tenant_id", tA)] req true src = bookMine req tA true from rfl,
    h.bookMine_run] at hplan
  simp only [Except.ok.injEq, Prod.mk.injEq, Option.map_eq_some_iff] at hplan
  obtain ⟨⟨form, hform, rfl⟩, -⟩ := hplan
  obtain ⟨-, hstatus, hsource⟩ := customerBooking_fields req.body [] hform
  -- the booking asks for customer `c`, a pending status and the line channel
  have hown : ∀ r : Reservation, r.tenant = A ∧ r.customer = c ∧
      parseStatus form.status = .ok r.status ∧ r.source = form.source →
      r.tenant = A ∧ r.customer = c ∧ r.status = .pending ∧ r.source = some "line" := by
    rintro r ⟨ht, hc, hst, hs⟩
    have hpending : parseStatus form.status = .ok .pending := by rw [hstatus]; rfl
    rw [hpending, Except.ok.injEq] at hst
    exact ⟨ht, hc, hst.symm, hs.trans hsource⟩
  have hc : ({ form with customer := some c } : BookingRequest).customer = some c := rfl
  exact wp_ends (wp_mono (book_newRows hc (k.actor req) true false none db)
    (fun _ _ hnew => hnew.imp hown) fun _ _ hnew => hnew.imp hown) fun _ _ hq => hq

/-- What a customer's change puts back is a reservation of theirs. -/
theorem CustomerRequest.changes_own (h : CustomerRequest req k A c tA) (hm : req.method = "PUT")
    (hp : Route.segments req.path = ["", "tenants", tA, "my", "reservations", tx])
    (hx : Uuid.parse tx = .ok x) (db : Database) :
    wp (serve req true src) (fun _ db' => NewRows db db' (·.customer = c))
      (fun _ db' => NewRows db db' (·.customer = c)) db := by
  refine serve_wp (NewRows.of_rows_eq rfl) fun e ps op hroute hplan => ?_
  rw [hm, routes_rescheduleMine hp (isEmpty_of_parse h.path) (isEmpty_of_parse hx)] at hroute
  cases hroute
  rw [show plan .rescheduleMine [("tenant_id", tA), ("reservation_id", tx)] req true src =
    rescheduleMine req tA [("tenant_id", tA), ("reservation_id", tx)] true from rfl,
    h.rescheduleMine_run hx] at hplan
  simp only [Except.ok.injEq, Prod.mk.injEq, Option.map_eq_some_iff] at hplan
  obtain ⟨⟨form, hform, rfl⟩, -⟩ := hplan
  -- the change form names no customer, so the reservation keeps its own
  exact wp_ends (reschedule_newRows (customerChange_customer req.body [] hform) x (k.actor req)
    true false none db) fun _ _ hq => hq

end Endpoints

/-- Customer ownership, over every request of customer `c` of tenant `A` and every
database. Their listing answers exactly the tenant's reservations of `c`, in listing
order, and changes nothing. A change or a cancellation of a reservation `x` that the
tenant does not hold for `c`, whether it is missing or another customer's, and whatever
that reservation's status or deadline, is answered 404 with one document, whose message
is "Reservation not found: x", and changes nothing. What their booking adds is the
tenant's, of customer `c`, pending and from the line channel; what their change puts
back is of customer `c`; and this at every end of the request. -/
theorem customer_reservations_owned (k : Caller) (A c : Uuid) (tA : String) (db : Database)
    (src : Link.ByteSource) :
    (∀ req : Request, CustomerRequest req k A c tA → req.method = "GET" →
      Route.segments req.path = ["", "tenants", tA, "my", "reservations"] →
      ∃ rs : List Reservation,
        (serve req true src).run db = .ok (ok (.arr (rs.map Body.reservation))) db ∧
        rs.Perm (db.reservations.filter fun r => r.tenant == A && r.customer == c) ∧
        rs.Pairwise ListedBefore) ∧
    (∀ (req : Request) (tx : String) (x : Uuid), CustomerRequest req k A c tA →
      Uuid.parse tx = .ok x → ¬ db.heldFor A x c →
      (req.method = "PUT" ∧ Route.segments req.path = ["", "tenants", tA, "my", "reservations", tx] ∧
          ∃ form, (Form.customerChange req.body).run [] = (some form, [])) ∨
        (req.method = "POST" ∧
          Route.segments req.path = ["", "tenants", tA, "my", "reservations", tx, "cancel"] ∧
          ∃ reason, (Form.cancellation req.body).run [] = (some reason, [])) →
      (serve req true src).run db = .ok ⟨404, some (.obj [("error", .obj [("code", .str "NOT_FOUND"),
        ("message", .str ("Reservation not found: " ++ x.text)),
        ("details", .obj [("resource", .str "Reservation"), ("id", .str x.text)])])])⟩ db) ∧
    (∀ req : Request, CustomerRequest req k A c tA → req.method = "POST" →
      Route.segments req.path = ["", "tenants", tA, "my", "reservations"] →
      wp (serve req true src)
        (fun _ db' => NewRows db db' fun r => r.tenant = A ∧ r.customer = c ∧
          r.status = .pending ∧ r.source = some "line")
        (fun _ db' => NewRows db db' fun r => r.tenant = A ∧ r.customer = c ∧
          r.status = .pending ∧ r.source = some "line") db) ∧
    (∀ (req : Request) (tx : String) (x : Uuid), CustomerRequest req k A c tA →
      Uuid.parse tx = .ok x → req.method = "PUT" →
      Route.segments req.path = ["", "tenants", tA, "my", "reservations", tx] →
      wp (serve req true src) (fun _ db' => NewRows db db' (·.customer = c))
        (fun _ db' => NewRows db db' (·.customer = c)) db) := by
  refine ⟨fun req h hm hp => h.lists_own hm hp db, ?_, fun req h hm hp => h.books_own hm hp db,
    fun req tx x h hx hm hp => h.changes_own hm hp hx db⟩
  intro req tx x h hx hun hreq
  rw [← notFound_reservation_body]
  rcases hreq with ⟨hm, hp, form, hform⟩ | ⟨hm, hp, reason, hform⟩
  · exact h.change_unheld hm hp hx hform hun
  · exact h.cancel_unheld hm hp hx hform hun

private def strangerDay : Date := ⟨epochDayNumber + 20500, by decide, by decide⟩
private def strangerTen : TimeOfDay := ⟨34200000000, by decide⟩
private def strangerDraft : Draft :=
  { practitioner := ⟨4⟩, customer := some ⟨3⟩, date := strangerDay, start := strangerTen,
    stop := strangerTen }
private def strangerRow : Reservation :=
  newRow ⟨⟨1⟩, none⟩ strangerDraft ⟨[], []⟩ .confirmed "UTC" ⟨strangerDay, strangerTen⟩
    ⟨strangerDay, strangerTen⟩ ⟨9⟩
private def strangerTable : Database :=
  { clock := ⟨⟨strangerDay, strangerTen⟩, 0⟩, reservations := [strangerRow] }
private def ownCaller : Caller := ⟨"00000000000000000000000000000002", .customer, some ⟨1⟩, none, none⟩
private def ownRequest (method rest : String) (body : Option Json) : Request :=
  { method := method, path := "/tenants/00000000000000000000000000000001/my/reservations" ++ rest,
    body := body,
    credential := .token ⟨"00000000000000000000000000000002", "customer",
      some "00000000000000000000000000000001", none, none⟩ false }

private theorem ownRequest_customer (method rest : String) (body : Option Json) :
    CustomerRequest (ownRequest method rest body) ownCaller ⟨1⟩ ⟨2⟩
      "00000000000000000000000000000001" :=
  ⟨rfl, rfl, rfl, by decide +kernel, rfl⟩

/-- Reservation 9 of tenant 1 is customer 3's: customer 2 lists none of it, their change
and cancellation of it are answered as if it were missing, and what their booking or
change writes is theirs. -/
theorem stranger_reservation_hidden :
    (∃ rs : List Reservation, (serve (ownRequest "GET" "" none) true Link.mixedSource).run strangerTable =
        .ok (ok (.arr (rs.map Body.reservation))) strangerTable ∧
      rs.Perm (strangerTable.reservations.filter fun r => r.tenant == ⟨1⟩ && r.customer == ⟨2⟩) ∧
      rs.Pairwise ListedBefore) ∧
    (serve (ownRequest "PUT" "/00000000000000000000000000000009"
        (some (.obj [("date", .str "2026-03-01"), ("start_time", .str "10:00")]))) true
        Link.mixedSource).run
        strangerTable =
      .ok ⟨404, some (BookingError.notFound .reservation (some ⟨9⟩)).body⟩ strangerTable ∧
    (serve (ownRequest "POST" "/00000000000000000000000000000009/cancel" (some (.obj [])))
        true Link.mixedSource).run strangerTable =
      .ok ⟨404, some (BookingError.notFound .reservation (some ⟨9⟩)).body⟩ strangerTable ∧
    wp (serve (ownRequest "POST" "" none) true Link.mixedSource)
      (fun _ db' => NewRows strangerTable db' fun r => r.tenant = ⟨1⟩ ∧ r.customer = ⟨2⟩ ∧
        r.status = .pending ∧ r.source = some "line")
      (fun _ db' => NewRows strangerTable db' fun r => r.tenant = ⟨1⟩ ∧ r.customer = ⟨2⟩ ∧
        r.status = .pending ∧ r.source = some "line") strangerTable ∧
    wp (serve (ownRequest "PUT" "/00000000000000000000000000000009" none) true Link.mixedSource)
      (fun _ db' => NewRows strangerTable db' (·.customer = ⟨2⟩))
      (fun _ db' => NewRows strangerTable db' (·.customer = ⟨2⟩)) strangerTable := by
  have howned := customer_reservations_owned ownCaller ⟨1⟩ ⟨2⟩ "00000000000000000000000000000001"
    strangerTable Link.mixedSource
  have hun : ¬ strangerTable.heldFor ⟨1⟩ ⟨9⟩ ⟨2⟩ := by
    rintro ⟨r, hr, hc⟩
    rw [show strangerTable.reservation? ⟨1⟩ ⟨9⟩ = some strangerRow from rfl, Option.some.injEq] at hr
    subst hr
    exact absurd hc (by decide)
  refine ⟨howned.1 _ (ownRequest_customer _ _ _) rfl (by decide), ?_, ?_, ?_, ?_⟩
  · exact howned.2.1 _ "00000000000000000000000000000009" ⟨9⟩ (ownRequest_customer _ _ _) rfl hun
      (.inl ⟨rfl, by decide, _, rfl⟩)
  · exact howned.2.1 _ "00000000000000000000000000000009" ⟨9⟩ (ownRequest_customer _ _ _) rfl hun
      (.inr ⟨rfl, by decide, _, rfl⟩)
  · exact howned.2.2.1 (ownRequest "POST" "" none) (ownRequest_customer _ _ _) rfl (by decide)
  · exact howned.2.2.2 (ownRequest "PUT" "/00000000000000000000000000000009" none)
      "00000000000000000000000000000009" ⟨9⟩ (ownRequest_customer _ _ _) rfl rfl (by decide)

end Api

end SalonBooking
