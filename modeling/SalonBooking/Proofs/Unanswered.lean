import SalonBooking.Proofs.LinkScopes
import SalonBooking.Proofs.AuditTrail

/-!
The failures a request is not answered with. Every refusal of the booking rules is
answered, with status 400, 404 or 409 and its `error` document, and routing and the checks
of an endpoint answer for themselves; what stops a request unanswered is a fault of the
endpoint's operation that is not a refusal.

A booking link order is the sharpest case. Its expiry is compared with the clock, which
reads instants without an offset, so an expiry given with an offset stops the request with
the offset mismatch, unanswered. Besides that, an admitted order ends unanswered only when
the clock runs past the calendar, every candidate token is taken, or the practitioner's
store assignment names nothing in order.
-/

namespace SalonBooking

open SalonBooking.Calendar Op Database

/-- Every refusal is answered with a client error: 400, 404 or 409. -/
theorem BookingError.httpStatus_cases (e : BookingError) :
    e.httpStatus = 400 ∨ e.httpStatus = 404 ∨ e.httpStatus = 409 := by
  cases e <;> simp [BookingError.httpStatus]

/-- An expiry given with an offset. -/
def AwareExpiry (expiresAt : Option Stamp) : Prop :=
  ∃ e, expiresAt = some e ∧ e.offset.isSome = true

/-- The faults a link issue can end with: its refusals, an expiry with an offset, the clock
running past the calendar, every candidate token taken, and a store assignment that names
nothing in order. -/
inductive IssueFault (expiresAt : Option Stamp) : Fault → Prop
  | refused (e : BookingError) : IssueFault expiresAt (.refused e)
  | offset (aware : AwareExpiry expiresAt) : IssueFault expiresAt .offsetMismatch
  | range (r : RangeError) : IssueFault expiresAt (.range r)
  | tokens : IssueFault expiresAt .tokensExhausted
  | assignment (kind : String) : IssueFault expiresAt (.notIterable kind)

/-- A store assignment fails to read only as a document that names nothing in order. -/
theorem worksAt_error {ids : Json} {sid : Uuid} {f : Fault} (h : worksAt ids sid = .error f) :
    ∃ kind, f = .notIterable kind := by
  unfold worksAt assignedStores at h
  split at h
  · simp at h
  · split at h <;> simp at h
    exact ⟨_, h.symm⟩

/-- A step whose faults are all `err`, followed by steps whose faults are too. -/
theorem Op.wp_bind_faults {α β : Type} {x : Op α} {f : α → Op β} {ok : β → Database → Prop}
    {err : Fault → Database → Prop} {db : Database} (hx : wp x (fun _ _ => True) err db)
    (hf : ∀ a db', wp (f a) ok err db') : wp (x >>= f) ok err db := by
  rw [wp_bind]
  exact wp_mono hx (fun a db' _ => hf a db') fun _ _ h => h

/-! ## The faults of an issue -/

namespace Link

variable {ctx : Context} {practitioner : Uuid} {createdBy : String} {store : Option Uuid}
  {expiresAt : Option Stamp} {db : Database} {src : ByteSource}

theorem checkExpiry_faults :
    wp (checkExpiry expiresAt) (fun _ _ => True) (fun f _ => IssueFault expiresAt f) db := by
  cases expiresAt with
  | none => trivial
  | some e =>
    simp only [checkExpiry, wp_bind]
    rw [wp_now]
    split
    · by_cases haware : e.offset.isSome = true
      · simp only [haware, if_true, wp_bind, wp_throw]
        exact .offset ⟨e, rfl, haware⟩
      · simp only [haware, Bool.false_eq_true, if_false, wp_ite, wp_throw, wp_pure]
        split
        · exact .refused _
        · trivial
    · next r _ => exact .range r

/-- An expiry with an offset stops the issue once the clock is read, before any row is
looked at. -/
theorem checkExpiry_aware {ok : Unit → Database → Prop} (he : AwareExpiry expiresAt)
    (hclock : db.ClockReadable) :
    wp (checkExpiry expiresAt) ok (fun f db' => f = .offsetMismatch ∧
      db' = { db with clock := { db.clock with reads := db.clock.reads + 1 } }) db := by
  obtain ⟨e, rfl, haware⟩ := he
  obtain ⟨t, ht⟩ := hclock
  simp only [checkExpiry, wp_bind]
  rw [wp_now, ht]
  simp only [haware, if_true, wp_bind, wp_throw, and_self]

theorem issuer_faults :
    wp (issuer ctx practitioner store) (fun _ _ => True) (fun f _ => IssueFault expiresAt f) db := by
  simp only [issuer, wp_bind, wp_get]
  split
  · next p _ =>
    split
    · simp only [wp_bind, wp_throw]
      exact .refused _
    · cases store with
      | none => trivial
      | some sid =>
        -- a named store must be found and open before the assignment is read
        dsimp only
        split
        · split
          · simp only [wp_bind, wp_throw]
            exact .refused _
          · rw [wp_bind, wp_lift]
            split
            · split
              · simp only [wp_bind, wp_throw]
                exact .refused _
              · trivial
            · next f hf =>
              obtain ⟨kind, rfl⟩ := worksAt_error hf
              exact .assignment kind
        · simp only [wp_bind, wp_throw]
          exact .refused _
  · exact .refused _

theorem addLink_faults :
    wp (addLink ctx practitioner createdBy store expiresAt src) (fun _ _ => True)
      (fun f _ => IssueFault expiresAt f) db := by
  refine wp_mono (addLink_wp ctx practitioner createdBy store expiresAt db src) (fun _ _ _ => trivial)
    fun f _ h => ?_
  rcases h.2.2 with rfl | ⟨r, rfl⟩
  · exact .tokens
  · exact .range r

/-- Every way an issue can fail is an issue fault. -/
theorem issue_faults (reissue allowMultiple : Bool) :
    wp (issue ctx practitioner createdBy store expiresAt reissue allowMultiple src) (fun _ _ => True)
      (fun f _ => IssueFault expiresAt f) db := by
  unfold issue
  refine wp_bind_faults checkExpiry_faults fun _ db₁ => ?_
  rw [wp_transaction]
  refine wp_bind_faults issuer_faults fun _ db₂ => ?_
  rw [wp_bind, wp_get]
  dsimp only
  split
  · rw [wp_bind, wp_modify]
    exact addLink_faults
  · split
    · rw [wp_bind, wp_throw]
      exact .refused _
    · exact addLink_faults

end Link

namespace Api

open Admission

section Answers

variable {op : Op Response} {db db' : Database} {f : Fault}

/-- An answered operation ends unanswered only where the operation failed with something
other than a refusal. -/
theorem answering_error (h : (answering op).run db = .error f db') :
    op.run db = .error f db' ∧ ∀ e, f ≠ .refused e := by
  rw [answering_run] at h
  split at h
  · cases h
  · cases h
  · next f₁ db₁ hnot hrun =>
    cases h
    exact ⟨hrun, hnot⟩

/-- A failure other than a refusal passes through the answer as it is. -/
theorem answering_fault (h : op.run db = .error f db') (hf : ∀ e, f ≠ .refused e) :
    (answering op).run db = .error f db' := by
  rw [answering_run, h]
  cases f with
  | refused e => exact absurd rfl (hf e)
  | _ => rfl

/-- A request ends unanswered only when its endpoint's checks passed and the operation it
runs failed with something other than a refusal: routing and the checks answer for
themselves, and every refusal is answered. -/
theorem serve_error {req : Request} {available : Bool} {src : Link.ByteSource}
    (h : (serve req available src).run db = .error f db') :
    (∃ e ps op, Routing.of req.method req.path = .found e ps ∧
      (plan e ps req available src).run [] = .ok (some op, []) ∧ op.run db = .error f db') ∧
    ∀ e, f ≠ .refused e := by
  unfold serve at h
  split at h
  · cases h
  · cases h
  · cases h
  · next e ps hroute =>
    split at h
    · cases h
    · next op hplan =>
      obtain ⟨hrun, hnot⟩ := answering_error h
      exact ⟨⟨e, ps, op, hroute, hplan, hrun⟩, hnot⟩
    · cases h

end Answers

/-! ## Link orders -/

/-- `req` comes from a manager or owner `k` who may act for tenant `A`, on a path whose
tenant segment `tA` reads as `A`. -/
structure ManagerRequest (req : Request) (k : Caller) (A : Uuid) (tA : String) : Prop where
  caller : req.credential.caller? = some k
  role : k.role.covers .manager = true
  access : k.mayActFor A = true
  path : Uuid.parse tA = .ok A

section LinkOrders

variable {req : Request} {k : Caller} {A : Uuid} {tA : String} {o : LinkOrder} {db : Database}
  {src : Link.ByteSource}

/-- A manager's link order that reads is answered as its issue runs. -/
theorem ManagerRequest.serve_createLink (h : ManagerRequest req k A tA) (hm : req.method = "POST")
    (hp : Route.segments req.path = ["", "tenants", tA, "booking-links"])
    (ho : (Form.linkOrder req.body).run [] = (some o, [])) (available : Bool) :
    serve req available src = answering (issueLink req (k.contextFor A) k o available src) := by
  have hplan : (plan .createLink [("tenant_id", tA)] req available src).run [] =
      .ok (some (issueLink req (k.contextFor A) k o available src), []) := by
    rw [show plan .createLink [("tenant_id", tA)] req available src =
      createLink req tA available src from rfl]
    simp only [createLink, StateT.run_bind, context_run h.caller h.path h.access,
      atLeast_run h.caller h.role, check_run ho, ok_bind]
    rfl
  exact serve_of_plan (hm ▸ routes_createLink hp (isEmpty_of_parse h.path)) hplan

/-- With storage open, an order's issue fails only with an issue fault; the audit entry
that follows never fails. -/
theorem issueLink_faults (ctx : Context) (user : Caller) :
    wp (issueLink req ctx user o true src) (fun _ _ => True)
      (fun f _ => IssueFault o.expiresAt f) db := by
  unfold issueLink
  simp only [Bool.not_true, Bool.false_eq_true, if_false]
  refine wp_bind_faults (Link.issue_faults o.reissue o.allowMultiple) fun l db₁ => ?_
  rw [wp_bind]
  exact record_keeps _ _ _ _ _ _ _ fun _ _ _ _ => trivial

/-- With storage open, an order whose expiry carries an offset fails at the first reading of
the clock. -/
theorem issueLink_aware (ctx : Context) (user : Caller) (he : AwareExpiry o.expiresAt)
    (hclock : db.ClockReadable) :
    (issueLink req ctx user o true src).run db =
      .error .offsetMismatch { db with clock := { db.clock with reads := db.clock.reads + 1 } } := by
  apply run_eq_error
  unfold issueLink Link.issue
  simp only [Bool.not_true, Bool.false_eq_true, if_false, wp_bind]
  exact Link.checkExpiry_aware he hclock

end LinkOrders

/-- Every refusal is answered, with status 400, 404 or 409. A manager's link order that
reads is not always: with storage open, an expiry given with an offset stops it at the
offset mismatch once the clock reads, and otherwise it stops unanswered only at that
mismatch, at the clock running past the calendar, at every candidate token taken, or at a
store assignment that names nothing in order. -/
theorem refusals_answered_aware_expiry_unanswered (req : Request) (db : Database)
    (src : Link.ByteSource) :
    (∀ available f db', (serve req available src).run db = .error f db' → ∀ e, f ≠ .refused e) ∧
    (∀ e : BookingError, e.httpStatus = 400 ∨ e.httpStatus = 404 ∨ e.httpStatus = 409) ∧
    ∀ k A tA o, ManagerRequest req k A tA → req.method = "POST" →
      Route.segments req.path = ["", "tenants", tA, "booking-links"] →
      (Form.linkOrder req.body).run [] = (some o, []) →
      (∀ f db', (serve req true src).run db = .error f db' →
        (f = .offsetMismatch ∧ AwareExpiry o.expiresAt) ∨ f = .tokensExhausted ∨
          (∃ r, f = .range r) ∨ ∃ kind, f = .notIterable kind) ∧
      (AwareExpiry o.expiresAt → db.ClockReadable →
        ∃ db', (serve req true src).run db = .error .offsetMismatch db') := by
  refine ⟨fun available f db' h => (serve_error h).2, BookingError.httpStatus_cases,
    fun k A tA o h hm hp ho => ⟨fun f db' hrun => ?_, fun he hclock => ?_⟩⟩
  · rw [h.serve_createLink hm hp ho true] at hrun
    obtain ⟨hop, hnot⟩ := answering_error hrun
    cases (wp_iff_run.mp (issueLink_faults (k.contextFor A) k)).2 f db' hop with
    | refused e => exact absurd rfl (hnot e)
    | offset aware => exact .inl ⟨rfl, aware⟩
    | range r => exact .inr (.inr (.inl ⟨r, rfl⟩))
    | tokens => exact .inr (.inl rfl)
    | assignment kind => exact .inr (.inr (.inr ⟨kind, rfl⟩))
  · rw [h.serve_createLink hm hp ho true]
    exact ⟨_, answering_fault (issueLink_aware _ _ he hclock) fun _ => nofun⟩

/-! ## An order with an offset -/

private def linkDay : Date := ⟨epochDayNumber + 20005, by decide, by decide⟩
private def newYear2030 : DateTime :=
  ⟨⟨epochDayNumber + 21915, by decide, by decide⟩, TimeOfDay.midnight⟩
private def ownerCaller : Caller := ⟨"owner-1", .owner, some ⟨1⟩, none, none⟩
private def awareOrder : Request :=
  { method := "POST", path := "/tenants/00000000000000000000000000000001/booking-links",
    body := some (.obj [("practitioner_id", .str "00000000000000000000000000000003"),
      ("expires_at", .str "2030-01-01T00:00:00+00:00")])
    credential := .token ⟨"owner-1", "owner", some "00000000000000000000000000000001", none, none⟩
      false }
/-- Tenant 1 with one active practitioner, 3, who works anywhere. -/
private def linkTable : Database :=
  { practitioners := [⟨⟨3⟩, ⟨1⟩, "Aki", true, none, .arr [], .null⟩]
    clock := ⟨⟨linkDay, TimeOfDay.midnight⟩, 0⟩ }

private def awareLink : LinkOrder := ⟨⟨3⟩, none, some ⟨newYear2030, some 0⟩, true, false⟩

/-- An owner of tenant 1 orders a link for practitioner 3 that expires at midnight on
2030-01-01, written with the offset `+00:00`: the order reads and is admitted, and the
request stops unanswered at the offset mismatch. -/
theorem aware_link_order_unanswered :
    ManagerRequest awareOrder ownerCaller ⟨1⟩ "00000000000000000000000000000001" ∧
    awareOrder.method = "POST" ∧
    Route.segments awareOrder.path =
      ["", "tenants", "00000000000000000000000000000001", "booking-links"] ∧
    (Form.linkOrder awareOrder.body).run [] = (some awareLink, []) ∧
    AwareExpiry awareLink.expiresAt ∧ linkTable.ClockReadable ∧
    ∃ db', (serve awareOrder true Link.mixedSource).run linkTable = .error .offsetMismatch db' := by
  have hreq : ManagerRequest awareOrder ownerCaller ⟨1⟩ "00000000000000000000000000000001" :=
    ⟨rfl, rfl, rfl, rfl⟩
  have hp : Route.segments awareOrder.path =
      ["", "tenants", "00000000000000000000000000000001", "booking-links"] := by decide
  have ho : (Form.linkOrder awareOrder.body).run [] = (some awareLink, []) := rfl
  have he : AwareExpiry awareLink.expiresAt := ⟨_, rfl, rfl⟩
  have hclock : linkTable.ClockReadable := ⟨_, rfl⟩
  exact ⟨hreq, rfl, hp, ho, he, hclock,
    ((refusals_answered_aware_expiry_unanswered awareOrder linkTable Link.mixedSource).2.2 _ _ _ _
      hreq rfl hp ho).2 he hclock⟩

end Api

end SalonBooking
