import SalonBooking.Proofs.Ownership

/-!
The audit trail of the booking flows. A booking that creates a reservation writes one
`create` entry about it, with no `before` and the stored reservation's summary `after`;
a booking answered by a replay writes none. A change writes one `update` entry whose
`before` and `after` are the summaries of the reservation before and after it; a status
change and a cancellation write one entry whose documents carry the old and the new
status. A call that fails writes none.

An audit entry is written on its own once the change is committed, and a failure to
write it is dropped: it is written exactly when the clock can still be read
(`Database.ClockReadable`). When that holds after every call of a run of flows, the
entries about each reservation tell its history (`AuditHistory`): its creation, then
entries whose `before` status is the `after` status of the entry before them, and last
the status it has now (`Trailed.run`).
-/

namespace SalonBooking

open SalonBooking.Calendar Op Database Reservations Booking

namespace Database

/-- The clock can still be read: its next reading lies in the calendar. -/
def ClockReadable (db : Database) : Prop :=
  ∃ t, db.clock.base.shift ((db.clock.reads + 1 : Nat) : Int) = .ok t

/-- The audit entries about reservation `x`, oldest first. -/
def trailOf (db : Database) (x : Uuid) : List AuditEntry :=
  db.audit.filter fun e => e.resourceType == "reservation" && e.resource == some x

end Database

/-- The entry is about reservation `x`. -/
def AuditEntry.About (e : AuditEntry) (x : Uuid) : Prop :=
  e.resourceType = "reservation" ∧ e.resource = some x

/-- The audit entries about one reservation, oldest first, ending in status `s`: its
creation, with no `before`; then entries whose `before` status is the `after` status of
the entry before them; the last `after` status is `s`. -/
inductive AuditHistory : List AuditEntry → Json → Prop
  | created {e : AuditEntry} {s : Json} (action : e.action = "create") (before : e.before = .null)
      (after : e.after.field? "status" = some s) : AuditHistory [e] s
  | next {es : List AuditEntry} {e : AuditEntry} {s s' : Json} (h : AuditHistory es s)
      (before : e.before.field? "status" = some s) (after : e.after.field? "status" = some s') :
      AuditHistory (es ++ [e]) s'

/-- The audit trail tells the history of every stored reservation, and holds nothing
about an id under which none is stored. -/
structure Trailed (db : Database) : Prop where
  absent : ∀ x, db.row x = none → db.trailOf x = []
  present : ∀ x r, db.row x = some r → AuditHistory (db.trailOf x) (.str r.status.name)

/-! ## The trail of one reservation -/

section Trail

variable {db db' : Database} {e : AuditEntry} {x : Uuid}

theorem trailOf_of_audit (h : db'.audit = db.audit) (x : Uuid) : db'.trailOf x = db.trailOf x := by
  rw [trailOf, trailOf, h]

theorem trailOf_append_about (h : db'.audit = db.audit ++ [e]) (he : e.About x) :
    db'.trailOf x = db.trailOf x ++ [e] := by
  obtain ⟨htype, hres⟩ := he
  simp [trailOf, h, List.filter_append, htype, hres]

theorem trailOf_append_other (h : db'.audit = db.audit ++ [e]) {y : Uuid} (he : e.About y)
    (hne : y ≠ x) : db'.trailOf x = db.trailOf x := by
  obtain ⟨-, hres⟩ := he
  simp [trailOf, h, List.filter_append, hres, hne]

/-- No stored reservation has an id not yet given out. -/
theorem Reservations.Consistent.row_fresh (hc : Consistent db) (h : db.issued < x.value) : db.row x = none := by
  cases hrow : db.row x with
  | none => rfl
  | some y =>
    have hy := hc.given y (List.mem_of_find?_eq_some hrow)
    rw [row_id hrow] at hy
    omega

end Trail

/-- One flow call's write, as the audit trail sees it. -/
inductive TrailStep (db db' : Database) : Prop
  /-- Nothing is stored and nothing audited. -/
  | keep (rows : db'.reservations = db.reservations) (audit : db'.audit = db.audit)
  /-- A reservation with a new id is stored, and its creation audited. -/
  | create (r : Reservation) (e : AuditEntry) (fresh : db.issued < r.id.value)
      (rows : db'.reservations = db.reservations ++ [r]) (audit : db'.audit = db.audit ++ [e])
      (about : e.About r.id) (action : e.action = "create") (before : e.before = .null)
      (after : e.after.field? "status" = some (.str r.status.name))
  /-- A stored reservation is put back changed, and the change audited. -/
  | change (r r' : Reservation) (e : AuditEntry) (mem : r ∈ db.reservations) (id : r'.id = r.id)
      (rows : db'.reservations = (db.putReservation r').reservations)
      (audit : db'.audit = db.audit ++ [e]) (about : e.About r.id)
      (before : e.before.field? "status" = some (.str r.status.name))
      (after : e.after.field? "status" = some (.str r'.status.name))

/-- A reservation read under some id and put back under its own id, with one entry about
it whose documents carry the old and the new status, is a change of the trail. -/
theorem TrailStep.put {db db' : Database} {tenant id : Uuid} {r r' : Reservation}
    {e : AuditEntry} (hfetch : db.reservation? tenant id = some r) (hid : r'.id = r.id)
    (rows : db'.reservations = (db.putReservation r').reservations)
    (audit : db'.audit = db.audit ++ [e]) (htype : e.resourceType = "reservation")
    (hres : e.resource = some r'.id) (before : e.before.field? "status" = some (.str r.status.name))
    (after : e.after.field? "status" = some (.str r'.status.name)) : TrailStep db db' :=
  .change r r' e (reservation?_some hfetch).1 hid rows audit ⟨htype, hres.trans (by rw [hid])⟩
    before after

/-- Every flow call keeps the audit trail telling each reservation's history. -/
theorem Trailed.step {db db' : Database} (hc : Consistent db) (ht : Trailed db)
    (hs : TrailStep db db') : Trailed db' := by
  cases hs with
  | keep rows audit =>
    refine ⟨fun x hx => ?_, fun x r hx => ?_⟩
    · rw [trailOf_of_audit audit]
      exact ht.absent x (by rwa [row_of_rows rows] at hx)
    · rw [trailOf_of_audit audit]
      exact ht.present x r (by rwa [row_of_rows rows] at hx)
  | create r e fresh rows audit about action before after =>
    have hnew : db.row r.id = none := hc.row_fresh fresh
    refine ⟨fun x hx => ?_, fun x y hx => ?_⟩
    · -- an id that finds nothing after finds nothing before and is not the new one
      rw [row_append rows] at hx
      cases hold : db.row x with
      | some y => simp [hold] at hx
      | none =>
        have hne : r.id ≠ x := fun h => by simp [hold, h] at hx
        rw [trailOf_append_other audit about hne]
        exact ht.absent x hold
    · rw [row_append rows] at hx
      cases hold : db.row x with
      | some y₀ =>
        -- an id stored before is not the new one, and keeps its trail
        have hne : r.id ≠ x := fun h => by rw [h, hold] at hnew; cases hnew
        simp only [hold, Option.some_or] at hx
        rw [trailOf_append_other audit about hne, ← Option.some.inj hx]
        exact ht.present x y₀ hold
      | none =>
        by_cases hid : r.id = x
        · subst hid
          simp only [hold, Option.none_or, if_true, Option.some.injEq] at hx
          subst hx
          rw [trailOf_append_about audit about, ht.absent r.id hold]
          exact .created action before after
        · simp [hold, hid] at hx
  | change r r' e mem id rows audit about before after =>
    have hrow := hc.row_of_mem mem
    refine ⟨fun x hx => ?_, fun x y hx => ?_⟩
    · rw [hc.row_put mem rows id x] at hx
      split at hx
      · cases hx
      · next hne =>
        rw [trailOf_append_other audit about (Ne.symm hne)]
        exact ht.absent x hx
    · rw [hc.row_put mem rows id x] at hx
      split at hx
      · next hx' =>
        -- the changed reservation's trail grows by the entry about the change
        subst hx'
        cases hx
        rw [trailOf_append_about audit about]
        exact .next (ht.present r.id r hrow) before after
      · next hne =>
        rw [trailOf_append_other audit about (Ne.symm hne)]
        exact ht.present x y hx

/-! ## What each flow writes to the trail -/

section Flows

variable (ctx : Context) (actor : Actor) (db : Database)

/-- An audit entry is written when the clock can still be read after it, and no
reservation is touched. -/
theorem record_written {err : Fault → Database → Prop} (tenant : Uuid)
    (action resourceType : String) (resource : Option Uuid) (before after : Json) :
    wp (record tenant actor action resourceType resource before after)
      (fun _ db' => db'.reservations = db.reservations ∧ (db'.ClockReadable →
        ∃ aid t, db'.audit = db.audit ++
          [⟨aid, tenant, actor, action, resourceType, resource, before, after, t⟩]))
      err db := by
  rw [wp_record]
  split
  · next t _ => exact ⟨rfl, fun _ => ⟨_, t, rfl⟩⟩
  · next hfail =>
    -- a dropped entry leaves the clock as it was, which could not be read
    refine ⟨rfl, fun ⟨t, ht⟩ => ?_⟩
    rw [ht] at hfail
    cases hfail

theorem replayOf_mem {ctx : Context} {key : Option String} {r : Reservation}
    (h : replayOf db ctx key = some r) : r ∈ db.reservations := by
  obtain ⟨k, -, hk⟩ := Option.bind_eq_some_iff.mp h
  exact (List.mem_filter.mp (List.mem_of_find?_eq_some hk)).1

theorem reservation?_of_rows {db₁ : Database} (h : db₁.reservations = db.reservations)
    (tenant id : Uuid) : db₁.reservation? tenant id = db.reservation? tenant id := by
  rw [Database.reservation?, Database.reservation?, h]

theorem putReservation_of_rows {db₁ : Database} (h : db₁.reservations = db.reservations)
    (r : Reservation) : (db₁.putReservation r).reservations = (db.putReservation r).reservations := by
  rw [Database.putReservation, Database.putReservation, h]

/-- A booking that creates a reservation stores it under a new id and writes one
`create` entry about it; one answered by a replay answers a stored reservation and
writes nothing; one that fails writes nothing. -/
theorem book_audit (req : BookingRequest) (enforcePolicy includeInactive : Bool)
    (now : Option Stamp) :
    wp (book ctx req actor enforcePolicy includeInactive now)
      (fun r db' => db'.ClockReadable →
        (db.issued < r.id.value ∧ db'.reservations = db.reservations ++ [r] ∧
          ∃ aid t, db'.audit = db.audit ++
            [⟨aid, ctx.tenant, actor, "create", "reservation", some r.id, .null, r.summary, t⟩]) ∨
        (r ∈ db.reservations ∧ db'.reservations = db.reservations ∧ db'.audit = db.audit))
      (fun _ db' => db'.reservations = db.reservations ∧ db'.audit = db.audit) db := by
  unfold book
  refine (readsOnly_bookingDraft ctx req enforcePolicy includeInactive now).wp_bind
    (fun ⟨store, policy, draft⟩ db₁ h₁ => ?_) fun _ _ h => ⟨h.reservations_eq, h.audit_eq⟩
  rw [wp_bind]
  refine wp_mono (insertOrReplay_wp _ draft _ db₁) (fun ⟨r, created⟩ db₂ h₂ => ?_)
    fun _ _ h₂ => ⟨(h₁.trans h₂).reservations_eq, (h₁.trans h₂).audit_eq⟩
  dsimp only
  rcases h₂ with ⟨rfl, hi, hrows⟩ | ⟨rfl, hreplay, hrows⟩
  · -- a creation: the new row, then its entry
    simp only [↓reduceIte, wp_bind]
    refine wp_mono (record_written actor db₂ _ _ _ _ _ _) (fun _ db₃ ⟨hrows₃, haudit⟩ => ?_)
      fun _ _ h => h
    intro hclock
    obtain ⟨aid, t, haudit⟩ := haudit hclock
    refine .inl ⟨Nat.lt_of_le_of_lt h₁.1 hi.fresh, ?_, aid, t, ?_⟩
    · rw [hrows₃, hrows.reservations_eq, h₁.reservations_eq]
    · rw [haudit, hrows.audit_eq, h₁.audit_eq]
  · -- a replay: nothing is written
    intro _
    exact .inr ⟨h₁.reservations_eq ▸ replayOf_mem db₁ hreplay,
      (h₁.trans hrows).reservations_eq, (h₁.trans hrows).audit_eq⟩

/-- A change that returns read the tenant's reservation `id`, put it back changed under
its id and status, and wrote one `update` entry whose documents are the summaries
before and after; one that fails writes nothing. -/
theorem reschedule_audit (id : Uuid) (req : BookingRequest) (enforcePolicy : Bool)
    (customer : Option Uuid) (includeInactive : Bool) (now : Option Stamp) :
    wp (reschedule ctx id req actor enforcePolicy customer includeInactive now)
      (fun r' db' => db'.ClockReadable → ∃ r, db.reservation? ctx.tenant id = some r ∧
        r'.id = r.id ∧ r'.status = r.status ∧
        db'.reservations = (db.putReservation r').reservations ∧
        ∃ aid t, db'.audit = db.audit ++
          [⟨aid, ctx.tenant, actor, "update", "reservation", some r'.id, r.summary, r'.summary, t⟩])
      (fun _ db' => db'.reservations = db.reservations ∧ db'.audit = db.audit) db := by
  unfold reschedule
  have hreads := readsOnly_reschedulingDraft ctx id req enforcePolicy customer includeInactive now db
  have hdraft := reschedulingDraft_reads ctx id req enforcePolicy customer includeInactive now db
  rw [wp_bind]
  refine wp_mono (wp_and hreads hdraft) (fun ⟨r, store, policy, draft⟩ db₁ ⟨h₁, hfetch, _⟩ => ?_)
    fun _ _ h => ⟨h.1.reservations_eq, h.1.audit_eq⟩
  rw [wp_bind]
  refine wp_mono (wp_and (replace_wp _ id draft _ true db₁) (replace_rewrites _ id draft _ true db₁))
    (fun r' db₂ h₂ => ?_) fun _ _ h => ⟨(h₁.trans h.1).reservations_eq, (h₁.trans h.1).audit_eq⟩
  -- the row put back is the one the draft read, rewritten under its id and status
  obtain ⟨⟨-, -, hsame⟩, r₀, _, _, r₁, _, hfetch₀, -, -, -, hdraft', rfl, hrows⟩ := h₂
  have hr₀ : r₀ = r := by
    rw [reservation?_of_rows db h₁.reservations_eq] at hfetch₀
    exact Option.some.inj (hfetch₀.symm.trans hfetch)
  subst hr₀
  have hd := applyDraft_ok hdraft'
  rw [wp_bind]
  refine wp_mono (record_written actor db₂ _ _ _ _ _ _) (fun _ db₃ ⟨hrows₃, haudit⟩ hclock => ?_)
    fun _ _ h => h
  obtain ⟨aid, t, haudit⟩ := haudit hclock
  refine ⟨r₀, hfetch, hd.id, hd.status, ?_, aid, t, ?_⟩
  · rw [hrows₃, hrows, putReservation_of_rows db h₁.reservations_eq]
  · -- putting the row back leaves the audit trail as it was
    rw [haudit, hsame.audit_eq]
    exact congrArg (· ++ _) h₁.audit_eq

/-- A status change that returns read the tenant's reservation `id`, put it back in the
status asked for, and wrote one `status_change` entry with the old and the new status;
one that fails writes nothing. -/
theorem changeStatus_audit (id : Uuid) (status : String) (reason : Option String) :
    wp (changeStatus ctx id status actor reason)
      (fun r' db' => db'.ClockReadable → ∃ r, db.reservation? ctx.tenant id = some r ∧
        r'.id = r.id ∧ parseStatus status = .ok r'.status ∧
        db'.reservations = (db.putReservation r').reservations ∧
        ∃ aid t, db'.audit = db.audit ++
          [⟨aid, ctx.tenant, actor, "status_change", "reservation", some r'.id,
            .obj [("status", .str r.status.name)], .obj [("status", .str r'.status.name)], t⟩])
      (fun _ db' => db'.reservations = db.reservations ∧ db'.audit = db.audit) db := by
  unfold changeStatus
  rw [wp_bind, wp_fetch]
  cases hfetch : db.reservation? ctx.tenant id with
  | none => exact ⟨rfl, rfl⟩
  | some r =>
    dsimp only
    rw [wp_bind]
    refine wp_mono (updateStatus_wp ctx id status reason db) (fun r' db₂ h₂ => ?_)
      fun _ _ h => ⟨h.reservations_eq, h.audit_eq⟩
    obtain ⟨r₁, st, stamp, hfetch₁, hst, -, -, rfl, hrows⟩ := h₂
    obtain rfl : r₁ = r := Option.some.inj (hfetch₁.symm.trans hfetch)
    rw [wp_bind]
    refine wp_mono (record_written actor db₂ _ _ _ _ _ _)
      (fun _ db₃ ⟨hrows₃, haudit⟩ hclock => ?_) fun _ _ h => h
    obtain ⟨aid, t, haudit⟩ := haudit hclock
    refine ⟨r₁, rfl, Reservation.moveTo_id _ _ _ _, by rw [Reservation.moveTo_status]; exact hst,
      ?_, aid, t, ?_⟩
    · rw [hrows₃, hrows.reservations_eq]
    · rw [haudit, hrows.audit_eq]
      rfl

/-- A cancellation reads the tenant's reservation `id`. -/
theorem cancellation_reads (id : Uuid) (enforcePolicy : Bool) (customer : Option Uuid)
    (now : Option Stamp) :
    wp (cancellation ctx id enforcePolicy customer now)
      (fun r _ => db.reservation? ctx.tenant id = some r) (fun _ _ => True) db := by
  unfold cancellation
  rw [wp_bind, wp_fetch]
  cases hfetch : db.reservation? ctx.tenant id with
  | none => trivial
  | some r =>
    -- every answer of the checks that follow is the reservation read
    refine wp_mono ((?_ : Returns _ (· = r)) db) (fun r₀ _ h => by rw [h]) fun _ _ _ => trivial
    refine (returns_any _).bind fun _ _ => ?_
    dsimp only
    split
    · split
      · exact fun _ => trivial
      · exact (returns_any _).bind fun _ _ => (returns_any (instant now)).bind fun _ _ =>
          (returns_any _).bind fun _ _ => returns_pure rfl
    · exact returns_pure rfl

/-- A cancellation that returns read the tenant's reservation `id`, put it back
canceled, and wrote one `cancel` entry with the old status, the new one and the reason;
one that fails writes nothing. -/
theorem cancel_audit (id : Uuid) (reason : Option String) (enforcePolicy : Bool)
    (customer : Option Uuid) (now : Option Stamp) :
    wp (cancel ctx id actor reason enforcePolicy customer now)
      (fun r' db' => db'.ClockReadable → ∃ r, db.reservation? ctx.tenant id = some r ∧
        r'.id = r.id ∧ r'.status = .canceled ∧
        db'.reservations = (db.putReservation r').reservations ∧
        ∃ aid t, db'.audit = db.audit ++
          [⟨aid, ctx.tenant, actor, "cancel", "reservation", some r'.id,
            .obj [("status", .str r.status.name)],
            .obj [("status", .str r'.status.name), ("cancel_reason", Json.ofString? reason)], t⟩])
      (fun _ db' => db'.reservations = db.reservations ∧ db'.audit = db.audit) db := by
  unfold cancel
  have hreads := readsOnly_cancellation ctx id enforcePolicy customer now db
  have hread := cancellation_reads ctx db id enforcePolicy customer now
  rw [wp_bind]
  refine wp_mono (wp_and hreads hread) (fun r db₁ ⟨h₁, hfetch⟩ => ?_)
    fun _ _ h => ⟨h.1.reservations_eq, h.1.audit_eq⟩
  rw [wp_bind]
  refine wp_mono (updateStatus_wp ctx id "canceled" reason db₁) (fun r' db₂ h₂ => ?_)
    fun _ _ h => ⟨(h₁.trans h).reservations_eq, (h₁.trans h).audit_eq⟩
  obtain ⟨r₁, st, stamp, hfetch₁, hst, -, -, rfl, hrows⟩ := h₂
  have hr₁ : r₁ = r := by
    rw [reservation?_of_rows db h₁.reservations_eq] at hfetch₁
    exact Option.some.inj (hfetch₁.symm.trans hfetch)
  subst hr₁
  have hcanceled : st = .canceled := Except.ok.inj (hst.symm.trans rfl)
  subst hcanceled
  rw [wp_bind]
  refine wp_mono (record_written actor db₂ _ _ _ _ _ _)
    (fun _ db₃ ⟨hrows₃, haudit⟩ hclock => ?_) fun _ _ h => h
  obtain ⟨aid, t, haudit⟩ := haudit hclock
  refine ⟨r₁, hfetch, Reservation.moveTo_id _ _ _ _, Reservation.moveTo_status _ _ _ _, ?_, aid, t,
    ?_⟩
  · rw [hrows₃, hrows.reservations_eq, putReservation_of_rows db h₁.reservations_eq]
  · rw [haudit, hrows.audit_eq]
    exact congrArg (· ++ _) h₁.audit_eq

end Flows

/-! ## Runs of flows -/

/-- The booking flows: booking, changing, changing the status of and canceling a
reservation. -/
def Call.isFlow : Call → Bool
  | .book .. | .reschedule .. | .changeStatus .. | .cancel .. => true
  | _ => false

/-- A flow call after which the clock can still be read writes to the audit trail as
one `TrailStep`. -/
theorem Call.trailStep {c : Call} (hflow : c.isFlow = true) (db : Database)
    (hclock : (c.after db).ClockReadable) : TrailStep db (c.after db) := by
  have hends : wp c.run (fun _ db' => db'.ClockReadable → TrailStep db db')
      (fun _ db' => db'.ClockReadable → TrailStep db db') db := by
    cases c with
    | book ctx req actor enforcePolicy includeInactive now =>
      rw [Call.run, wp_bind_unit]
      refine wp_mono (book_audit ctx actor db req enforcePolicy includeInactive now)
        (fun r db' h hclock => ?_) fun _ _ h _ => .keep h.1 h.2
      rcases h hclock with ⟨fresh, rows, aid, t, audit⟩ | ⟨-, rows, audit⟩
      · exact .create r _ fresh rows audit ⟨rfl, rfl⟩ rfl rfl rfl
      · exact .keep rows audit
    | reschedule ctx id req actor enforcePolicy customer includeInactive now =>
      rw [Call.run, wp_bind_unit]
      refine wp_mono (reschedule_audit ctx actor db id req enforcePolicy customer includeInactive now)
        (fun r' db' h hclock => ?_) fun _ _ h _ => .keep h.1 h.2
      obtain ⟨r, hfetch, hid, -, rows, aid, t, audit⟩ := h hclock
      exact .put hfetch hid rows audit rfl rfl rfl rfl
    | changeStatus ctx id status actor reason =>
      rw [Call.run, wp_bind_unit]
      refine wp_mono (changeStatus_audit ctx actor db id status reason)
        (fun r' db' h hclock => ?_) fun _ _ h _ => .keep h.1 h.2
      obtain ⟨r, hfetch, hid, -, rows, aid, t, audit⟩ := h hclock
      exact .put hfetch hid rows audit rfl rfl rfl rfl
    | cancel ctx id actor reason enforcePolicy customer now =>
      rw [Call.run, wp_bind_unit]
      refine wp_mono (cancel_audit ctx actor db id reason enforcePolicy customer now)
        (fun r' db' h hclock => ?_) fun _ _ h _ => .keep h.1 h.2
      obtain ⟨r, hfetch, hid, -, rows, aid, t, audit⟩ := h hclock
      exact .put hfetch hid rows audit rfl rfl rfl rfl
    | _ => cases hflow
  exact leaves_of_wp hends hclock

/-- A database with no reservation and no audit entry about one tells every history. -/
theorem Trailed.empty {db : Database} (hrows : db.reservations = [])
    (haudit : ∀ x, db.trailOf x = []) : Trailed db :=
  ⟨fun x _ => haudit x, fun x r hx => by simp [row, hrows] at hx⟩

theorem Call.mem_trace (db : Database) (cs : List Call) : db ∈ Call.trace db cs := by
  cases cs <;> simp [Call.trace]

/-- Along a run of flow calls after each of which the clock can still be read, from a
reachable database whose audit trail tells each reservation's history, every database
the run passes through tells each one's history. -/
theorem Trailed.run {db : Database} (hreach : Reachable db) (ht : Trailed db) (cs : List Call)
    (hflow : ∀ c ∈ cs, c.isFlow = true)
    (hclock : ∀ db' ∈ (Call.trace db cs).tail, db'.ClockReadable) :
    ∀ db' ∈ Call.trace db cs, Trailed db' := by
  induction cs generalizing db with
  | nil => simpa [Call.trace] using ht
  | cons c cs ih =>
    -- the first call keeps the trail telling each history; the rest starts where it ends
    have hstep : Trailed (c.after db) :=
      ht.step hreach.consistent (c.trailStep (hflow c (.head _)) db
        (hclock _ (Call.mem_trace (c.after db) cs)))
    intro db' hdb'
    rcases List.mem_cons.mp hdb' with rfl | hdb'
    · exact ht
    · exact ih (.step c hreach) hstep (fun c' hc' => hflow c' (.tail _ hc'))
        (fun d hd => hclock d (List.mem_of_mem_tail hd)) db' hdb'

/-- The audit trail of the booking flows. A booking that creates a reservation stores it
under a new id and writes one `create` entry about it, with no `before` and its summary
`after`; one answered by a replay answers a stored reservation and writes nothing. A
change writes one `update` entry with the summaries before and after it; a status change
one `status_change` entry, and a cancellation one `cancel` entry, with the old and the
new status. Each entry is written when the clock can still be read after the call, and
a call that fails writes nothing. Over every run of flows from a database with no
reservation and no audit entry about one, after each call of which the clock can still
be read, every database the run passes through holds, for each stored reservation, the
trail of its history: created, each entry's `before` status the last `after` status, and
the last `after` status its current status; and nothing about an id that holds none. -/
theorem audit_trail :
    (∀ (db : Database) (ctx : Context) (req : BookingRequest) (actor : Actor)
        (enforcePolicy includeInactive : Bool) (now : Option Stamp),
      wp (book ctx req actor enforcePolicy includeInactive now)
        (fun r db' => db'.ClockReadable →
          (db.issued < r.id.value ∧ db'.reservations = db.reservations ++ [r] ∧
            ∃ aid t, db'.audit = db.audit ++
              [⟨aid, ctx.tenant, actor, "create", "reservation", some r.id, .null, r.summary, t⟩]) ∨
          (r ∈ db.reservations ∧ db'.reservations = db.reservations ∧ db'.audit = db.audit))
        (fun _ db' => db'.audit = db.audit) db) ∧
    (∀ (db : Database) (ctx : Context) (id : Uuid) (req : BookingRequest) (actor : Actor)
        (enforcePolicy : Bool) (customer : Option Uuid) (includeInactive : Bool)
        (now : Option Stamp),
      wp (reschedule ctx id req actor enforcePolicy customer includeInactive now)
        (fun r' db' => db'.ClockReadable → ∃ r, db.reservation? ctx.tenant id = some r ∧
          ∃ aid t, db'.audit = db.audit ++
            [⟨aid, ctx.tenant, actor, "update", "reservation", some r'.id, r.summary, r'.summary,
              t⟩])
        (fun _ db' => db'.audit = db.audit) db) ∧
    (∀ (db : Database) (ctx : Context) (id : Uuid) (status : String) (actor : Actor)
        (reason : Option String),
      wp (changeStatus ctx id status actor reason)
        (fun r' db' => db'.ClockReadable → ∃ r, db.reservation? ctx.tenant id = some r ∧
          parseStatus status = .ok r'.status ∧
          ∃ aid t, db'.audit = db.audit ++
            [⟨aid, ctx.tenant, actor, "status_change", "reservation", some r'.id,
              .obj [("status", .str r.status.name)], .obj [("status", .str r'.status.name)], t⟩])
        (fun _ db' => db'.audit = db.audit) db) ∧
    (∀ (db : Database) (ctx : Context) (id : Uuid) (actor : Actor) (reason : Option String)
        (enforcePolicy : Bool) (customer : Option Uuid) (now : Option Stamp),
      wp (cancel ctx id actor reason enforcePolicy customer now)
        (fun r' db' => db'.ClockReadable → ∃ r, db.reservation? ctx.tenant id = some r ∧
          r'.status = .canceled ∧
          ∃ aid t, db'.audit = db.audit ++
            [⟨aid, ctx.tenant, actor, "cancel", "reservation", some r'.id,
              .obj [("status", .str r.status.name)],
              .obj [("status", .str r'.status.name), ("cancel_reason", Json.ofString? reason)], t⟩])
        (fun _ db' => db'.audit = db.audit) db) ∧
    (∀ (db : Database) (cs : List Call), db.reservations = [] → (∀ x, db.trailOf x = []) →
      (∀ c ∈ cs, c.isFlow = true) → (∀ db' ∈ (Call.trace db cs).tail, db'.ClockReadable) →
      ∀ db' ∈ Call.trace db cs, Trailed db') := by
  refine ⟨fun db ctx req actor enforcePolicy includeInactive now => ?_,
    fun db ctx id req actor enforcePolicy customer includeInactive now => ?_,
    fun db ctx id status actor reason => ?_,
    fun db ctx id actor reason enforcePolicy customer now => ?_,
    fun db cs hrows haudit hflow hclock => ?_⟩
  · exact wp_mono (book_audit ctx actor db req enforcePolicy includeInactive now)
      (fun _ _ h => h) fun _ _ h => h.2
  · exact wp_mono (reschedule_audit ctx actor db id req enforcePolicy customer includeInactive now)
      (fun _ _ h hclock => (h hclock).imp fun _ ⟨hfetch, _, _, _, haudit⟩ => ⟨hfetch, haudit⟩)
      fun _ _ h => h.2
  · exact wp_mono (changeStatus_audit ctx actor db id status reason)
      (fun _ _ h hclock => (h hclock).imp fun _ ⟨hfetch, _, hst, _, haudit⟩ => ⟨hfetch, hst, haudit⟩)
      fun _ _ h => h.2
  · exact wp_mono (cancel_audit ctx actor db id reason enforcePolicy customer now)
      (fun _ _ h hclock => (h hclock).imp fun _ ⟨hfetch, _, hst, _, haudit⟩ => ⟨hfetch, hst, haudit⟩)
      fun _ _ h => h.2
  · exact Trailed.run (.init db hrows) (Trailed.empty hrows haudit) cs hflow hclock

private def auditDay : Date := ⟨epochDayNumber + 20006, by decide, by decide⟩
private def auditNine : TimeOfDay := ⟨30600000000, by decide⟩
private def auditCtx : Context := ⟨⟨1⟩, none⟩
private def auditStaff : Actor := { kind := "admin" }
/-- A tenant with one store in UTC, one practitioner who works anywhere, one customer
and one menu, and no reservation. -/
private def auditTable : Database :=
  { stores := [⟨⟨5⟩, ⟨1⟩, "Main", none, some "UTC", none, none, none, .null⟩]
    practitioners := [⟨⟨3⟩, ⟨1⟩, "Aki", true, none, .arr [], .null⟩]
    customers := [⟨⟨4⟩, ⟨1⟩, "Mio", none⟩]
    menus := [⟨⟨2⟩, ⟨1⟩, "Cut", none, 5000, 60, true, none⟩]
    issued := 5
    clock := ⟨⟨auditDay, auditNine⟩, 0⟩ }
private def auditRequest : BookingRequest :=
  { practitioner := some ⟨3⟩, customer := some ⟨4⟩, menuIds := [⟨2⟩], date := auditDay,
    start := auditNine }
/-- A booking of reservation 6, its confirmation, then its cancellation. -/
private def auditRun : List Call :=
  [.book auditCtx auditRequest auditStaff false false none,
    .changeStatus auditCtx ⟨6⟩ "confirmed" auditStaff none,
    .cancel auditCtx ⟨6⟩ auditStaff (some "plans changed") false none none]

set_option maxRecDepth 10000 in
/-- Reservation 6 booked, confirmed and canceled: after each call its audit trail tells
its history. -/
theorem booked_confirmed_canceled_trail :
    auditTable.reservations = [] ∧ (∀ x, auditTable.trailOf x = []) ∧
    (∀ c ∈ auditRun, c.isFlow = true) ∧
    (∀ db' ∈ (Call.trace auditTable auditRun).tail, db'.ClockReadable) ∧
    ∀ db' ∈ Call.trace auditTable auditRun, Trailed db' := by
  have hrows : auditTable.reservations = [] := rfl
  have haudit : ∀ x, auditTable.trailOf x = [] := fun _ => rfl
  have hflow : ∀ c ∈ auditRun, c.isFlow = true := by decide
  have hclock : ∀ db' ∈ (Call.trace auditTable auditRun).tail, db'.ClockReadable := by
    simp only [auditRun, Call.trace, List.tail_cons, List.mem_cons, List.not_mem_nil, or_false]
    rintro db' (rfl | rfl | rfl) <;> exact ⟨_, rfl⟩
  exact ⟨hrows, haudit, hflow, hclock,
    audit_trail.2.2.2.2 auditTable auditRun hrows haudit hflow hclock⟩

end SalonBooking
