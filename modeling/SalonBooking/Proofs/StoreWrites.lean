import SalonBooking.Proofs.Transactions
import SalonBooking.Reservation.Write

/-!
What each write of the reservation store can do to the stored reservations. A new
reservation joins them only with a fresh id, a status it may start in, an ordered
period and no clash with a reservation holding its practitioner's time; an update
rewrites a live reservation in place, keeping its status and clashing with no other
reservation; a status change moves a live reservation along its lifecycle; a
reminder only marks one. Every failed write leaves the rows it started from.

`RowChange` collects these effects, and each write has one `wp` lemma saying which of
them it has. Later proofs cite these lemmas and never unfold the writes.
-/

namespace SalonBooking

open SalonBooking.Calendar Op Database

namespace Reservation

/-- Two reservations hold one practitioner's time at once: the same tenant and
practitioner, both holding time, and periods that share an instant. -/
def Clash (a b : Reservation) : Prop :=
  a.tenant = b.tenant ∧ a.practitioner = b.practitioner ∧ a.isActive = true ∧
    b.isActive = true ∧ a.periodStart < b.periodEnd ∧ b.periodStart < a.periodEnd

theorem Clash.symm {a b : Reservation} (h : Clash a b) : Clash b a := by
  obtain ⟨ht, hp, ha, hb, h₁, h₂⟩ := h
  exact ⟨ht.symm, hp.symm, hb, ha, h₂, h₁⟩

/-- A status change touches only the status, the cancellation and the update time. -/
@[simp] theorem moveTo_id (r : Reservation) (t : Status) (reason : Option String)
    (stamp : DateTime) : (r.moveTo t reason stamp).id = r.id := by
  unfold moveTo; split <;> rfl

@[simp] theorem moveTo_status (r : Reservation) (t : Status) (reason : Option String)
    (stamp : DateTime) : (r.moveTo t reason stamp).status = t := by
  unfold moveTo; split <;> rfl

end Reservation

/-- A refusal because the request clashes with what is stored. -/
def Fault.IsConflict (e : Fault) : Prop := ∃ c, e = .refused (.conflict c)

theorem DateTime.lt_of_not_le {a b : DateTime} (h : ¬ b ≤ a) : a < b := Int.not_le.mp h

namespace Reservations

/-- Every reservation of practitioner `p` holding time in `[a, b)` is the excluded one. -/
theorem findOverlap_eq_none_iff {db : Database} {ctx : Context} {p : Uuid} {a b : DateTime}
    {exclude : Option Uuid} : findOverlap db ctx p a b exclude = none ↔
      ∀ x ∈ db.reservations, x.tenant = ctx.tenant → x.practitioner = p → x.isActive = true →
        x.periodStart < b → a < x.periodEnd → exclude = some x.id := by
  simp [findOverlap, List.find?_eq_none, Database.reservationsOf, Reservation.overlaps]

/-- A slot's period ends after it starts. -/
theorem readingPeriod_lt {d : Date} {s e : ClockReading} {z : String} {a b : DateTime}
    (h : Policy.readingPeriod d s e z = .ok (a, b)) : a < b := by
  unfold Policy.readingPeriod at h
  split at h
  · cases h
  · cases h
  · -- both ends are read on the wall clock, then the end must come after the start
    simp only [bind, Except.bind] at h
    split at h
    · cases h
    · split at h
      · cases h
      · split at h
        · cases h
        · next hlt =>
          simp only [pure, Except.pure, Except.ok.injEq, Prod.mk.injEq] at h
          obtain ⟨rfl, rfl⟩ := h
          exact DateTime.lt_of_not_le hlt

/-- What passing the checks of a new draft says about it. -/
theorem checkDraft_ok {d : Draft} {zone : String} {items : Selection} {status : Status}
    {a b : DateTime} (h : checkDraft d zone = .ok (items, status, a, b)) :
    d.items = some items ∧ items.menus.isEmpty = false ∧ parseStatus d.status = .ok status ∧
      status.isInitial = true ∧
      Policy.readingPeriod d.date ⟨d.start, d.startOffset⟩ ⟨d.stop, none⟩ zone = .ok (a, b) := by
  unfold checkDraft at h
  split at h
  · next its hits =>
    simp only [bind, Except.bind] at h
    split at h
    · cases h
    · next hmenus =>
      split at h
      · cases h
      · next s hs =>
        split at h
        · cases h
        · next hinit =>
          split at h
          · cases h
          · next v hv =>
            simp only [pure, Except.pure, Except.ok.injEq, Prod.mk.injEq] at h
            obtain ⟨rfl, rfl, rfl, rfl⟩ := h
            exact ⟨hits, by simpa using hmenus, hs, by simpa using hinit, hv⟩
  · cases h

/-- `r'` is `r` with a draft for practitioner `p` and period `[a, b)` applied: the
identity, the status, the cancellation and the key stay. -/
structure Drafted (r : Reservation) (p : Uuid) (a b : DateTime) (r' : Reservation) : Prop where
  id : r'.id = r.id
  tenant : r'.tenant = r.tenant
  status : r'.status = r.status
  canceled : r'.canceledAt = r.canceledAt ∧ r'.cancelReason = r.cancelReason
  key : r'.idempotencyKey = r.idempotencyKey
  practitioner : r'.practitioner = p
  period : r'.periodStart = a ∧ r'.periodEnd = b

@[simp] theorem mapError_ok {ε ε' α : Type} (f : ε → ε') (a : α) :
    (Except.ok a : Except ε α).mapError f = .ok a := rfl

@[simp] theorem mapError_error {ε ε' α : Type} (f : ε → ε') (e : ε) :
    (Except.error e : Except ε α).mapError f = .error (f e) := rfl

/-- A draft writes the slot, the parties and the price. -/
theorem applyDraft_ok {r r' : Reservation} {d : Draft} {customer : Uuid} {zone : String}
    {a b : DateTime} (h : applyDraft r d customer zone a b = .ok r') :
    Drafted r d.practitioner a b r' := by
  unfold applyDraft at h
  simp only [bind, Except.bind] at h
  split at h
  · cases h
  · simp only [pure, Except.pure, Except.ok.injEq] at h
    subst h
    exact ⟨rfl, rfl, rfl, ⟨rfl, rfl⟩, rfl, rfl, ⟨rfl, rfl⟩⟩

/-- Stamping the row and copying the items keep what the draft did. -/
theorem Drafted.stamped {r r' : Reservation} {p : Uuid} {a b : DateTime}
    (h : Drafted r p a b r') (menus : List MenuLine) (options : List OptionLine) (stamp : DateTime) :
    Drafted r p a b { r' with menuItems := menus, optionItems := options, updatedAt := stamp } :=
  ⟨h.id, h.tenant, h.status, h.canceled, h.key, h.practitioner, h.period⟩

/-- A draft is refused only for its price, never for a clash. -/
theorem applyDraft_error {r : Reservation} {d : Draft} {customer : Uuid} {zone : String}
    {a b : DateTime} {e : Fault} (h : applyDraft r d customer zone a b = .error e) :
    ¬ e.IsConflict := by
  unfold applyDraft at h
  simp only [bind, Except.bind] at h
  split at h
  · next i hp =>
    cases h
    rintro ⟨c, hc⟩
    revert hp
    cases Pricing.breakdown _ _ _ _ _ <;> simp [hc, Fault.invalid]
  · cases h

/-- The reservation `id` of tenant `t`, when there is one, is a stored row of `t`. -/
theorem reservation?_some {db : Database} {t id : Uuid} {r : Reservation}
    (h : db.reservation? t id = some r) : r ∈ db.reservations ∧ r.tenant = t ∧ r.id = id := by
  unfold Database.reservation? at h
  have hmem := List.mem_of_find?_eq_some h
  have hsat := List.find?_some h
  simp only [Bool.and_eq_true, beq_iff_eq] at hsat
  exact ⟨hmem, hsat.1, hsat.2⟩

/-! ## What a write can do -/

/-- A reservation that a write for tenant context `ctx` and draft `d` added to the rows
of `db`. -/
structure Inserted (db : Database) (ctx : Context) (d : Draft) (r : Reservation) : Prop where
  fresh : db.issued < r.id.value
  tenant : r.tenant = ctx.tenant
  practitioner : r.practitioner = d.practitioner
  status : parseStatus d.status = .ok r.status
  initial : r.status.isInitial = true
  ordered : r.periodStart < r.periodEnd
  uncanceled : r.canceledAt = none ∧ r.cancelReason = none
  key : r.idempotencyKey = d.idempotencyKey
  free : ∀ x ∈ db.reservations, ¬ x.Clash r

/-- The live reservation `r` of `db`, rewritten from draft `d` into `r'`. -/
structure Rewritten (db : Database) (d : Draft) (r r' : Reservation) : Prop where
  mem : r ∈ db.reservations
  live : r.status.isTerminal = false
  id : r'.id = r.id
  tenant : r'.tenant = r.tenant
  practitioner : r'.practitioner = d.practitioner
  status : r'.status = r.status
  canceled : r'.canceledAt = r.canceledAt ∧ r'.cancelReason = r.cancelReason
  ordered : r'.periodStart < r'.periodEnd
  free : ∀ x ∈ db.reservations, x.id ≠ r.id → ¬ x.Clash r'

/-- What a call may do to the stored reservations: add one, rewrite one from a draft,
move one along its lifecycle, mark one reminded, or none of these. -/
inductive Effect where
  | adds
  | rewrites
  | moves
  | reminds
  | keeps
  deriving DecidableEq

/-- How one call with effect `e` can change the stored reservations of `db` into
those of `db'`. -/
inductive RowChange (db db' : Database) : Effect → Prop
  /-- The reservations stay as they were. -/
  | keep (e : Effect) (rows : db'.reservations = db.reservations) : RowChange db db' e
  /-- A new reservation joins them, with an id that has been given out. -/
  | insert (ctx : Context) (d : Draft) (r : Reservation) (h : Inserted db ctx d r)
      (rows : db'.reservations = db.reservations ++ [r]) (given : r.id.value ≤ db'.issued) :
      RowChange db db' .adds
  /-- A live reservation is rewritten from a draft. -/
  | rewrite (d : Draft) (r r' : Reservation) (h : Rewritten db d r r')
      (rows : db'.reservations = (db.putReservation r').reservations) : RowChange db db' .rewrites
  /-- A live reservation takes a step of its lifecycle. -/
  | move (r : Reservation) (t : Status) (reason : Option String) (stamp : DateTime)
      (mem : r ∈ db.reservations) (live : r.status.isTerminal = false)
      (allowed : r.status.allows t = true)
      (rows : db'.reservations = (db.putReservation (r.moveTo t reason stamp)).reservations) :
      RowChange db db' .moves
  /-- A reservation is marked reminded. -/
  | remind (r : Reservation) (stamp : DateTime) (mem : r ∈ db.reservations)
      (rows : db'.reservations =
        (db.putReservation { r with reminderSentAt := some stamp, updatedAt := stamp }).reservations) :
      RowChange db db' .reminds

/-! ## The steps the writes are made of -/

section Steps

variable {α : Type} {ok : Unit → Database → Prop} {err : Fault → Database → Prop}
  {db : Database}

theorem wp_ensureNoOverlap (ctx : Context) (p : Uuid) (a b : DateTime) (exclude : Option Uuid) :
    wp (ensureNoOverlap ctx p a b exclude) ok err db =
      if (findOverlap db ctx p a b exclude).isSome then err (.refused (.conflict (.overlap p))) db
      else ok () db := by
  simp only [ensureNoOverlap, wp_bind, wp_get, wp_ite, wp_throw, wp_pure]

/-- The storage checks read the rows and write none; what they refuse is no clash. -/
theorem checkRow_wp (ctx : Context) (r : Reservation) (customer : Option Uuid)
    (key : Option String) (exclude : Option Uuid) (hok : ok () db)
    (herr : ∀ e, ¬ e.IsConflict → err e db) :
    wp (checkRow ctx r customer key exclude) ok err db := by
  unfold checkRow
  cases key <;> simp [hok, herr, Fault.IsConflict]

theorem wp_fetch {ok : Reservation → Database → Prop} (ctx : Context) (id : Uuid) :
    wp (fetch ctx id) ok err db = match db.reservation? ctx.tenant id with
      | some r => ok r db
      | none => err (.refused (.notFound .reservation (some id))) db := by
  cases h : db.reservation? ctx.tenant id <;> simp only [fetch, wp_bind, wp_get, h, wp_pure, wp_throw]

end Steps

/-! ## The writes -/

/-- The transaction of an insert adds the drafted row, stamped, when no reservation
holding the practitioner's time overlaps it; otherwise it writes nothing, and it is
refused for a clash exactly when there is such a reservation. -/
theorem insertRow_wp (ctx : Context) (d : Draft) (items : Selection) (drafted : Reservation)
    (db : Database) :
    wp (insertRow ctx d items drafted)
      (fun r db' => findOverlap db ctx d.practitioner drafted.periodStart drafted.periodEnd none = none ∧
        (∃ stamp, r = { drafted with createdAt := stamp, updatedAt := stamp }) ∧
        SameRows { db with reservations := db.reservations ++ [r] } db')
      (fun e db' => SameRows db db' ∧ (e.IsConflict ↔
        (findOverlap db ctx d.practitioner drafted.periodStart drafted.periodEnd none).isSome)) db := by
  simp only [insertRow, wp_bind, wp_ensureNoOverlap]
  split
  · next hclash => exact ⟨SameRows.refl db, iff_of_true ⟨_, rfl⟩ hclash⟩
  · next hfree =>
    -- past the overlap check, every refusal is one of storage's or the clock's
    have later : ∀ (e : Fault) db', SameRows db db' → ¬ e.IsConflict →
        SameRows db db' ∧ (e.IsConflict ↔
          (findOverlap db ctx d.practitioner drafted.periodStart drafted.periodEnd none).isSome) :=
      fun e db' hrows he => ⟨hrows, iff_of_false he hfree⟩
    rw [wp_now]
    split
    · next stamp _ =>
      rw [wp_bind]
      apply checkRow_wp
      · simp only [wp_bind, wp_checkColumns, wp_modify, wp_pure]
        split
        · exact ⟨Option.not_isSome_iff_eq_none.mp hfree, ⟨stamp, rfl⟩, sameRows_clock _ _⟩
        · exact later _ _ (sameRows_clock db _) (by rintro ⟨c, ⟨⟩⟩)
      · intro e he
        exact later e _ (sameRows_clock db _) he
    · exact later _ _ (sameRows_clock db _) (by rintro ⟨c, ⟨⟩⟩)

/-- The new reservation a successful insert adds. -/
theorem inserted_of_insertRow {ctx : Context} {d : Draft} {items : Selection} {status : Status}
    {zone : String} {a b : DateTime} {db : Database} {drafted : Reservation} {stamp : DateTime}
    (hstatus : parseStatus d.status = .ok status) (hinit : status.isInitial = true) (hab : a < b)
    (hdraft : applyDraft (newRow ctx d items status zone a b ⟨db.issued + 1⟩) d
      (d.customer.getD ⟨0⟩) zone a b = .ok drafted)
    (hfree : findOverlap db ctx d.practitioner drafted.periodStart drafted.periodEnd none = none) :
    Inserted db ctx d { drafted with createdAt := stamp, updatedAt := stamp } := by
  have h := applyDraft_ok hdraft
  refine ⟨?_, h.tenant, h.practitioner, ?_, ?_, ?_, h.canceled, h.key, ?_⟩
  · show db.issued < drafted.id.value
    rw [h.id]
    exact Nat.lt_succ_self _
  · show parseStatus d.status = .ok drafted.status
    rw [h.status]
    exact hstatus
  · show drafted.status.isInitial = true
    rw [h.status]
    exact hinit
  · show drafted.periodStart < drafted.periodEnd
    rw [h.period.1, h.period.2]
    exact hab
  · -- an overlapping reservation of the same practitioner would have been found
    rintro x hx ⟨ht, hp, hxa, -, h₁, h₂⟩
    have hnone := findOverlap_eq_none_iff.mp hfree x hx (ht.trans h.tenant) (hp.trans h.practitioner)
      hxa h₁ h₂
    cases hnone

/-- A write of a new reservation fails with the rows untouched, replays the reservation
its key names, or adds one new reservation that passed every check. -/
theorem insertOrReplay_wp (ctx : Context) (d : Draft) (timezone : Option String)
    (db : Database) :
    wp (insertOrReplay ctx d timezone)
      (fun res db' =>
        (res.2 = true ∧ Inserted db ctx d res.1 ∧
          SameRows { db with reservations := db.reservations ++ [res.1], issued := res.1.id.value } db') ∨
        (res.2 = false ∧ replayOf db ctx d.idempotencyKey = some res.1 ∧ SameRows db db'))
      (fun _ db' => SameRows db db') db := by
  simp only [insertOrReplay, wp_bind, wp_lift]
  cases hcheck : checkDraft d ((nonEmpty timezone).getD defaultZone) with
  | error e => exact SameRows.refl db
  | ok v =>
    obtain ⟨items, status, a, b⟩ := v
    obtain ⟨-, -, hstatus, hinit, hperiod⟩ := checkDraft_ok hcheck
    simp only [wp_get]
    cases hreplay : replayOf db ctx d.idempotencyKey with
    | some r => exact Or.inr ⟨rfl, rfl, SameRows.refl db⟩
    | none =>
      simp only [wp_bind, wp_freshId, wp_lift]
      cases hdraft : applyDraft (newRow ctx d items status ((nonEmpty timezone).getD defaultZone) a b
          ⟨db.issued + 1⟩) d (d.customer.getD ⟨0⟩) ((nonEmpty timezone).getD defaultZone) a b with
      | error e => exact sameRows_counters db db.clock (Nat.le_succ _)
      | ok drafted =>
        simp only [wp_transaction]
        refine wp_mono (insertRow_wp ctx d items drafted _) ?_ ?_
        · rintro r db' ⟨hfree, ⟨stamp, rfl⟩, hrows⟩
          refine Or.inl ⟨rfl, inserted_of_insertRow hstatus hinit (readingPeriod_lt hperiod) hdraft hfree, ?_⟩
          have hid : drafted.id.value = db.issued + 1 := by rw [(applyDraft_ok hdraft).id]; rfl
          rw [show ({ drafted with createdAt := stamp, updatedAt := stamp } : Reservation).id.value =
            db.issued + 1 from hid]
          exact hrows
        · intro e db' hrows
          exact sameRows_counters db _ (Nat.le_trans (Nat.le_succ _) hrows.1.1)

/-- The writes of an update put back `r` with the draft applied; what they refuse is
no clash, and leaves the rows. -/
theorem rewriteRow_wp (ctx : Context) (r : Reservation) (d : Draft) (zone : String)
    (a b : DateTime) (db : Database) :
    wp (rewriteRow ctx r d zone a b)
      (fun r' db' => Drafted r d.practitioner a b r' ∧ SameRows (db.putReservation r') db')
      (fun e db' => SameRows db db' ∧ ¬ e.IsConflict) db := by
  simp only [rewriteRow, wp_bind, wp_lift]
  cases hdraft : applyDraft r d (d.customer.getD r.customer) zone a b with
  | error e => exact ⟨SameRows.refl db, applyDraft_error hdraft⟩
  | ok r' =>
    have h := applyDraft_ok hdraft
    apply checkRow_wp
    · rw [wp_bind, wp_now]
      split
      · -- the row is stamped, with the draft's items when it has them
        cases d.items with
        | some s =>
          simp only [wp_bind, wp_checkColumns, wp_modify, wp_pure]
          split
          · exact ⟨h.stamped _ _ _, sameRows_clock _ _⟩
          · exact ⟨sameRows_clock db _, by rintro ⟨c, ⟨⟩⟩⟩
        | none =>
          simp only [wp_bind, wp_pure, wp_modify]
          exact ⟨h.stamped r'.menuItems r'.optionItems _, sameRows_clock _ _⟩
      · exact ⟨sameRows_clock db _, by rintro ⟨c, ⟨⟩⟩⟩
    · intro e he
      exact ⟨SameRows.refl db, he⟩

/-- The rewrite of a live reservation `r` of the context's tenant, from a draft for
practitioner `p` over a period no other reservation of `p` holding time overlaps. -/
theorem rewritten_of_rewriteRow {db : Database} {ctx : Context} {d : Draft} {r r' : Reservation}
    {a b : DateTime} (hmem : r ∈ db.reservations) (htenant : r.tenant = ctx.tenant)
    (hlive : r.status.isTerminal = false) (hab : a < b)
    (hfree : findOverlap db ctx d.practitioner a b (some r.id) = none)
    (h : Drafted r d.practitioner a b r') : Rewritten db d r r' := by
  refine ⟨hmem, hlive, h.id, h.tenant, h.practitioner, h.status, h.canceled, ?_, ?_⟩
  · rw [h.period.1, h.period.2]
    exact hab
  · -- only `r` itself may overlap the new period
    rintro x hx hne ⟨ht, hp, hxa, -, h₁, h₂⟩
    rw [h.period.2] at h₁
    rw [h.period.1] at h₂
    have hself := findOverlap_eq_none_iff.mp hfree x hx (ht.trans (h.tenant.trans htenant))
      (hp.trans h.practitioner) hxa h₁ h₂
    exact hne (Option.some.inj hself).symm

/-- An update rewrites one live reservation in place, or fails with the rows untouched. -/
theorem replace_wp (ctx : Context) (id : Uuid) (d : Draft) (timezone : Option String)
    (replaceItems : Bool) (db : Database) :
    wp (replace ctx id d timezone replaceItems)
      (fun r' db' => ∃ r, Rewritten db d r r' ∧ SameRows (db.putReservation r') db')
      (fun _ db' => SameRows db db') db := by
  simp only [replace, wp_bind, wp_ite, wp_throw, wp_transaction, wp_fetch]
  split
  · exact SameRows.refl db
  · cases hfetch : db.reservation? ctx.tenant id with
    | none => exact SameRows.refl db
    | some r =>
      obtain ⟨hmem, htenant, -⟩ := reservation?_some hfetch
      simp only
      split
      · exact SameRows.refl db
      · next hlive =>
        simp only [wp_bind, wp_lift]
        cases hperiod : Policy.readingPeriod d.date ⟨d.start, d.startOffset⟩ ⟨d.stop, none⟩
            (replaceZone timezone r) with
        | error e => exact SameRows.refl db
        | ok ab =>
          obtain ⟨a, b⟩ := ab
          simp only [wp_ensureNoOverlap]
          split
          · exact SameRows.refl db
          · next hfree =>
            have hprac : (if replaceItems then d else { d with items := none }).practitioner =
                d.practitioner := by split <;> rfl
            refine wp_mono (rewriteRow_wp ctx r _ (replaceZone timezone r) a b db) ?_ ?_
            · rintro r' db' ⟨h, hrows⟩
              rw [hprac] at h
              exact ⟨r, rewritten_of_rewriteRow hmem htenant (Bool.not_eq_true _ ▸ hlive)
                (readingPeriod_lt hperiod) (Option.not_isSome_iff_eq_none.mp hfree) h, hrows⟩
            · rintro e db' ⟨hrows, -⟩
              exact sameRows_counters db _ hrows.1

/-- A status change moves the tenant's live reservation `id` along its lifecycle, or fails
with the rows untouched. -/
theorem updateStatus_wp (ctx : Context) (id : Uuid) (target : String) (reason : Option String)
    (db : Database) :
    wp (updateStatus ctx id target reason)
      (fun r' db' => ∃ r t stamp, db.reservation? ctx.tenant id = some r ∧
        parseStatus target = .ok t ∧ r.status.isTerminal = false ∧ r.status.allows t = true ∧
        r' = r.moveTo t reason stamp ∧ SameRows (db.putReservation r') db')
      (fun _ db' => SameRows db db') db := by
  simp only [updateStatus, wp_bind, wp_lift]
  cases ht : parseStatus target with
  | error e => exact SameRows.refl db
  | ok t =>
    simp only [wp_transaction, wp_bind, wp_fetch]
    cases hfetch : db.reservation? ctx.tenant id with
    | none => exact SameRows.refl db
    | some r =>
      simp only [wp_ite, wp_throw, wp_bind]
      split
      · exact SameRows.refl db
      · next hlive =>
        split
        · exact SameRows.refl db
        · next hallowed =>
          rw [wp_now]
          split
          · next stamp _ =>
            exact ⟨r, t, stamp, rfl, rfl, by simpa using hlive, by simpa using hallowed, rfl,
              sameRows_clock _ _⟩
          · exact sameRows_clock db _

/-- Marking a reminder stamps one reservation, or fails with the rows untouched. -/
theorem markReminderSent_wp (ctx : Context) (id : Uuid) (db : Database) :
    wp (markReminderSent ctx id)
      (fun r' db' => ∃ r stamp, r ∈ db.reservations ∧
        r' = { r with reminderSentAt := some stamp, updatedAt := stamp } ∧
        SameRows (db.putReservation r') db')
      (fun _ db' => SameRows db db') db := by
  simp only [markReminderSent, wp_transaction, wp_bind, wp_fetch]
  cases hfetch : db.reservation? ctx.tenant id with
  | none => exact SameRows.refl db
  | some r =>
    simp only
    rw [wp_now]
    split
    · next stamp _ =>
      exact ⟨r, stamp, (reservation?_some hfetch).1, rfl, sameRows_clock _ _⟩
    · exact sameRows_clock db _

end Reservations

end SalonBooking
