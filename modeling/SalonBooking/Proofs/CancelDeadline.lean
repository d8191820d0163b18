import SalonBooking.Proofs.Aggregates
import SalonBooking.Proofs.Instants

/-!
The cancellation deadline counts back from the stored period. A reservation's period
starts at the UTC instant of its local start, read in its zone; the deadline check reads
the same local start in its store's zone by the same conversion, so while the store is in
the reservation's zone the two instants are one. Cancellation then closes exactly
`cancelDeadlineHours` hours of absolute time before the period starts: the instant itself
is refused, and a deadline of zero hours or less refuses nothing. A deadline reaching back
before the first day of the calendar is not refused but fails as a date out of range.
-/

namespace SalonBooking

open SalonBooking.Calendar SalonBooking.Zone

namespace Policy

/-- A local time with a UTC instant is read by the zone's conversion. -/
theorem localToUtc_ok {d : Date} {t : TimeOfDay} {tz : String} {a : DateTime}
    (h : localToUtc d t tz = .ok a) : ∃ z, zone tz = .ok z ∧ z.toUtc ⟨d, t⟩ = .ok a := by
  unfold localToUtc at h
  cases hz : zone tz with
  | error e => simp [hz, bind, Except.bind] at h
  | ok z =>
    refine ⟨z, rfl, ?_⟩
    cases hu : z.toUtc ⟨d, t⟩ with
    | error e => simp [hz, hu, bind, Except.bind, liftRange] at h
    | ok u =>
      -- the round trip only decides whether the instant is kept
      simp only [hz, hu, bind, Except.bind, liftRange] at h
      split at h
      · cases h
      · split at h
        · cases h
          rfl
        · cases h

/-- A period is given only for an end after its start whose two readings have UTC
instants; it runs from the first instant to the second. -/
theorem localPeriod_eq_ok {d : Date} {start stop : TimeOfDay} {tz : String} {a b : DateTime}
    (h : localPeriod d start stop tz = .ok (a, b)) :
    start < stop ∧ localToUtc d start tz = .ok a ∧ localToUtc d stop tz = .ok b := by
  unfold localPeriod at h
  simp only [bind, Except.bind] at h
  split at h
  · cases h
  · next hle =>
    split at h
    · cases h
    · next a' ha =>
      split at h
      · cases h
      · next b' hb =>
        split at h
        · cases h
        · cases h
          exact ⟨Nat.lt_of_not_le hle, ha, hb⟩

/-- No deadline of zero hours or less refuses a cancellation. -/
theorem checkCancelDeadline_of_nonpos {d : Date} {t : TimeOfDay} {p : StorePolicy} (now : Stamp)
    (h : p.cancelDeadlineHours ≤ 0) : checkCancelDeadline d t p now = .ok () := by
  simp [checkCancelDeadline, h, pure, Except.pure]

variable {d : Date} {t : TimeOfDay} {p : StorePolicy} {z : ZoneData} {start : DateTime}

/-- Within the calendar, the cutoff is the deadline's hours before the start. -/
theorem cancelCutoff_eq_ok (hz : zone p.timezone = .ok z) (hstart : z.toUtc ⟨d, t⟩ = .ok start)
    {c : DateTime}
    (hc : c.toMicros = start.toMicros - p.cancelDeadlineHours * microsPerHour) :
    cancelCutoff d t p = .ok c := by
  -- the span of the deadline is shorter than the calendar, hence accepted
  have hrange := DateTime.inCalendar_toMicros start
  have hcut := DateTime.inCalendar_toMicros c
  simp only [DateTime.InCalendar, lastDayNumber, epochDayNumber, microsPerDay, microsPerHour]
    at hrange hcut hc
  have hspan : Span.ofHours p.cancelDeadlineHours = .ok ⟨p.cancelDeadlineHours * microsPerHour⟩ :=
    Span.ofMicros_eq_ok (by simp only [microsPerHour, microsPerDay]; omega)
      (by simp only [microsPerHour, microsPerDay]; omega)
  have hshift : start.shift (-(p.cancelDeadlineHours * microsPerHour)) = .ok c :=
    DateTime.shift_eq_ok_iff.mpr (by simp only [microsPerHour]; omega)
  simp only [cancelCutoff, hz, hstart, hspan, hshift, bind, Except.bind, liftRange]

/-- A cutoff before the calendar is a range failure. -/
theorem cancelCutoff_out_of_range (hz : zone p.timezone = .ok z)
    (hstart : z.toUtc ⟨d, t⟩ = .ok start)
    (hout : ¬ DateTime.InCalendar (start.toMicros - p.cancelDeadlineHours * microsPerHour)) :
    ∃ e, cancelCutoff d t p = .error (.range e) := by
  simp only [cancelCutoff, hz, hstart, bind, Except.bind, liftRange]
  cases hspan : Span.ofHours p.cancelDeadlineHours with
  | error e => exact ⟨e, rfl⟩
  | ok span =>
    -- the accepted span is the deadline's, and shifting by it leaves the calendar
    have hmicros : span.micros = p.cancelDeadlineHours * microsPerHour := Span.ofMicros_ok hspan
    have hshift : start.shift (-span.micros) = .error .outsideCalendar :=
      DateTime.shift_eq_error_iff.mpr ⟨rfl, by rwa [hmicros, ← Int.sub_eq_add_neg]⟩
    exact ⟨.outsideCalendar, by simp only [hshift]⟩

/-- With the deadline's cutoff in the calendar, a cancellation is refused exactly at and
after it. -/
theorem checkCancelDeadline_of_cutoff (hz : zone p.timezone = .ok z)
    (hstart : z.toUtc ⟨d, t⟩ = .ok start) (now : Stamp) (hpos : 0 < p.cancelDeadlineHours)
    {c : DateTime} (hc : c.toMicros = start.toMicros - p.cancelDeadlineHours * microsPerHour) :
    checkCancelDeadline d t p now =
      if c.toMicros ≤ now.utcMicros then .error (.invalid (.pastCancelDeadline p.cancelDeadlineHours c))
      else .ok () := by
  simp only [checkCancelDeadline, if_neg (Int.not_le.mpr hpos), cancelCutoff_eq_ok hz hstart hc,
    bind, Except.bind]
  split <;> rfl

/-- A cutoff before the calendar fails the check as a range error, whenever it is made. -/
theorem checkCancelDeadline_out_of_range (hz : zone p.timezone = .ok z)
    (hstart : z.toUtc ⟨d, t⟩ = .ok start) (now : Stamp) (hpos : 0 < p.cancelDeadlineHours)
    (hout : ¬ DateTime.InCalendar (start.toMicros - p.cancelDeadlineHours * microsPerHour)) :
    ∃ e, checkCancelDeadline d t p now = .error (.range e) := by
  obtain ⟨e, he⟩ := cancelCutoff_out_of_range hz hstart hout
  exact ⟨e, by simp only [checkCancelDeadline, if_neg (Int.not_le.mpr hpos), he, bind, Except.bind]⟩

end Policy

/-- A sound reservation's period starts at the UTC instant of its local start in its zone. -/
theorem Reservation.Sound.start_instant {r : Reservation} (h : r.Sound) :
    ∃ z, Policy.zone r.timezone = .ok z ∧ z.toUtc ⟨r.date, r.start⟩ = .ok r.periodStart :=
  Policy.localToUtc_ok (Policy.localPeriod_eq_ok h.period).2.1

namespace Booking

open Op Reservations

variable {db : Database} {ctx : Context} {id : Uuid} {customer : Option Uuid} {r : Reservation}
  {s : Store} {p : StorePolicy}

/-- With the policy enforced, the checks before a cancellation of a live reservation
pass or fail exactly as its deadline check under its store's policy, and change nothing. -/
theorem cancellation_checks_deadline (hfetch : db.reservation? ctx.tenant id = some r)
    (howned : ownedBy r customer = .ok ()) (hlive : r.status.isTerminal = false)
    (hstore : (resolveStore ctx r.store).run db = .ok (s, p) db) (now : Stamp) :
    wp (cancellation ctx id true customer (some now))
      (fun r' db' => Policy.checkCancelDeadline r.date r.start p now = .ok () ∧ r' = r ∧ db' = db)
      (fun e db' => Policy.checkCancelDeadline r.date r.start p now = .error e ∧ db' = db) db := by
  unfold cancellation
  simp only [wp_bind, wp_fetch, hfetch, wp_lift, howned, hlive, wp_ite, wp_of_run_ok hstore,
    instant, wp_pure]
  cases Policy.checkCancelDeadline r.date r.start p now <;> simp

/-- With the policy enforced, a rescheduling draft of a live reservation fails with its
deadline check's failure, and one that returns passed that check. -/
theorem reschedulingDraft_checks_deadline (hfetch : db.reservation? ctx.tenant id = some r)
    (howned : ownedBy r customer = .ok ()) (hlive : r.status.isTerminal = false)
    (hstore : (resolveStore ctx r.store).run db = .ok (s, p) db) (now : Stamp)
    (req : BookingRequest) (includeInactive : Bool) :
    wp (reschedulingDraft ctx id req true customer includeInactive (some now))
      (fun _ _ => Policy.checkCancelDeadline r.date r.start p now = .ok ())
      (fun e db' => ∀ e', Policy.checkCancelDeadline r.date r.start p now = .error e' →
        e = e' ∧ db' = db) db := by
  unfold reschedulingDraft
  cases hcheck : Policy.checkCancelDeadline r.date r.start p now with
  | error e =>
    simp only [wp_bind, wp_fetch, hfetch, wp_lift, howned, hlive, wp_ite, wp_of_run_ok hstore,
      instant, wp_pure, hcheck]
    simp
  | ok u =>
    -- a passed check is all the answer says, whatever the rest of the draft does
    unfold wp
    split
    · rfl
    · exact fun _ h => nomatch h

end Booking

/-- For every reservation of a reachable database and every policy in the reservation's
zone, the deadline check reads the period's own start: a deadline of zero hours or less
refuses nothing, and a positive one refuses a cancellation exactly at and after the
instant its hours of absolute time before the period starts, provided that instant is in
the calendar. A cutoff before the calendar is not refused but fails as a range error.
This check, under the policy of the reservation's store, is the one a cancellation and a
rescheduling with the policy enforced make. -/
theorem cancel_deadline_counts_from_period {db : Database} (hdb : Reachable db)
    {r : Reservation} (hr : r ∈ db.reservations) {p : StorePolicy} (hzone : p.timezone = r.timezone)
    (now : Stamp) :
    (∃ z, Policy.zone r.timezone = .ok z ∧ z.toUtc ⟨r.date, r.start⟩ = .ok r.periodStart) ∧
    (p.cancelDeadlineHours ≤ 0 → Policy.checkCancelDeadline r.date r.start p now = .ok ()) ∧
    (0 < p.cancelDeadlineHours → ∀ c : DateTime,
      c.toMicros = r.periodStart.toMicros - p.cancelDeadlineHours * microsPerHour →
      Policy.checkCancelDeadline r.date r.start p now =
        if c.toMicros ≤ now.utcMicros then
          .error (.invalid (.pastCancelDeadline p.cancelDeadlineHours c))
        else .ok ()) ∧
    (0 < p.cancelDeadlineHours →
      ¬ DateTime.InCalendar (r.periodStart.toMicros - p.cancelDeadlineHours * microsPerHour) →
      ∃ e, Policy.checkCancelDeadline r.date r.start p now = .error (.range e)) ∧
    (∀ (ctx : Context) (id : Uuid) (customer : Option Uuid) (s : Store),
      db.reservation? ctx.tenant id = some r → Booking.ownedBy r customer = .ok () →
      r.status.isTerminal = false → (Booking.resolveStore ctx r.store).run db = .ok (s, p) db →
      Op.wp (Booking.cancellation ctx id true customer (some now))
        (fun r' db' => Policy.checkCancelDeadline r.date r.start p now = .ok () ∧ r' = r ∧ db' = db)
        (fun e db' => Policy.checkCancelDeadline r.date r.start p now = .error e ∧ db' = db) db ∧
      ∀ req includeInactive,
        Op.wp (Booking.reschedulingDraft ctx id req true customer includeInactive (some now))
          (fun _ _ => Policy.checkCancelDeadline r.date r.start p now = .ok ())
          (fun e db' => ∀ e', Policy.checkCancelDeadline r.date r.start p now = .error e' →
            e = e' ∧ db' = db) db) := by
  obtain ⟨z, hz, hstart⟩ := (hdb.allSound r hr).start_instant
  rw [← hzone] at hz
  refine ⟨⟨z, hzone ▸ hz, hstart⟩, Policy.checkCancelDeadline_of_nonpos now,
    fun hpos _ hc => Policy.checkCancelDeadline_of_cutoff hz hstart now hpos hc,
    fun hpos hout => Policy.checkCancelDeadline_out_of_range hz hstart now hpos hout, ?_⟩
  intro ctx id customer s hfetch howned hlive hstore
  exact ⟨Booking.cancellation_checks_deadline hfetch howned hlive hstore now,
    Booking.reschedulingDraft_checks_deadline hfetch howned hlive hstore now⟩

private def deadlineDay : Date := ⟨epochDayNumber + 20601, by decide, by decide⟩
private def deadlineEve : Date := ⟨epochDayNumber + 20600, by decide, by decide⟩
private def deadlineStart : TimeOfDay := ⟨48600000000, by decide⟩
private def deadlineStop : TimeOfDay := ⟨52200000000, by decide⟩
private def deadlineCtx : Context := ⟨⟨1⟩, none⟩
private def deadlineCut : Selection := ⟨[⟨⟨2⟩, "Cut", 5000, 60, 0, true⟩], []⟩
private def deadlineDraft : Draft :=
  { practitioner := ⟨3⟩, customer := some ⟨4⟩, date := deadlineDay, start := deadlineStart,
    stop := deadlineStop, items := some deadlineCut }

/-- A table holding one reservation, booked in UTC from half past one to half past two. -/
private def deadlineTable : Database :=
  (Call.create deadlineCtx deadlineDraft (some "UTC")).after
    { clock := ⟨⟨deadlineDay, deadlineStart⟩, 0⟩ }

private def deadlineRow : Reservation :=
  { Reservations.newRow deadlineCtx deadlineDraft deadlineCut .pending "UTC" ⟨deadlineDay, deadlineStart⟩
      ⟨deadlineDay, deadlineStop⟩ ⟨1⟩ with
    subtotal := 5000, totalPrice := 5000, duration := 60, source := some "line",
    createdAt := ⟨deadlineDay, ⟨48600000001, by decide⟩⟩,
    updatedAt := ⟨deadlineDay, ⟨48600000001, by decide⟩⟩ }

set_option maxRecDepth 10000 in
private theorem deadlineTable_rows : deadlineTable.reservations = [deadlineRow] := rfl

/-- A store in UTC whose cancellations close a day before the start. -/
private def deadlinePolicy : StorePolicy := ⟨"UTC", 30, 30, 24⟩

/-- The reservation booked at half past one in UTC: with a deadline of 24 hours, a
cancellation at half past twelve the day before is refused at a cutoff of half past one
that day, and one at half past eleven that day is not. -/
theorem utc_booking_deadline :
    Reachable deadlineTable ∧ deadlineRow ∈ deadlineTable.reservations ∧
      deadlinePolicy.timezone = deadlineRow.timezone ∧
      Policy.checkCancelDeadline deadlineRow.date deadlineRow.start deadlinePolicy
          ⟨⟨deadlineEve, deadlineStart⟩, some (-3600000000)⟩ =
        .error (.invalid (.pastCancelDeadline 24 ⟨deadlineEve, deadlineStart⟩)) ∧
      Policy.checkCancelDeadline deadlineRow.date deadlineRow.start deadlinePolicy
          ⟨⟨deadlineEve, deadlineStart⟩, some 7200000000⟩ = .ok () := by
  have hreach : Reachable deadlineTable := .step _ (.init _ rfl)
  have hmem : deadlineRow ∈ deadlineTable.reservations := by
    rw [deadlineTable_rows]
    exact List.mem_singleton_self _
  have hcut : (⟨deadlineEve, deadlineStart⟩ : DateTime).toMicros =
      deadlineRow.periodStart.toMicros - deadlinePolicy.cancelDeadlineHours * microsPerHour := by
    decide
  refine ⟨hreach, hmem, rfl, ?_, ?_⟩
  · rw [(cancel_deadline_counts_from_period hreach hmem rfl
      ⟨⟨deadlineEve, deadlineStart⟩, some (-3600000000)⟩).2.2.1 (by decide) _ hcut, if_pos (by decide)]
    rfl
  · rw [(cancel_deadline_counts_from_period hreach hmem rfl
      ⟨⟨deadlineEve, deadlineStart⟩, some 7200000000⟩).2.2.1 (by decide) _ hcut, if_neg (by decide)]

end SalonBooking
