import SalonBooking.Proofs.ZoneCatalog
import SalonBooking.Proofs.CancelDeadline
import SalonBooking.Proofs.Idempotency

/-!
How the policy functions fail. Converting a store's wall clock to UTC, a slot's period,
today's date in the store's zone, and the checks of the booking window and of the
cancellation deadline fail only by refusing the request as invalid or by leaving the
calendar. No zone of the catalog is a day or more from UTC, so the conversions leave the
calendar only on its first two or last two days. The two checks add their own way out: the
booking window leaves the calendar exactly when its last date would come after the
calendar's last day, and the deadline exactly when its cutoff would come before the first.
A long window or deadline is then not refused; it fails as a date out of range.
-/

namespace SalonBooking

open SalonBooking.Calendar SalonBooking.Zone DateTime

/-- A refusal of the request as invalid. -/
def Fault.IsInvalid (e : Fault) : Prop := ∃ i, e = .invalid i

/-- A date, time or span outside what the calendar holds. -/
def Fault.IsRange (e : Fault) : Prop := ∃ r, e = .range r

/-- A computation that fails with a date out of range. -/
def OutOfRange {α : Type} (x : Except Fault α) : Prop := ∃ r, x = .error (.range r)

/-- One of the first two or the last two days of the calendar. -/
def Calendar.Date.NearEnd (d : Date) : Prop := d.dayNumber ≤ 2 ∨ lastDayNumber < d.dayNumber + 2

instance : DecidablePred Calendar.Date.NearEnd := fun d =>
  inferInstanceAs (Decidable (d.dayNumber ≤ 2 ∨ lastDayNumber < d.dayNumber + 2))

/-- A clock reading whose offset, if it states one, is less than a day. -/
def Calendar.Stamp.OffsetUnderADay (s : Stamp) : Prop := (s.offset.getD 0).natAbs < microsPerDay

instance : DecidablePred Calendar.Stamp.OffsetUnderADay := fun s =>
  inferInstanceAs (Decidable ((s.offset.getD 0).natAbs < microsPerDay))

/-- A reading stating an offset of less than a day converts to UTC, giving up one day of
room. -/
theorem Calendar.Stamp.toUtc_of_daysInside {s : Stamp} (hoff : s.OffsetUnderADay) {k : Nat}
    (h : DaysInside (k + 1) s.wall.toMicros) : ∃ u, s.toUtc = .ok u ∧ DaysInside k u.toMicros := by
  refine shift_of_daysInside h ?_
  rw [Int.natAbs_neg]
  exact hoff

/-- A day off the calendar's ends has two days of the calendar on each side. -/
theorem Calendar.Date.daysInside_of_not_nearEnd {d : Date} (hd : ¬ d.NearEnd) (t : TimeOfDay) :
    DaysInside 2 (⟨d, t⟩ : DateTime).toMicros := by
  unfold Calendar.Date.NearEnd at hd
  exact daysInside_of_date (by omega) (by omega) t

theorem fails_liftRange_of {α : Type} {P : Fault → Prop} {x : Except RangeError α}
    (h : ∀ r, x = .error r → P (.range r)) : Fails (liftRange x) P := by
  cases x with
  | ok a => exact fails_ok a
  | error r => exact fails_error (h r rfl)

theorem Fails.ite {ε α : Type} {P : ε → Prop} {c : Prop} [Decidable c] {x y : Except ε α}
    (hx : Fails x P) (hy : Fails y P) : Fails (if c then x else y) P := by
  split
  · exact hx
  · exact hy

namespace Policy

variable {d : Date} {t : TimeOfDay} {tz : String} {z : ZoneData}

theorem load?_of_zone (h : zone tz = .ok z) : load? tz = some z := by
  unfold zone at h
  split at h
  · next z' hz =>
    cases h
    exact hz
  · cases h

/-- Off the calendar's ends, a reading of a zone of the catalog converts to UTC and back. -/
theorem round_trip_of_not_nearEnd (hz : zone tz = .ok z) (hd : ¬ d.NearEnd) (t : TimeOfDay) :
    ∃ u w, z.toUtc ⟨d, t⟩ = .ok u ∧ z.ofUtc u = .ok w := by
  have hwithin := load?_withinADay (load?_of_zone hz)
  obtain ⟨u, hu, hinside⟩ := z.toUtc_of_daysInside hwithin (d.daysInside_of_not_nearEnd hd t)
  obtain ⟨w, hw, -⟩ := z.ofUtc_of_daysInside hwithin hinside
  exact ⟨u, w, hu, hw⟩

section Faults

/- Each function is shown to fail only with faults satisfying `P`, given that `P` holds of
every refusal and of the range errors the function can meet. -/
variable {P : Fault → Prop} (hinv : ∀ i, P (.invalid i))
include hinv

theorem zone_fails (tz : String) : Fails (zone tz) P := by
  unfold zone
  split
  · exact fails_ok _
  · exact fails_error (hinv _)

/-- Converting a reading fails by a refusal, or out of range on the calendar's first or
last two days. -/
theorem localToUtc_fails (hrange : d.NearEnd → ∀ r, P (.range r)) (t : TimeOfDay) (tz : String) :
    Fails (localToUtc d t tz) P := by
  unfold localToUtc
  refine (zone_fails hinv tz).bind fun z hz => ?_
  by_cases hd : d.NearEnd
  · -- near the ends any failure of the two conversions is allowed
    exact (fails_liftRange_of fun r _ => hrange hd r).bind fun u _ =>
      (fails_liftRange_of fun r _ => hrange hd r).bind fun b _ =>
        Fails.ite (fails_ok _) (fails_error (hinv _))
  · -- off them both conversions succeed, and only a skipped reading is refused
    obtain ⟨u, w, hu, hw⟩ := round_trip_of_not_nearEnd hz hd t
    simp only [hu, hw, liftRange, bind, Except.bind]
    exact Fails.ite (fails_ok _) (fails_error (hinv _))

/-- A slot's period fails as the conversions of its ends do, or refuses an end that is not
after its start. -/
theorem localPeriod_fails (hrange : d.NearEnd → ∀ r, P (.range r)) (start stop : TimeOfDay)
    (tz : String) : Fails (localPeriod d start stop tz) P := by
  unfold localPeriod
  dsimp only
  refine Fails.ite (fails_throw (hinv _) _) ?_
  exact (localToUtc_fails hinv hrange start tz).bind fun a _ =>
    (localToUtc_fails hinv hrange stop tz).bind fun b _ =>
      Fails.ite (fails_throw (hinv _) _) (fails_ok _)

/-- Today's date fails only by an unknown zone, or out of range for a clock read on the
calendar's first or last two days (or one stating an offset of a day or more). -/
theorem localToday_fails {p : StorePolicy} {now : Stamp}
    (hrange : ¬ now.OffsetUnderADay ∨ now.wall.date.NearEnd → ∀ r, P (.range r)) :
    Fails (localToday p now) P := by
  unfold localToday
  refine (zone_fails hinv _).bind fun z hz => ?_
  by_cases hd : ¬ now.OffsetUnderADay ∨ now.wall.date.NearEnd
  · exact (fails_liftRange_of fun r _ => hrange hd r).bind fun u _ =>
      (fails_liftRange_of fun r _ => hrange hd r).bind fun w _ => fails_ok _
  · -- the reading moves less than a day to UTC, and the zone less than a day back
    obtain ⟨hoff, hd⟩ := not_or.mp hd
    obtain ⟨u, hu, hinside⟩ := now.toUtc_of_daysInside (Decidable.of_not_not hoff)
      (now.wall.date.daysInside_of_not_nearEnd hd now.wall.time)
    obtain ⟨w, hw, -⟩ := z.ofUtc_of_daysInside (load?_withinADay (load?_of_zone hz)) hinside
    simp only [hu, hw, liftRange, bind, Except.bind]
    exact fails_ok _

variable (hrange : ∀ r, P (.range r))
include hrange

/-- The booking window fails by a refusal or out of range, and by nothing else. -/
theorem checkBookingWindow_fails (target : Date) (p : StorePolicy) (now : Stamp) :
    Fails (checkBookingWindow target p now) P := by
  unfold checkBookingWindow
  refine Fails.ite (fails_ok _) ((localToday_fails hinv fun _ => hrange).bind fun today _ =>
    (fails_liftRange_of fun r _ => hrange r).bind fun span _ => ?_)
  split
  · exact fails_error (hrange _)
  · exact Fails.ite (fails_error (hinv _)) (fails_ok _)

theorem cancelCutoff_fails (d : Date) (t : TimeOfDay) (p : StorePolicy) :
    Fails (cancelCutoff d t p) P := by
  unfold cancelCutoff
  exact (zone_fails hinv _).bind fun z _ => (fails_liftRange_of fun r _ => hrange r).bind
    fun start _ => (fails_liftRange_of fun r _ => hrange r).bind
      fun span _ => fails_liftRange_of fun r _ => hrange r

/-- The cancellation deadline fails by a refusal or out of range, and by nothing else. -/
theorem checkCancelDeadline_fails (d : Date) (t : TimeOfDay) (p : StorePolicy) (now : Stamp) :
    Fails (checkCancelDeadline d t p now) P := by
  unfold checkCancelDeadline
  exact Fails.ite (fails_ok _) ((cancelCutoff_fails hinv hrange d t p).bind fun c _ =>
    Fails.ite (fails_error (hinv _)) (fails_ok _))

end Faults

/-! ## Where the window and the deadline leave the calendar -/

section Window

variable {p : StorePolicy} {now : Stamp} {today : Date}

/-- With its last date in the calendar, the window refuses exactly the dates after it. -/
theorem checkBookingWindow_of_limit (htoday : localToday p now = .ok today)
    (hpos : 0 < p.advanceBookingDays) {limit : Date}
    (hlimit : (limit.dayNumber : Int) = today.dayNumber + p.advanceBookingDays) (target : Date) :
    checkBookingWindow target p now =
      if limit < target then .error (.invalid (.beyondBookingWindow p.advanceBookingDays target limit))
      else .ok () := by
  have hlast := limit.le_last
  have hfirst := today.one_le
  -- a window shorter than the calendar is a span the calendar accepts, of whole days
  have hspan : Span.ofDays p.advanceBookingDays = .ok ⟨p.advanceBookingDays * microsPerDay⟩ :=
    Span.ofMicros_eq_ok (by simp only [microsPerDay, lastDayNumber] at hlast ⊢; omega)
      (by simp only [microsPerDay, lastDayNumber] at hlast ⊢; omega)
  have hdays : p.advanceBookingDays * (microsPerDay : Int) / (microsPerDay : Int) =
      p.advanceBookingDays := Int.mul_ediv_cancel _ (by decide)
  have hlimit' : today.addDays? p.advanceBookingDays = some limit :=
    ofDayNumber?_eq_some_iff.mpr hlimit
  simp only [checkBookingWindow, if_neg (Int.not_le.mpr hpos), htoday, hspan, liftRange, hdays,
    hlimit', bind, Except.bind]
  split <;> rfl

/-- A window whose last date would come after the calendar's last day fails out of range. -/
theorem checkBookingWindow_out_of_range (htoday : localToday p now = .ok today)
    (hpos : 0 < p.advanceBookingDays)
    (hout : (lastDayNumber : Int) < today.dayNumber + p.advanceBookingDays) (target : Date) :
    OutOfRange (checkBookingWindow target p now) := by
  simp only [OutOfRange, checkBookingWindow, if_neg (Int.not_le.mpr hpos), htoday, bind,
    Except.bind]
  cases hspan : Span.ofDays p.advanceBookingDays with
  | error r => exact ⟨r, rfl⟩
  | ok span =>
    -- the accepted span is the window's whole days, which the calendar cannot add
    have hmicros : span.micros = p.advanceBookingDays * microsPerDay := Span.ofMicros_ok hspan
    have hnone : today.addDays? (span.micros / (microsPerDay : Int)) = none := by
      rw [hmicros, Int.mul_ediv_cancel _ (by decide)]
      unfold Date.addDays? Date.ofDayNumber?
      rw [dif_neg (by omega)]
    exact ⟨.outsideCalendar, by simp only [liftRange, hnone]; rfl⟩

/-- Once today's date is known, a positive window leaves the calendar exactly when its last
date would come after the calendar's last day. -/
theorem checkBookingWindow_outOfRange_iff (htoday : localToday p now = .ok today)
    (hpos : 0 < p.advanceBookingDays) (target : Date) :
    OutOfRange (checkBookingWindow target p now) ↔
      (lastDayNumber : Int) < today.dayNumber + p.advanceBookingDays := by
  constructor
  · rintro ⟨r, hr⟩
    refine Int.not_le.mp fun hin => ?_
    -- inside the calendar the window's last date exists, and the check refuses or passes
    have hfirst := today.one_le
    let limit : Date := ⟨(today.dayNumber + p.advanceBookingDays).toNat, by omega, by omega⟩
    have hlimit : (limit.dayNumber : Int) = today.dayNumber + p.advanceBookingDays := by
      simp only [limit]
      omega
    rw [checkBookingWindow_of_limit htoday hpos hlimit] at hr
    split at hr <;> cases hr
  · exact fun hout => checkBookingWindow_out_of_range htoday hpos hout target

end Window

section Deadline

variable {d : Date} {t : TimeOfDay} {p : StorePolicy} {z : ZoneData} {start : DateTime}

/-- Once the start's instant is known, a positive deadline leaves the calendar exactly when
its cutoff would come before the calendar's first day. -/
theorem checkCancelDeadline_outOfRange_iff (hz : zone p.timezone = .ok z)
    (hstart : z.toUtc ⟨d, t⟩ = .ok start) (now : Stamp) (hpos : 0 < p.cancelDeadlineHours) :
    OutOfRange (checkCancelDeadline d t p now) ↔
      ¬ InCalendar (start.toMicros - p.cancelDeadlineHours * microsPerHour) := by
  constructor
  · rintro ⟨r, hr⟩ hin
    -- a cutoff in the calendar is an instant, and the check refuses or passes
    obtain ⟨c, hc⟩ := exists_toMicros_iff.mpr hin
    rw [checkCancelDeadline_of_cutoff hz hstart now hpos hc] at hr
    split at hr <;> cases hr
  · exact checkCancelDeadline_out_of_range hz hstart now hpos

end Deadline

end Policy

/-- The policy functions fail only by refusing the request as invalid or by leaving the
calendar, and they leave it only at its ends. Converting a reading to UTC, and a slot's
period, leave it only on the calendar's first or last two days, and today's date only for a
clock read on such a day or stating an offset of a day or more. The booking window leaves it
exactly when its last date would come after the calendar's last day, and the cancellation
deadline exactly when its cutoff would come before the first; off the calendar's ends the
start the deadline counts back from is always known. -/
theorem policy_failures_at_calendar_ends (d target : Date) (t stop : TimeOfDay) (tz : String)
    (p : StorePolicy) (now : Stamp) :
    Fails (Policy.localToUtc d t tz) (fun e => e.IsInvalid ∨ e.IsRange ∧ d.NearEnd) ∧
    Fails (Policy.localPeriod d t stop tz) (fun e => e.IsInvalid ∨ e.IsRange ∧ d.NearEnd) ∧
    Fails (Policy.localToday p now)
      (fun e => e.IsInvalid ∨ e.IsRange ∧ (¬ now.OffsetUnderADay ∨ now.wall.date.NearEnd)) ∧
    Fails (Policy.checkBookingWindow target p now) (fun e => e.IsInvalid ∨ e.IsRange) ∧
    (∀ today, Policy.localToday p now = .ok today → 0 < p.advanceBookingDays →
      (OutOfRange (Policy.checkBookingWindow target p now) ↔
        (lastDayNumber : Int) < today.dayNumber + p.advanceBookingDays)) ∧
    Fails (Policy.checkCancelDeadline d t p now) (fun e => e.IsInvalid ∨ e.IsRange) ∧
    (∀ z, Policy.zone p.timezone = .ok z → ¬ d.NearEnd → ∃ start, z.toUtc ⟨d, t⟩ = .ok start) ∧
    (∀ z start, Policy.zone p.timezone = .ok z → z.toUtc ⟨d, t⟩ = .ok start →
      0 < p.cancelDeadlineHours →
      (OutOfRange (Policy.checkCancelDeadline d t p now) ↔
        ¬ InCalendar (start.toMicros - p.cancelDeadlineHours * microsPerHour))) := by
  refine ⟨?_, ?_, ?_, ?_, fun _ htoday hpos => Policy.checkBookingWindow_outOfRange_iff htoday hpos target,
    ?_, fun _ hz hd => ?_,
    fun _ _ hz hstart hpos => Policy.checkCancelDeadline_outOfRange_iff hz hstart now hpos⟩
  · exact Policy.localToUtc_fails (fun i => .inl ⟨i, rfl⟩) (fun hd r => .inr ⟨⟨r, rfl⟩, hd⟩) t tz
  · exact Policy.localPeriod_fails (fun i => .inl ⟨i, rfl⟩) (fun hd r => .inr ⟨⟨r, rfl⟩, hd⟩) t stop tz
  · exact Policy.localToday_fails (fun i => .inl ⟨i, rfl⟩) (fun hd r => .inr ⟨⟨r, rfl⟩, hd⟩)
  · exact Policy.checkBookingWindow_fails (fun i => .inl ⟨i, rfl⟩) (fun r => .inr ⟨r, rfl⟩) target p now
  · exact Policy.checkCancelDeadline_fails (fun i => .inl ⟨i, rfl⟩) (fun r => .inr ⟨r, rfl⟩) d t p now
  · obtain ⟨start, _, hstart, -⟩ := Policy.round_trip_of_not_nearEnd hz hd t
    exact ⟨start, hstart⟩

private def farDay : Date := ⟨epochDayNumber + 20485, by decide, by decide⟩
private def farTarget : Date := ⟨epochDayNumber + 20515, by decide, by decide⟩
private def farTime : TimeOfDay := ⟨2700000000, by decide⟩
private def farNow : Stamp := ⟨⟨farDay, farTime⟩, some 0⟩
private def utcZone : ZoneData := ⟨[⟨0, false⟩], [], .fixed ⟨0, false⟩⟩

/-- A store in UTC that takes bookings three million days ahead and closes cancellations
thirty million hours before the start. -/
private def farPolicy : StorePolicy := ⟨"UTC", 30, 3000000, 30000000⟩

set_option maxRecDepth 10000 in
/-- Read on a day of 2026 in UTC, a booking window of three million days and a deadline of
thirty million hours both leave the calendar: the first fails out of range for a target a
month ahead, the second for a start on that day, whose instant is known since the day is
far from the calendar's ends. -/
theorem far_window_and_deadline_leave_calendar :
    Policy.localToday farPolicy farNow = .ok farDay ∧ 0 < farPolicy.advanceBookingDays ∧
      OutOfRange (Policy.checkBookingWindow farTarget farPolicy farNow) ∧
    Policy.zone farPolicy.timezone = .ok utcZone ∧ ¬ farTarget.NearEnd ∧
      (∃ start, utcZone.toUtc ⟨farTarget, farTime⟩ = .ok start) ∧
      utcZone.toUtc ⟨farTarget, farTime⟩ = .ok ⟨farTarget, farTime⟩ ∧
      0 < farPolicy.cancelDeadlineHours ∧
      OutOfRange (Policy.checkCancelDeadline farTarget farTime farPolicy farNow) := by
  have htoday : Policy.localToday farPolicy farNow = .ok farDay := rfl
  have hzone : Policy.zone farPolicy.timezone = .ok utcZone := rfl
  have hstart : utcZone.toUtc ⟨farTarget, farTime⟩ = .ok ⟨farTarget, farTime⟩ := rfl
  have h := policy_failures_at_calendar_ends farTarget farTarget farTime farTime "UTC" farPolicy
    farNow
  -- thirty million hours before 2026 is some fourteen centuries before the calendar starts
  have hcut : ¬ InCalendar ((DateTime.mk farTarget farTime).toMicros -
      farPolicy.cancelDeadlineHours * microsPerHour) := by
    unfold InCalendar
    decide
  have hfar : ¬ farTarget.NearEnd := by decide
  exact ⟨htoday, by decide, (h.2.2.2.2.1 farDay htoday (by decide)).mpr (by decide), hzone,
    hfar, h.2.2.2.2.2.2.1 utcZone hzone hfar, hstart, by decide,
    (h.2.2.2.2.2.2.2 _ _ hzone hstart (by decide)).mpr hcut⟩

end SalonBooking
