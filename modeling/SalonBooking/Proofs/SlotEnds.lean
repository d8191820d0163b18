import SalonBooking.Proofs.Aggregates
import SalonBooking.Proofs.Ownership

/-!
The end of a slot. A booking takes its end from its start and the total duration of its
menus and options, counted in whole minutes: the end is the start's minute of the day
plus the duration, so the start's seconds and microseconds do not carry over. A duration
that is not positive, or an end at or past midnight, is refused; every other slot ends
on its own day. Every reservation that a booking or a change writes therefore ends its
duration after the minute it starts in.
-/

namespace SalonBooking

open SalonBooking.Calendar Op Database Reservations Booking

namespace Policy

/-- A slot ends before midnight exactly when its start plus its duration, counted in
microseconds, does: the seconds of the start never reach the next minute. -/
theorem minuteOfDay_add_lt_iff (s : TimeOfDay) (d : Int) :
    (s.minuteOfDay : Int) + d < 1440 ↔ (s.micros : Int) + d * microsPerMinute < microsPerDay := by
  simp only [TimeOfDay.minuteOfDay, microsPerMinute, microsPerDay]
  omega

/-- A count of microseconds within the day is a time of day. -/
theorem ofMicros?_eq_some {n : Int} (h0 : 0 ≤ n) (h1 : n < microsPerDay) :
    ∃ t, TimeOfDay.ofMicros? n = some t ∧ (t.micros : Int) = n :=
  ⟨⟨n.toNat, by omega⟩, by simp [TimeOfDay.ofMicros?, h0, h1], show (n.toNat : Int) = n by omega⟩

/-- Minute `k` of the day, as hours and minutes. -/
theorem ofParts?_minute {k : Nat} (hk : k < 1440) :
    ∃ t, TimeOfDay.ofParts? (k / 60) (k % 60) 0 0 = some t ∧ t.micros = k * microsPerMinute := by
  have hparts : k / 60 < 24 ∧ k % 60 < 60 ∧ 0 < 60 ∧ 0 < microsPerSecond := by
    simp only [microsPerSecond]
    omega
  -- the hours and minutes add up to the minute's microseconds
  have hsum : ((k / 60 : Nat) : Int) * microsPerHour + ((k % 60 : Nat) : Int) * microsPerMinute +
      ((0 : Nat) : Int) * microsPerSecond + ((0 : Nat) : Int) = ((k * microsPerMinute : Nat) : Int) := by
    simp only [microsPerHour, microsPerMinute, microsPerSecond]
    omega
  obtain ⟨t, ht, hmicros⟩ := ofMicros?_eq_some (n := ((k * microsPerMinute : Nat) : Int))
    (by omega) (by simp only [microsPerMinute, microsPerDay]; omega)
  refine ⟨t, ?_, by omega⟩
  simp only [TimeOfDay.ofParts?, hparts, and_self, ↓reduceIte]
  rw [hsum]
  exact ht

/-- A slot of `d` minutes from `s` ends at minute `s.minuteOfDay + d` of the day, exactly
when the duration is positive and that minute comes before midnight. -/
theorem slotEnd_eq_ok_iff {s : TimeOfDay} {d : Int} {t : TimeOfDay} :
    slotEnd s d = .ok t ↔ 0 < d ∧ (s.minuteOfDay : Int) + d < 1440 ∧
      (t.micros : Int) = ((s.minuteOfDay : Int) + d) * microsPerMinute := by
  unfold slotEnd
  by_cases hd : d ≤ 0
  · simp only [hd, ↓reduceIte, reduceCtorEq, false_iff]
    omega
  by_cases hend : (s.minuteOfDay : Int) + d ≥ 1440
  · simp only [hd, hend, ↓reduceIte, reduceCtorEq, false_iff]
    omega
  -- the end is a minute within the day
  obtain ⟨t', ht', hmicros⟩ := ofParts?_minute (k := ((s.minuteOfDay : Int) + d).toNat) (by omega)
  simp only [hd, hend, ↓reduceIte, ht', Except.ok.injEq, ← TimeOfDay.micros_inj]
  have hμ : (((s.minuteOfDay : Int) + d).toNat * microsPerMinute : Nat) =
      ((s.minuteOfDay : Int) + d) * microsPerMinute := by
    push_cast
    rw [Int.toNat_of_nonneg (by omega)]
  omega

/-- A slot is refused only as invalid: for a duration that is not positive, or else for
an end at or past midnight. -/
theorem slotEnd_eq_error_iff {s : TimeOfDay} {d : Int} {e : Fault} :
    slotEnd s d = .error e ↔ (d ≤ 0 ∧ e = .invalid (.durationNotPositive d)) ∨
      (0 < d ∧ 1440 ≤ (s.minuteOfDay : Int) + d ∧ e = .invalid (.endsAfterMidnight s d)) := by
  unfold slotEnd
  by_cases hd : d ≤ 0
  · rw [if_pos hd, Except.error.injEq]
    constructor
    · rintro rfl
      exact .inl ⟨hd, rfl⟩
    · rintro (⟨-, rfl⟩ | ⟨hpos, -⟩)
      · rfl
      · omega
  by_cases hend : (s.minuteOfDay : Int) + d ≥ 1440
  · simp only [if_neg hd, if_pos hend, Except.error.injEq]
    constructor
    · rintro rfl
      exact .inr ⟨by omega, hend, rfl⟩
    · rintro (⟨hneg, -⟩ | ⟨-, -, rfl⟩)
      · omega
      · rfl
  -- a minute within the day is always a time
  obtain ⟨t', ht', -⟩ := ofParts?_minute (k := ((s.minuteOfDay : Int) + d).toNat) (by omega)
  simp only [if_neg hd, if_neg hend, ht', reduceCtorEq, false_iff]
  omega

end Policy

/-! ## Drafts and the rows written from them -/

/-- A draft whose end is the end of a slot as long as its items. -/
def Draft.EndsAfterItems (d : Draft) : Prop :=
  ∃ items, d.items = some items ∧ Policy.slotEnd d.start items.duration = .ok d.stop

/-- A reservation stored from draft `d` together with the draft's items: it has the draft's
slot, the draft's items as its lines, and their duration. -/
structure Reservation.WrittenFrom (r : Reservation) (d : Draft) : Prop where
  start : r.start = d.start
  stop : r.stop = d.stop
  lines : d.items = some ⟨r.menuItems, r.optionItems⟩
  duration : r.duration = Selection.duration ⟨r.menuItems, r.optionItems⟩

namespace Op

/-- What a run adds keeps every consequence of what it is known to add. -/
theorem wp_newRows_imp {α : Type} {x : Op α} {db : Database} {P Q : Reservation → Prop}
    (h : wp x (fun _ db' => NewRows db db' P) (fun _ db' => NewRows db db' P) db)
    (hPQ : ∀ r, P r → Q r) :
    wp x (fun _ db' => NewRows db db' Q) (fun _ db' => NewRows db db' Q) db :=
  wp_mono h (fun _ _ h => h.imp hPQ) fun _ _ h => h.imp hPQ

/-- A check that reads no row answers what it computes. -/
theorem returns_lift {α : Type} (x : Except Fault α) : Returns (liftM x : Op α) (x = .ok ·) := by
  intro db
  cases x <;> simp

end Op

namespace Reservations

variable {db : Database}

/-- A write of a draft with items adds at most one row, stored from the draft. -/
theorem insertOrReplay_newRows_written (ctx : Context) (d : Draft) (timezone : Option String)
    (db : Database) :
    wp (insertOrReplay ctx d timezone) (fun _ db' => NewRows db db' (·.WrittenFrom d))
      (fun _ db' => NewRows db db' (·.WrittenFrom d)) db := by
  refine wp_mono (wp_and (insertOrReplay_wp ctx d timezone db) (insertOrReplay_creates ctx d timezone db))
    ?_ fun _ _ h => NewRows.of_sameRows h.1
  rintro ⟨r, created⟩ db' ⟨⟨rfl, -, -⟩ | ⟨-, -, hrows⟩, hnew⟩
  · obtain ⟨items, _, _, _, drafted, _, hcheck, hdraft, rfl, -, hrows⟩ := hnew rfl
    have hitems := (checkDraft_ok hcheck).1
    have h := applyDraft_repriced hdraft
    refine NewRows.append hrows ⟨h.slot.2.1, h.slot.2.2.1, ?_, ?_⟩
    · -- the stored lines are the new row's, which are the draft's items
      simp only [h.menus, h.options, newRow, hitems]
    · simp only [h.duration, h.menus, h.options, newRow, hitems, Option.map_some, Option.getD_some]
  · exact NewRows.of_sameRows hrows

/-- An update that replaces the items puts back one row, stored from the draft. -/
theorem replace_newRows_written (ctx : Context) (id : Uuid) (d : Draft) (timezone : Option String)
    (db : Database) :
    wp (replace ctx id d timezone true) (fun _ db' => NewRows db db' (·.WrittenFrom d))
      (fun _ db' => NewRows db db' (·.WrittenFrom d)) db := by
  refine wp_mono (wp_and (replace_wp ctx id d timezone true db) (replace_rewrites ctx id d timezone true db))
    ?_ fun _ _ h => NewRows.of_sameRows h.1
  rintro r' db' ⟨-, r, a, b, r₁, stamp, -, -, hmenus, -, hdraft, rfl, hrows⟩
  obtain ⟨items, hitems, -⟩ := exists_of_hasMenus (hmenus rfl)
  have h := applyDraft_repriced hdraft
  refine NewRows.put hrows ⟨h.slot.2.1, h.slot.2.2.1, ?_, ?_⟩
  · simp only [hitems, ↓reduceIte, Option.map_some, Option.getD_some]
  · simp only [h.duration, hitems, ↓reduceIte, Option.map_some, Option.getD_some]

end Reservations

namespace Booking

variable {ctx : Context} {req : BookingRequest} {actor : Actor} {enforcePolicy includeInactive : Bool}
  {now : Option Stamp} {D : Draft → Prop} {P : Reservation → Prop}

/-- A booking adds what the write of its draft adds. -/
theorem book_newRows_of
    (hdraft : Returns (bookingDraft ctx req enforcePolicy includeInactive now) fun res => D res.2.2)
    (hwrite : ∀ d, D d → ∀ ctx' timezone db, wp (insertOrReplay ctx' d timezone)
      (fun _ db' => NewRows db db' P) (fun _ db' => NewRows db db' P) db) (db : Database) :
    wp (book ctx req actor enforcePolicy includeInactive now) (fun _ db' => NewRows db db' P)
      (fun _ db' => NewRows db db' P) db := by
  unfold book
  rw [wp_bind]
  refine wp_mono (wp_and (readsOnly_bookingDraft ctx req enforcePolicy includeInactive now db)
    (hdraft db)) (fun ⟨store, policy, draft⟩ db₁ ⟨h₁, hd⟩ => ?_) fun _ _ h => NewRows.of_sameRows h.1
  rw [wp_bind]
  refine wp_mono (hwrite draft hd _ _ db₁) (fun _ db₂ h₂ => ?_) fun _ _ h₂ => h₂.after_sameRows h₁
  -- the audit entry of a creation writes no reservation
  dsimp only
  split
  · rw [wp_bind]
    exact record_keeps _ _ _ _ _ _ _ fun _ hrows _ _ => (h₂.after_sameRows h₁).congr hrows
  · exact h₂.after_sameRows h₁

/-- A change puts back what the update with its draft puts back. -/
theorem reschedule_newRows_of {id : Uuid} {customer : Option Uuid}
    (hdraft : Returns (reschedulingDraft ctx id req enforcePolicy customer includeInactive now)
      fun res => D res.2.2.2)
    (hwrite : ∀ d, D d → ∀ ctx' timezone db, wp (replace ctx' id d timezone true)
      (fun _ db' => NewRows db db' P) (fun _ db' => NewRows db db' P) db) (db : Database) :
    wp (reschedule ctx id req actor enforcePolicy customer includeInactive now)
      (fun _ db' => NewRows db db' P) (fun _ db' => NewRows db db' P) db := by
  unfold reschedule
  rw [wp_bind]
  refine wp_mono (wp_and (readsOnly_reschedulingDraft ctx id req enforcePolicy customer
    includeInactive now db) (hdraft db)) (fun ⟨r, store, policy, draft⟩ db₁ ⟨h₁, hd⟩ => ?_)
    fun _ _ h => NewRows.of_sameRows h.1
  rw [wp_bind]
  refine wp_mono (hwrite draft hd _ _ db₁) (fun _ db₂ h₂ => ?_) fun _ _ h₂ => h₂.after_sameRows h₁
  rw [wp_bind]
  exact record_keeps _ _ _ _ _ _ _ fun _ hrows _ _ => (h₂.after_sameRows h₁).congr hrows

/-- A booking request's draft ends as long after its start as its items last. -/
theorem returns_bookingDraft_ends (ctx : Context) (req : BookingRequest) (enforcePolicy : Bool)
    (includeInactive : Bool) (now : Option Stamp) :
    Returns (bookingDraft ctx req enforcePolicy includeInactive now) (·.2.2.EndsAfterItems) := by
  unfold bookingDraft
  split
  · dsimp only
    split
    · exact fun _ => trivial
    · refine (returns_any _).bind fun ⟨store, policy⟩ _ => ?_
      dsimp only
      split
      -- with the policy enforced, the clock is read and the booking window checked first
      all_goals try refine (returns_any (instant now)).bind fun _ _ =>
        (returns_any _).bind fun _ _ => ?_
      all_goals
        exact (returns_any _).bind fun _ _ => (returns_any _).bind fun _ _ =>
          (returns_any _).bind fun items _ => (returns_lift _).bind fun _ hstop =>
            returns_pure ⟨items, rfl, hstop⟩
  · exact fun _ => trivial

/-- A rescheduling request's draft ends as long after its start as its items last. -/
theorem returns_reschedulingDraft_ends (ctx : Context) (id : Uuid) (req : BookingRequest)
    (enforcePolicy : Bool) (customer : Option Uuid) (includeInactive : Bool) (now : Option Stamp) :
    Returns (reschedulingDraft ctx id req enforcePolicy customer includeInactive now)
      (·.2.2.2.EndsAfterItems) := by
  unfold reschedulingDraft
  refine (returns_any _).bind fun r _ => (returns_any _).bind fun _ _ => ?_
  dsimp only
  split
  · exact fun _ => trivial
  · split
    -- with the policy enforced, the old slot's cancellation deadline is checked first
    all_goals try refine (returns_any _).bind fun _ _ =>
      (returns_any (instant now)).bind fun _ _ => (returns_any _).bind fun _ _ => ?_
    all_goals refine (returns_any _).bind fun ⟨store, policy⟩ _ => ?_
    all_goals dsimp only
    all_goals split
    -- and the new date's booking window
    all_goals try refine (returns_any (instant now)).bind fun _ _ =>
      (returns_any _).bind fun _ _ => ?_
    all_goals
      exact (returns_any _).bind fun _ _ => (returns_any _).bind fun _ _ =>
        (returns_any _).bind fun items _ => (returns_lift _).bind fun _ hstop =>
          returns_pure ⟨items, rfl, hstop⟩

end Booking

/-! ## Reservations end their duration after their start -/

/-- A reservation that ends as long after the minute it starts in as its lines last, later
on the day it starts. -/
structure Reservation.EndsOnTime (r : Reservation) : Prop where
  duration : r.duration = Selection.duration ⟨r.menuItems, r.optionItems⟩
  positive : 0 < r.duration
  stop : (r.stop.micros : Int) = ((r.start.minuteOfDay : Int) + r.duration) * microsPerMinute
  sameDay : r.start < r.stop

/-- A slot's end comes after its start. -/
theorem Policy.start_lt_slotEnd {s t : TimeOfDay} {d : Int} (h : Policy.slotEnd s d = .ok t) :
    s < t := by
  obtain ⟨hd, -, ht⟩ := slotEnd_eq_ok_iff.mp h
  show s.micros < t.micros
  simp only [TimeOfDay.minuteOfDay, microsPerMinute] at ht
  omega

theorem Reservation.WrittenFrom.endsOnTime {r : Reservation} {d : Draft} (hr : r.WrittenFrom d)
    (hd : d.EndsAfterItems) : r.EndsOnTime := by
  obtain ⟨items, hitems, hstop⟩ := hd
  -- the draft's items are the reservation's lines
  have hlines : items = ⟨r.menuItems, r.optionItems⟩ := Option.some.inj (hitems.symm.trans hr.lines)
  subst hlines
  rw [← hr.duration, ← hr.start, ← hr.stop] at hstop
  obtain ⟨hpos, -, hmicros⟩ := Policy.slotEnd_eq_ok_iff.mp hstop
  exact ⟨hr.duration, hpos, hmicros, Policy.start_lt_slotEnd hstop⟩

namespace Booking

/-- Every reservation a booking writes ends as long after its start as its lines last. -/
theorem book_endsOnTime (ctx : Context) (req : BookingRequest) (actor : Actor)
    (enforcePolicy includeInactive : Bool) (now : Option Stamp) (db : Database) :
    wp (book ctx req actor enforcePolicy includeInactive now)
      (fun _ db' => NewRows db db' (·.EndsOnTime)) (fun _ db' => NewRows db db' (·.EndsOnTime)) db :=
  book_newRows_of (returns_bookingDraft_ends ctx req enforcePolicy includeInactive now)
    (fun _ hd _ _ db => wp_newRows_imp (insertOrReplay_newRows_written _ _ _ db)
      fun _ hr => hr.endsOnTime hd) db

/-- Every reservation a change writes ends as long after its start as its lines last. -/
theorem reschedule_endsOnTime (ctx : Context) (id : Uuid) (req : BookingRequest) (actor : Actor)
    (enforcePolicy : Bool) (customer : Option Uuid) (includeInactive : Bool) (now : Option Stamp)
    (db : Database) :
    wp (reschedule ctx id req actor enforcePolicy customer includeInactive now)
      (fun _ db' => NewRows db db' (·.EndsOnTime)) (fun _ db' => NewRows db db' (·.EndsOnTime)) db :=
  reschedule_newRows_of
    (returns_reschedulingDraft_ends ctx id req enforcePolicy customer includeInactive now)
    (fun _ hd _ _ db => wp_newRows_imp (replace_newRows_written _ _ _ _ db)
      fun _ hr => hr.endsOnTime hd) db

end Booking

/-- The end of a slot of `d` minutes from `s`: refused as invalid exactly when the duration
is not positive or the start plus the duration reaches midnight, and otherwise the minute
`d` minutes after the one `s` falls in, the seconds and microseconds of `s` dropped. Every
reservation a booking or a change writes therefore lasts its lines' total duration from the
minute it starts in, and ends after its start on the same day. -/
theorem slot_end_whole_minutes :
    (∀ (s : TimeOfDay) (d : Int),
      ((∃ v, Policy.slotEnd s d = .error (.invalid v)) ↔
        d ≤ 0 ∨ (microsPerDay : Int) ≤ s.micros + d * microsPerMinute) ∧
      (0 < d → (s.micros : Int) + d * microsPerMinute < microsPerDay →
        ∃ t, Policy.slotEnd s d = .ok t ∧
          (t.micros : Int) = ((s.minuteOfDay : Int) + d) * microsPerMinute)) ∧
    (∀ ctx req actor enforcePolicy includeInactive now db,
      wp (Booking.book ctx req actor enforcePolicy includeInactive now)
        (fun _ db' => NewRows db db' (·.EndsOnTime)) (fun _ db' => NewRows db db' (·.EndsOnTime)) db) ∧
    (∀ ctx id req actor enforcePolicy customer includeInactive now db,
      wp (Booking.reschedule ctx id req actor enforcePolicy customer includeInactive now)
        (fun _ db' => NewRows db db' (·.EndsOnTime)) (fun _ db' => NewRows db db' (·.EndsOnTime)) db) := by
  refine ⟨fun s d => ⟨?_, fun hd hend => ?_⟩, Booking.book_endsOnTime, Booking.reschedule_endsOnTime⟩
  · have hday := Policy.minuteOfDay_add_lt_iff s d
    constructor
    · rintro ⟨v, hv⟩
      rcases Policy.slotEnd_eq_error_iff.mp hv with ⟨hd, -⟩ | ⟨-, hend, -⟩
      · exact .inl hd
      · exact .inr (by omega)
    · intro h
      by_cases hd : d ≤ 0
      · exact ⟨_, Policy.slotEnd_eq_error_iff.mpr (.inl ⟨hd, rfl⟩)⟩
      · exact ⟨_, Policy.slotEnd_eq_error_iff.mpr (.inr ⟨by omega, by omega, rfl⟩)⟩
  · -- neither refusal applies, so the slot has an end
    have hday := (Policy.minuteOfDay_add_lt_iff s d).mpr hend
    cases hres : Policy.slotEnd s d with
    | ok t => exact ⟨t, rfl, (Policy.slotEnd_eq_ok_iff.mp hres).2.2⟩
    | error e =>
      rcases Policy.slotEnd_eq_error_iff.mp hres with ⟨hd', -⟩ | ⟨-, hend', -⟩ <;> omega

/-- Ten o'clock and thirty seconds. -/
private def halfMinutePastTen : TimeOfDay := ⟨36030000000, by decide⟩

/-- A sixty-minute slot from 10:00:30 ends at 11:00:00, thirty seconds short of sixty
minutes after its start. -/
theorem slot_end_drops_seconds :
    ∃ t, Policy.slotEnd halfMinutePastTen 60 = .ok t ∧ t.micros = 39600000000 ∧
      (t.micros : Int) ≠ halfMinutePastTen.micros + 60 * microsPerMinute := by
  have hminute : halfMinutePastTen.minuteOfDay = 600 := by decide
  cases hres : Policy.slotEnd halfMinutePastTen 60 with
  | error e =>
    -- a positive duration from minute 600 is refused by neither check
    rcases Policy.slotEnd_eq_error_iff.mp hres with ⟨hd, -⟩ | ⟨-, hend, -⟩
    · omega
    · rw [hminute] at hend
      omega
  | ok t =>
    have hmicros := (Policy.slotEnd_eq_ok_iff.mp hres).2.2
    rw [hminute] at hmicros
    refine ⟨t, rfl, ?_, ?_⟩ <;> simp only [halfMinutePastTen, microsPerMinute] at hmicros ⊢ <;> omega

end SalonBooking
