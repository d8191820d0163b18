import SalonBooking.Calendar.DateTime

/-!
Instants as counts of microseconds. A date-time of the calendar is determined by its
count of microseconds since the epoch, every count from the first microsecond of
0001-01-01 to the last of 9999-12-31 is one, and shifting a date-time adds to its count,
failing exactly when the sum leaves the calendar. A span of time is accepted as long as
its whole days stay within 999999999 either way.
-/

namespace SalonBooking.Calendar

namespace DateTime

theorem toMicros_inj {a b : DateTime} : a.toMicros = b.toMicros ↔ a = b := by
  constructor
  · intro h
    obtain ⟨⟨n, _, _⟩, ⟨m, hm⟩⟩ := a
    obtain ⟨⟨n', _, _⟩, ⟨m', hm'⟩⟩ := b
    simp only [toMicros, Date.epochDays, microsPerDay] at h hm hm'
    have hn : n = n' := by omega
    have hmm : m = m' := by omega
    subst hn hmm
    rfl
  · rintro rfl
    rfl

/-- The counts of the calendar's date-times: from the first microsecond of 0001-01-01
to the last of 9999-12-31. -/
def InCalendar (n : Int) : Prop :=
  (1 - (epochDayNumber : Int)) * microsPerDay ≤ n ∧
    n < ((lastDayNumber : Int) + 1 - epochDayNumber) * microsPerDay

theorem inCalendar_toMicros (t : DateTime) : InCalendar t.toMicros := by
  obtain ⟨⟨n, h1, h2⟩, ⟨m, hm⟩⟩ := t
  simp only [InCalendar, toMicros, Date.epochDays, microsPerDay] at hm ⊢
  omega

/-- The date of a day number is the one with that number. -/
theorem ofDayNumber?_eq_some_iff {k : Int} {d : Date} :
    Date.ofDayNumber? k = some d ↔ (d.dayNumber : Int) = k := by
  unfold Date.ofDayNumber?
  split
  · next hk =>
    obtain ⟨n, h1, h2⟩ := d
    simp only [Option.some.injEq, Date.mk.injEq]
    omega
  · next hk =>
    simp only [reduceCtorEq, false_iff]
    have := d.one_le
    have := d.le_last
    omega

/-- The time of a count of microseconds is the one with that count. -/
theorem ofMicros?_time_eq_some_iff {k : Int} {t : TimeOfDay} :
    TimeOfDay.ofMicros? k = some t ↔ (t.micros : Int) = k := by
  unfold TimeOfDay.ofMicros?
  split
  · next hk =>
    obtain ⟨m, hm⟩ := t
    simp only [Option.some.injEq, TimeOfDay.mk.injEq]
    omega
  · next hk =>
    simp only [reduceCtorEq, false_iff]
    have := t.lt_day
    omega

/-- The date-time of a count is the one whose count it is. -/
theorem ofMicros?_eq_some_iff {n : Int} {t : DateTime} :
    ofMicros? n = some t ↔ t.toMicros = n := by
  obtain ⟨⟨dn, h1, h2⟩, ⟨m, hm⟩⟩ := t
  -- a count splits into its day and its time of day in one way only
  have hsplit : toMicros ⟨⟨dn, h1, h2⟩, ⟨m, hm⟩⟩ = n ↔
      (dn : Int) = n / (microsPerDay : Int) + epochDayNumber ∧ (m : Int) = n % (microsPerDay : Int) := by
    simp only [toMicros, Date.epochDays, microsPerDay] at hm ⊢
    omega
  rw [hsplit, ← ofDayNumber?_eq_some_iff (d := ⟨dn, h1, h2⟩), ← ofMicros?_time_eq_some_iff (t := ⟨m, hm⟩)]
  unfold ofMicros?
  split
  · next d tm hd htm =>
    rw [hd, htm, Option.some.injEq, Option.some.injEq, Option.some.injEq, DateTime.mk.injEq]
  · next hnone =>
    simp only [reduceCtorEq, false_iff, not_and]
    intro hd htm
    exact hnone _ _ hd htm

/-- Exactly the counts in the calendar are date-times. -/
theorem exists_toMicros_iff {n : Int} : (∃ t : DateTime, t.toMicros = n) ↔ InCalendar n := by
  constructor
  · rintro ⟨t, rfl⟩
    exact inCalendar_toMicros t
  · intro h
    simp only [InCalendar, lastDayNumber, epochDayNumber, microsPerDay] at h
    refine ⟨⟨⟨(n / (microsPerDay : Int) + epochDayNumber).toNat, ?_, ?_⟩,
      ⟨(n % (microsPerDay : Int)).toNat, ?_⟩⟩, ?_⟩ <;>
      simp only [toMicros, Date.epochDays, microsPerDay, epochDayNumber, lastDayNumber] <;> omega

/-- Shifting a date-time adds to its count. -/
theorem shift_eq_ok_iff {t t' : DateTime} {us : Int} :
    t.shift us = .ok t' ↔ t'.toMicros = t.toMicros + us := by
  unfold shift
  split
  · next r hr =>
    rw [Except.ok.injEq, ← ofMicros?_eq_some_iff, hr, Option.some.injEq]
  · next hr =>
    simp only [reduceCtorEq, false_iff]
    intro h
    rw [← ofMicros?_eq_some_iff] at h
    rw [h] at hr
    cases hr

/-- Shifting fails only for a sum outside the calendar. -/
theorem shift_eq_error_iff {t : DateTime} {us : Int} {e : RangeError} :
    t.shift us = .error e ↔ e = .outsideCalendar ∧ ¬ InCalendar (t.toMicros + us) := by
  rw [← exists_toMicros_iff]
  unfold shift
  split
  · next r hr =>
    simp only [reduceCtorEq, false_iff, not_and]
    exact fun _ hnot => hnot ⟨r, ofMicros?_eq_some_iff.mp hr⟩
  · next hr =>
    rw [Except.error.injEq, eq_comm]
    constructor
    · rintro rfl
      refine ⟨rfl, ?_⟩
      rintro ⟨r, hr'⟩
      rw [ofMicros?_eq_some_iff.mpr hr'] at hr
      cases hr
    · rintro ⟨rfl, -⟩
      rfl

end DateTime

namespace Span

/-- A span is accepted as itself while its whole days stay within 999999999 either way. -/
theorem ofMicros_eq_ok {us : Int} (h₁ : -999999999 ≤ us / (microsPerDay : Int))
    (h₂ : us / (microsPerDay : Int) ≤ 999999999) : ofMicros us = .ok ⟨us⟩ := by
  unfold ofMicros
  rw [if_neg (by omega), if_neg (by omega)]

/-- An accepted span is the one asked for. -/
theorem ofMicros_ok {us : Int} {s : Span} (h : ofMicros us = .ok s) : s.micros = us := by
  unfold ofMicros at h
  dsimp only at h
  split at h
  · cases h
  · split at h
    · cases h
    · cases h
      rfl

end Span

end SalonBooking.Calendar
