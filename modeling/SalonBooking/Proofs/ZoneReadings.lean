import SalonBooking.Proofs.ZoneOrder
import SalonBooking.Proofs.ZoneOffsets

/-!
Converting wall-clock readings to the instants that read them. A zone is ordered when its
changes ascend (they come in order, and so do the wall-clock times from which their offsets
are read) and fall at least three days inside the calendar; the catalog's zones all are
(checked with the catalog's other properties). In a zone that follows such changes:

* a reading that some instant reads converts to the earliest instant that reads it;
* a reading that the zone skips (no instant reads it, though instants read times before and
  after it) converts to an instant that reads another time.
-/

namespace SalonBooking.Zone

open SalonBooking.Calendar DateTime Changes

/-- Whether second `t` lies at least three days inside the calendar. -/
def wellInside (t : Int) : Bool :=
  decide (yearStart 1 + 3 * 86400 ≤ t) && decide (t + 3 * 86400 ≤ yearStart 10000)

theorem yearStart_one : yearStart 1 = -62135596800 := by decide

theorem yearStart_tenThousand : yearStart 10000 = 253402300800 := by decide

/-- The calendar's counts of microseconds are those of the seconds of its years. -/
theorem inCalendar_iff {n : Int} :
    InCalendar n ↔ yearStart 1 * 1000000 ≤ n ∧ n < yearStart 10000 * 1000000 := by
  simp only [InCalendar, yearStart_one, yearStart_tenThousand, epochDayNumber, lastDayNumber,
    microsPerDay]
  omega

/-- Moving a date-time by whole seconds moves its second by as many. -/
theorem epochSeconds_of_toMicros {v w : DateTime} {p : Int}
    (h : v.toMicros = w.toMicros + p * 1000000) : v.epochSeconds = w.epochSeconds + p := by
  have hv := ZoneData.epochSeconds_spec v
  have hw := ZoneData.epochSeconds_spec w
  omega

namespace Changes

variable {b t : Int} {cs : List (Int × Int)}

/-- Before the calendar's first three days are over, no change has come. -/
theorem offsetAt_early (hin : ∀ x ∈ cs, wellInside x.1 = true) (ht : t < yearStart 1 + 3 * 86400) :
    offsetAt b cs t = b := by
  refine offsetAt_of_lt fun x hx => ?_
  have h := hin x hx
  simp only [wellInside, Bool.and_eq_true, decide_eq_true_eq] at h
  omega

/-- In the calendar's last three days, every change has come. -/
theorem offsetAt_late (hin : ∀ x ∈ cs, wellInside x.1 = true) (ht : yearStart 10000 ≤ t + 3 * 86400) :
    offsetAt b cs t = lastOffset b cs := by
  refine offsetAt_of_le fun x hx => ?_
  have h := hin x hx
  simp only [wellInside, Bool.and_eq_true, decide_eq_true_eq] at h
  omega

end Changes

namespace ZoneData

/-- The wall clock of `z` skips reading `w`: no instant reads it, though instants read times
before it and times after it. -/
def Skips (z : ZoneData) (w : DateTime) : Prop :=
  (¬∃ u, z.ofUtc u = .ok w) ∧ (∃ u w₁, z.ofUtc u = .ok w₁ ∧ w₁ < w) ∧
    ∃ u w₂, z.ofUtc u = .ok w₂ ∧ w < w₂

/-- Whether the zone's changes ascend and fall well inside the calendar: checked on the listed
changes with the rule's first, on the first and the last listed change, and on the rule's
changes of year 9999. -/
def ordered (z : ZoneData) : Bool :=
  let L := z.offsets z.transitions
  ascending (L ++ z.ruleChanges.take 1) && (L.head?.all fun x => wellInside x.1) &&
    (L.getLast?.all fun x => wellInside x.1) &&
    (z.ruleChanges.isEmpty || (z.rule.yearChanges 0 9999).all fun x => wellInside x.1)

variable {z : ZoneData}

/-- A regular zone's rule adds no changes, or those of a yearly rule from a year after the
first up to 9999. -/
theorem ruleChanges_of_regular (h : z.regular = true) :
    z.ruleChanges = [] ∨ ∃ st first, z.rule.Yearly st ∧ 2 ≤ first ∧ first ≤ 9999 ∧
      z.ruleChanges = z.rule.changesFrom 0 first (10000 - first) := by
  unfold regular at h
  simp only [Bool.and_eq_true] at h
  obtain ⟨-, h⟩ := h
  split at h
  · next hnil => exact .inl (by simp only [ruleChanges, hnil])
  · next tn i bn i' hlast hwlast =>
    simp only [Bool.and_eq_true] at h
    obtain ⟨-, h⟩ := h
    split at h
    · next v _ hv => exact .inl (by simp only [ruleChanges, hlast, hv])
    · next st hsteady hst =>
      have hafter : yearOfSecond tn - 1 + 1 ≤ z.rule.firstYearAfter tn (yearOfSecond tn - 1) := by
        unfold Rule.firstYearAfter
        split <;> omega
      have hc : z.ruleChanges = z.rule.changesFrom 0 (z.rule.firstYearAfter tn (yearOfSecond tn - 1))
          (10000 - z.rule.firstYearAfter tn (yearOfSecond tn - 1)) := by
        simp only [ruleChanges, hlast, hsteady]
      generalize yearOfSecond tn - 1 = y₀ at h hafter hc
      generalize z.rule.firstYearAfter tn y₀ = first at h hafter hc
      simp only [Bool.and_eq_true, decide_eq_true_eq] at h
      obtain ⟨⟨⟨⟨⟨⟨⟨⟨⟨⟨⟨-, hy₀⟩, -⟩, hf9⟩, -⟩, -⟩, -⟩, -⟩, -⟩, -⟩, -⟩, -⟩ := h
      exact .inr ⟨st, first, Rule.yearly_of_yearlyStart? hst, by omega, hf9, hc⟩
    · cases h
  · cases h

/-- A second between two seconds well inside the calendar is well inside it. -/
theorem wellInside_between {a b c : Int} (ha : wellInside a = true) (hc : wellInside c = true)
    (hab : a ≤ b) (hbc : b ≤ c) : wellInside b = true := by
  simp only [wellInside, Bool.and_eq_true, decide_eq_true_eq] at ha hc ⊢
  omega

/-- The listed changes of an ordered zone fall well inside the calendar, between the first and
the last of them. -/
theorem listed_wellInside (hord : z.ordered = true) :
    ∀ x ∈ z.offsets z.transitions, wellInside x.1 = true := by
  unfold ordered at hord
  simp only [Bool.and_eq_true] at hord
  obtain ⟨⟨⟨hasc, hfirst⟩, hlast⟩, -⟩ := hord
  have hL := ascending_of_append hasc
  intro x hx
  cases hL' : z.offsets z.transitions with
  | nil => rw [hL'] at hx; cases hx
  | cons f rest =>
    have hl : (f :: rest).getLast? = some ((f :: rest).getLast (List.cons_ne_nil f rest)) :=
      List.getLast?_eq_some_getLast (List.cons_ne_nil f rest)
    rw [hL'] at hx hfirst hlast hL
    simp only [List.head?_cons, Option.all_some, hl] at hfirst hlast
    refine wellInside_between hfirst hlast ?_ (le_getLast_of_ascending hL hx hl)
    rcases List.mem_cons.mp hx with rfl | hx
    · exact Int.le_refl _
    · exact le_of_mem_ascending hL x hx

/-- The changes of a regular, ordered zone ascend and fall well inside the calendar. -/
theorem changes_ordered (hreg : z.regular = true) (hord : z.ordered = true) :
    ascending z.changes = true ∧ ∀ x ∈ z.changes, wellInside x.1 = true := by
  have hlisted := listed_wellInside hord
  unfold ordered at hord
  simp only [Bool.and_eq_true, Bool.or_eq_true, List.all_eq_true, List.isEmpty_iff] at hord
  obtain ⟨⟨⟨hasc, -⟩, -⟩, hlast⟩ := hord
  rcases ruleChanges_of_regular hreg with hR | ⟨st, first, hY, hfirst, hf9, hR⟩
  · -- the listed changes alone
    rw [hR] at hasc
    refine ⟨by simpa [changes, hR] using hasc, fun x hx => ?_⟩
    rw [changes, hR, List.append_nil] at hx
    exact hlisted x hx
  refine ⟨?_, fun x hx => ?_⟩
  · rw [changes, ascending_append, hasc, Bool.true_and, hR]
    exact hY.ascending_changesFrom (by omega)
  rcases List.mem_append.mp hx with hx | hx
  · exact hlisted x hx
  -- a change of the rule falls in one of the years from `first` to 9999
  have hxR := hx
  rw [hR] at hx
  obtain ⟨y, hy₁, hy₂, hxy⟩ := Rule.exists_year_of_mem_changesFrom hx
  by_cases h9 : y = 9999
  · subst h9
    rcases hlast with hnil | hcheck
    · rw [hnil] at hxR
      cases hxR
    · exact hcheck x hxy
  · have hin := hY.utc y (by omega) x hxy
    have h₁ := yearStart_mono (by omega : 1 ≤ 2) (show 2 ≤ y by omega)
    have h₂ := yearStart_mono (by omega : 1 ≤ y + 1) (show y + 1 ≤ 9999 by omega)
    have h₃ : yearStart 1 + 3 * 86400 ≤ yearStart 2 := by decide
    have h₄ : yearStart 9999 + 3 * 86400 ≤ yearStart 10000 := by decide
    simp only [wellInside, Bool.and_eq_true, decide_eq_true_eq]
    omega

namespace Follows

variable {b : Int} {cs : List (Int × Int)}

theorem utc_offset (hz : z.Follows b cs) (u : DateTime) :
    (z.typeAtUtc u.epochSeconds u.year).offset = offsetAt b cs u.epochSeconds := by
  have hu := epochSeconds_mem_year u
  exact hz.utc u.year u.epochSeconds u.date.year_mem.1 u.date.year_mem.2 hu.1 hu.2

theorem wall_offset (hz : z.Follows b cs) (w : DateTime) :
    (z.typeAtWall w.epochSeconds w.year).offset = offsetAt b (wallPlaces b cs) w.epochSeconds := by
  have hw := epochSeconds_mem_year w
  exact hz.wall w.year w.epochSeconds w.date.year_mem.1 w.date.year_mem.2 hw.1 hw.2

/-- An instant reads the time that the offset at its second puts it at. -/
theorem ofUtc_eq_ok_iff (hz : z.Follows b cs) {u w : DateTime} :
    z.ofUtc u = .ok w ↔ w.toMicros = u.toMicros + offsetAt b cs u.epochSeconds * 1000000 := by
  rw [ofUtc, shift_eq_ok_iff, hz.utc_offset u]
  rfl

/-- A reading converts to the instant that the offset taken for its second puts it at. -/
theorem toUtc_eq_ok_iff (hz : z.Follows b cs) {w u : DateTime} :
    z.toUtc w = .ok u ↔
      u.toMicros = w.toMicros - offsetAt b (wallPlaces b cs) w.epochSeconds * 1000000 := by
  rw [toUtc, shift_eq_ok_iff, hz.wall_offset w]
  simp only [microsPerSecond]
  omega

theorem offsetAt_lt (hz : z.Follows b cs) (hday : z.withinADay = true) (u : DateTime) :
    (offsetAt b cs u.epochSeconds).natAbs < 86400 :=
  hz.utc_offset u ▸ typeAtUtc_offset_lt hday _ _

theorem wallOffset_lt (hz : z.Follows b cs) (hday : z.withinADay = true) (w : DateTime) :
    (offsetAt b (wallPlaces b cs) w.epochSeconds).natAbs < 86400 :=
  hz.wall_offset w ▸ typeAtWall_offset_lt hday _ _

/-- The instant `p` seconds behind a reading reads it, when it is in the calendar and `p` is
the offset at its second. -/
theorem ofUtc_behind (hz : z.Follows b cs) (w : DateTime) (p : Int)
    (hin : InCalendar (w.toMicros - p * 1000000)) (hp : offsetAt b cs (w.epochSeconds - p) = p) :
    ∃ v, v.toMicros = w.toMicros - p * 1000000 ∧ z.ofUtc v = .ok w := by
  obtain ⟨v, hv⟩ := exists_toMicros_iff.mpr hin
  have hsec : v.epochSeconds = w.epochSeconds - p := by
    have := epochSeconds_of_toMicros (p := -p) (show v.toMicros = w.toMicros + -p * 1000000 by omega)
    omega
  refine ⟨v, hv, hz.ofUtc_eq_ok_iff.mpr ?_⟩
  rw [hsec, hp, hv]
  omega

variable (hin : ∀ x ∈ cs, wellInside x.1 = true) (hday : z.withinADay = true)
include hin hday

/-- A reading that some instant reads converts to the earliest instant that reads it. -/
theorem toUtc_earliest (hz : z.Follows b cs) (hasc : ascending cs = true) {u w : DateTime}
    (h : z.ofUtc u = .ok w) : ∃ u₀, z.toUtc w = .ok u₀ ∧ z.ofUtc u₀ = .ok w ∧ u₀ ≤ u := by
  have hf := hz.ofUtc_eq_ok_iff.mp h
  have hsec := epochSeconds_of_toMicros hf
  -- the second the reading reads back to is accepted, and the earliest that reads it
  obtain ⟨hacc, hle⟩ := readBack_least hasc hsec.symm
  have hg : readBack b cs w.epochSeconds =
      w.epochSeconds - offsetAt b (wallPlaces b cs) w.epochSeconds := rfl
  rw [hg] at hle
  have hsu := epochSeconds_spec u
  have hsw := epochSeconds_spec w
  have hcal := inCalendar_iff.mp (inCalendar_toMicros u)
  -- that second lies in the calendar: near its start no change has come, and elsewhere
  -- both offsets are less than a day
  have hlow : yearStart 1 ≤ w.epochSeconds - offsetAt b (wallPlaces b cs) w.epochSeconds := by
    by_cases hs : u.epochSeconds < yearStart 1 + 3 * 86400
    · have h₁ : offsetAt b cs u.epochSeconds = b := Changes.offsetAt_early hin hs
      have h₂ : offsetAt b cs (readBack b cs w.epochSeconds) = b :=
        Changes.offsetAt_early hin (by rw [hg]; omega)
      unfold Accepted at hacc
      rw [h₂] at hacc
      omega
    · have := hz.offsetAt_lt hday u
      have := hz.wallOffset_lt hday w
      omega
  obtain ⟨u₀, hu₀, hread⟩ := hz.ofUtc_behind w (offsetAt b (wallPlaces b cs) w.epochSeconds)
    (inCalendar_iff.mpr ⟨by omega, by omega⟩) hacc
  exact ⟨u₀, hz.toUtc_eq_ok_iff.mpr hu₀, hread, show u₀.toMicros ≤ u.toMicros by omega⟩

/-- A reading that the zone skips lies two days or more inside the calendar: nearer its start
it would be read at the offset before every change, and nearer its end at the offset after
them, by the instant that far behind it. -/
theorem daysInside_of_skips (hz : z.Follows b cs) {w : DateTime} (hs : z.Skips w) :
    DaysInside 2 w.toMicros := by
  obtain ⟨hno, ⟨u₁, w₁, h₁, hlt₁⟩, ⟨u₂, w₂, h₂, hlt₂⟩⟩ := hs
  have hlt₁ : w₁.toMicros < w.toMicros := hlt₁
  have hlt₂ : w.toMicros < w₂.toMicros := hlt₂
  have hsw := epochSeconds_spec w
  have hs₁ := epochSeconds_spec u₁
  have hs₂ := epochSeconds_spec u₂
  have hf₁ := hz.ofUtc_eq_ok_iff.mp h₁
  have hf₂ := hz.ofUtc_eq_ok_iff.mp h₂
  have hd₁ := hz.offsetAt_lt hday u₁
  have hd₂ := hz.offsetAt_lt hday u₂
  have hc₁ := inCalendar_iff.mp (inCalendar_toMicros u₁)
  have hc₂ := inCalendar_iff.mp (inCalendar_toMicros u₂)
  have hone := yearStart_one
  have hlast := yearStart_tenThousand
  have hlo : (yearStart 1 + 2 * 86400) * 1000000 ≤ w.toMicros := by
    refine Int.not_lt.mp fun hw => hno ?_
    have hb : offsetAt b cs u₁.epochSeconds = b := Changes.offsetAt_early hin (by omega)
    rw [hb] at hf₁ hd₁
    obtain ⟨v, -, hv⟩ := hz.ofUtc_behind w b (inCalendar_iff.mpr ⟨by omega, by omega⟩)
      (Changes.offsetAt_early hin (by omega))
    exact ⟨v, hv⟩
  have hhi : w.toMicros < (yearStart 10000 - 2 * 86400) * 1000000 := by
    refine Int.not_le.mp fun hw => hno ?_
    have hp : offsetAt b cs u₂.epochSeconds = lastOffset b cs := Changes.offsetAt_late hin (by omega)
    rw [hp] at hf₂ hd₂
    obtain ⟨v, -, hv⟩ := hz.ofUtc_behind w (lastOffset b cs)
      (inCalendar_iff.mpr ⟨by omega, by omega⟩) (Changes.offsetAt_late hin (by omega))
    exact ⟨v, hv⟩
  simp only [DaysInside, inCalendar_iff, microsPerDay]
  omega

/-- A reading that the zone skips converts to an instant, and that instant reads some time. -/
theorem toUtc_of_skips (hz : z.Follows b cs) {w : DateTime} (hs : z.Skips w) :
    ∃ u₀ w', z.toUtc w = .ok u₀ ∧ z.ofUtc u₀ = .ok w' := by
  obtain ⟨u₀, hu₀, hk⟩ := z.toUtc_of_daysInside hday (hz.daysInside_of_skips hin hday hs)
  obtain ⟨w', hw', -⟩ := z.ofUtc_of_daysInside hday hk
  exact ⟨u₀, w', hu₀, hw'⟩

end Follows

end ZoneData

end SalonBooking.Zone
