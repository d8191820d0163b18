import SalonBooking.Proofs.ZoneCatalog

/-!
Reading a store's wall clock in UTC. A zone name that loads nothing is refused as an unknown
zone, and only such a name is. In a zone that loads, a wall-clock reading converts exactly
when some instant reads it, to the earliest such instant, which reads it back; a reading the
zone skips is refused as a time that does not exist. Converting is strictly increasing, so a
slot whose end comes after its start has the instants of its two ends, in order, as its UTC
period, and the period's check of their order never refuses it.
-/

namespace SalonBooking.Policy

open SalonBooking.Calendar SalonBooking.Zone Changes

variable {d : Date} {t : TimeOfDay} {tz : String} {z : ZoneData}

/-- A reading in a zone of no loadable name is refused as an unknown zone. -/
theorem localToUtc_of_load?_none (h : load? tz = none) :
    localToUtc d t tz = .error (.invalid (.unknownTimezone tz)) := by
  simp [localToUtc, zone, h, bind, Except.bind]

/-- In a zone that loads, a reading converts to the instant its zone converts it to, when that
instant reads it back. -/
theorem localToUtc_eq_ok_iff (hz : load? tz = some z) {u : DateTime} :
    localToUtc d t tz = .ok u ↔ z.toUtc ⟨d, t⟩ = .ok u ∧ z.ofUtc u = .ok ⟨d, t⟩ := by
  constructor
  · intro h
    obtain ⟨z', hz', hu, hb⟩ := localToUtc_round h
    obtain rfl : z = z' := Option.some.inj (hz.symm.trans hz')
    exact ⟨hu, hb⟩
  · rintro ⟨hu, hb⟩
    simp [localToUtc, zone, hz, hu, hb, bind, Except.bind, liftRange, pure, Except.pure]

/-- In a zone that loads, a reading whose instant reads another time is refused as a time
that does not exist. -/
theorem localToUtc_of_reads_other (hz : load? tz = some z) {u w : DateTime}
    (hu : z.toUtc ⟨d, t⟩ = .ok u) (hw : z.ofUtc u = .ok w) (hne : w ≠ ⟨d, t⟩) :
    localToUtc d t tz = .error (.invalid (.nonexistentTime d t tz)) := by
  simp [localToUtc, zone, hz, hu, hw, hne, bind, Except.bind, liftRange]
  rfl

/-- In a zone that loads, a reading is refused only as a time that does not exist, or as one
whose conversion leaves the calendar. -/
theorem localToUtc_error (hz : load? tz = some z) {f : Fault} (h : localToUtc d t tz = .error f) :
    f = .invalid (.nonexistentTime d t tz) ∨ ∃ e, f = .range e := by
  cases hu : z.toUtc ⟨d, t⟩ with
  | error e =>
    simp [localToUtc, zone, hz, hu, bind, Except.bind, liftRange] at h
    exact .inr ⟨e, h.symm⟩
  | ok u =>
    cases hw : z.ofUtc u with
    | error e =>
      simp [localToUtc, zone, hz, hu, hw, bind, Except.bind, liftRange] at h
      exact .inr ⟨e, h.symm⟩
    | ok w =>
      by_cases hne : w = ⟨d, t⟩
      · simp [localToUtc, zone, hz, hu, hw, hne, bind, Except.bind, liftRange, pure, Except.pure] at h
      · rw [localToUtc_of_reads_other hz hu hw hne] at h
        exact .inl (Except.error.inj h).symm

/-- A reading is refused as an unknown zone exactly when its zone's name loads nothing. -/
theorem localToUtc_unknown_iff :
    localToUtc d t tz = .error (.invalid (.unknownTimezone tz)) ↔ load? tz = none := by
  refine ⟨fun h => ?_, localToUtc_of_load?_none⟩
  cases hz : load? tz with
  | none => rfl
  | some z => rcases localToUtc_error hz h with h' | ⟨e, h'⟩ <;> cases h'

/-- Converting a reading never refuses it for the order of a slot's ends. -/
theorem localToUtc_ne_endNotAfterStart {f : Fault} (h : localToUtc d t tz = .error f)
    (s e : TimeOfDay) : f ≠ .invalid (.endNotAfterStart s e) := by
  rintro rfl
  cases hz : load? tz with
  | none =>
    rw [localToUtc_of_load?_none hz] at h
    cases h
  | some z => rcases localToUtc_error hz h with h' | ⟨e, h'⟩ <;> cases h'

/-- A reading that some instant of a loaded zone reads converts, to the earliest instant that
reads it. -/
theorem localToUtc_earliest (hz : load? tz = some z) {u' : DateTime}
    (h : z.ofUtc u' = .ok ⟨d, t⟩) : ∃ u, localToUtc d t tz = .ok u ∧ u ≤ u' := by
  obtain ⟨hreg, hday, hord⟩ := load?_sound hz
  obtain ⟨hasc, hin⟩ := ZoneData.changes_ordered hreg hord
  obtain ⟨u, hu, hb, hle⟩ := (ZoneData.follows_changes hreg).toUtc_earliest hin hday hasc h
  exact ⟨u, (localToUtc_eq_ok_iff hz).mpr ⟨hu, hb⟩, hle⟩

/-- A reading that a loaded zone skips is refused as a time that does not exist. -/
theorem localToUtc_of_skips (hz : load? tz = some z) (hs : z.Skips ⟨d, t⟩) :
    localToUtc d t tz = .error (.invalid (.nonexistentTime d t tz)) := by
  obtain ⟨hreg, hday, hord⟩ := load?_sound hz
  obtain ⟨-, hin⟩ := ZoneData.changes_ordered hreg hord
  obtain ⟨u, w, hu, hw⟩ := (ZoneData.follows_changes hreg).toUtc_of_skips hin hday hs
  exact localToUtc_of_reads_other hz hu hw fun heq => hs.1 ⟨u, heq ▸ hw⟩

/-- A reading converts exactly when some instant reads it. -/
theorem localToUtc_ok_iff (hz : load? tz = some z) :
    (∃ u, localToUtc d t tz = .ok u) ↔ ∃ u, z.ofUtc u = .ok ⟨d, t⟩ :=
  ⟨fun ⟨u, h⟩ => ⟨u, ((localToUtc_eq_ok_iff hz).mp h).2⟩,
    fun ⟨_, h⟩ => (localToUtc_earliest hz h).imp fun _ hu => hu.1⟩

/-- The instant a reading converts to comes no later than any instant that reads it. -/
theorem localToUtc_le (hz : load? tz = some z) {u u' : DateTime} (h : localToUtc d t tz = .ok u)
    (h' : z.ofUtc u' = .ok ⟨d, t⟩) : u ≤ u' := by
  obtain ⟨u₀, h₀, hle⟩ := localToUtc_earliest hz h'
  obtain rfl : u = u₀ := Except.ok.inj (h.symm.trans h₀)
  exact hle

/-- Of two readings on one day, the one of the earlier time comes first. -/
theorem lt_of_time_lt {s e : TimeOfDay} (hse : s < e) : (⟨d, s⟩ : DateTime) < ⟨d, e⟩ := by
  have hm : s.micros < e.micros := hse
  show d.epochDays * (microsPerDay : Int) + s.micros < d.epochDays * (microsPerDay : Int) + e.micros
  omega

/-- The UTC period of a slot whose end comes after its start, both of whose ends convert, is
the pair of their instants, in order. -/
theorem localPeriod_of_lt {s e : TimeOfDay} {a b : DateTime} (hse : s < e)
    (ha : localToUtc d s tz = .ok a) (hb : localToUtc d e tz = .ok b) :
    localPeriod d s e tz = .ok (a, b) ∧ a < b := by
  have hlt : a < b := localToUtc_lt ha hb (lt_of_time_lt hse)
  have hes : ¬ e ≤ s := Nat.not_le.mpr hse
  have hba : ¬ b ≤ a := Int.not_le.mpr hlt
  refine ⟨?_, hlt⟩
  simp [localPeriod, hes, ha, hb, hba, bind, Except.bind, pure, Except.pure]

/-- The UTC period of a slot whose end comes after its start is never refused for the order of
its ends: converting the ends refuses them for other reasons only, and the instants come in
the order of the ends. -/
theorem localPeriod_ne_endNotAfterStart {s e : TimeOfDay} (hse : s < e) :
    localPeriod d s e tz ≠ .error (.invalid (.endNotAfterStart s e)) := by
  intro h
  have hes : ¬ e ≤ s := Nat.not_le.mpr hse
  cases ha : localToUtc d s tz with
  | error f =>
    simp [localPeriod, hes, ha, bind, Except.bind] at h
    exact localToUtc_ne_endNotAfterStart ha s e h
  | ok a =>
    cases hb : localToUtc d e tz with
    | error f =>
      simp [localPeriod, hes, ha, hb, bind, Except.bind] at h
      exact localToUtc_ne_endNotAfterStart hb s e h
    | ok b =>
      rw [(localPeriod_of_lt hse ha hb).1] at h
      cases h

/-- Reading a zone's wall clock in UTC. A reading is refused as an unknown zone exactly when the
zone's name loads nothing, and a slot whose end comes after its start is never refused for the
order of its ends. In a zone that loads, a reading converts exactly when some instant reads
it, and then to the earliest instant that reads it, which reads it back; a reading the zone
skips is refused as a time that does not exist; converting is strictly increasing; and a slot
whose end comes after its start, both of whose ends some instant reads, has the instants of
its ends, in order, as its UTC period. -/
theorem localToUtc_spec (d : Date) (t : TimeOfDay) (tz : String) :
    (localToUtc d t tz = .error (.invalid (.unknownTimezone tz)) ↔ load? tz = none) ∧
    (∀ s e, s < e → localPeriod d s e tz ≠ .error (.invalid (.endNotAfterStart s e))) ∧
    ∀ z, load? tz = some z →
      ((∃ u, localToUtc d t tz = .ok u) ↔ ∃ u, z.ofUtc u = .ok ⟨d, t⟩) ∧
      (∀ u, localToUtc d t tz = .ok u →
        z.ofUtc u = .ok ⟨d, t⟩ ∧ ∀ u', z.ofUtc u' = .ok ⟨d, t⟩ → u ≤ u') ∧
      (z.Skips ⟨d, t⟩ → localToUtc d t tz = .error (.invalid (.nonexistentTime d t tz))) ∧
      (∀ d' t' u u', localToUtc d t tz = .ok u → localToUtc d' t' tz = .ok u' →
        (⟨d, t⟩ : DateTime) < ⟨d', t'⟩ → u < u') ∧
      ∀ s e, s < e → (∃ u, z.ofUtc u = .ok ⟨d, s⟩) → (∃ u, z.ofUtc u = .ok ⟨d, e⟩) →
        ∃ a b, localToUtc d s tz = .ok a ∧ localToUtc d e tz = .ok b ∧
          localPeriod d s e tz = .ok (a, b) ∧ a < b := by
  refine ⟨localToUtc_unknown_iff, fun s e => localPeriod_ne_endNotAfterStart, fun z hz => ?_⟩
  refine ⟨localToUtc_ok_iff hz, fun u h => ⟨((localToUtc_eq_ok_iff hz).mp h).2,
    fun u' => localToUtc_le hz h⟩, localToUtc_of_skips hz,
    fun d' t' u u' => localToUtc_lt, fun s e hse hs he => ?_⟩
  -- both ends convert, to instants in order
  obtain ⟨a, ha⟩ := (localToUtc_ok_iff hz).mpr hs
  obtain ⟨b, hb⟩ := (localToUtc_ok_iff hz).mpr he
  exact ⟨a, b, ha, hb, localPeriod_of_lt hse ha hb⟩

end SalonBooking.Policy
