import SalonBooking.Proofs.ZoneReadings
import SalonBooking.Policy

/-!
Every zone that loads is regular, ordered, and keeps its clock within a day of UTC. The
kernel checks the compiled data of each region of the catalog, so a zone loaded by any name,
directly or through an alias, converts its wall clock to UTC in increasing order: of two
readings of a zone that both convert, the earlier one converts to the earlier instant.
-/

namespace SalonBooking.Zone

open SalonBooking.Calendar

/-- Whether every record of a list compiles to a regular, ordered zone within a day of UTC. -/
def allSound (records : List ZoneRecord) : Bool :=
  records.all fun r => r.data?.all fun z => z.regular && z.withinADay && z.ordered

theorem allSound_append (l l' : List ZoneRecord) :
    allSound (l ++ l') = (allSound l && allSound l') := List.all_append

/-- A list is sound when its first `n` records are and the others are. -/
theorem allSound_of_take_drop (n : Nat) {l : List ZoneRecord} (h₁ : allSound (l.take n) = true)
    (h₂ : allSound (l.drop n) = true) : allSound l = true := by
  rw [← List.take_append_drop n l, allSound_append, h₁, h₂, Bool.and_self]

set_option maxRecDepth 100000 in
/-- The zones of Africa and the Americas are sound. The kernel checks them one part after
another, so that each check holds only its own part in memory. -/
theorem africa_america_sound : allSound (Data.africaZones ++ Data.americaZones) = true := by
  have africa : allSound Data.africaZones = true := by decide +kernel
  have h₁ : allSound (Data.americaZones.take 35) = true := by decide +kernel
  have h₂ : allSound ((Data.americaZones.drop 35).take 35) = true := by decide +kernel
  have h₃ : allSound (((Data.americaZones.drop 35).drop 35).take 35) = true := by decide +kernel
  have h₄ : allSound (((Data.americaZones.drop 35).drop 35).drop 35) = true := by decide +kernel
  rw [allSound_append, africa,
    allSound_of_take_drop 35 h₁ (allSound_of_take_drop 35 h₂ (allSound_of_take_drop 35 h₃ h₄))]
  rfl

set_option maxRecDepth 100000 in
/-- The zones of Antarctica, Asia, the Atlantic and Australia are sound, checked as those of
Africa and the Americas. -/
theorem asia_australia_sound :
    allSound (Data.antarcticaZones ++ Data.asiaZones ++ Data.atlanticZones ++
      Data.australiaZones) = true := by
  have antarctica : allSound Data.antarcticaZones = true := by decide +kernel
  have asia₁ : allSound (Data.asiaZones.take 41) = true := by decide +kernel
  have asia₂ : allSound (Data.asiaZones.drop 41) = true := by decide +kernel
  have atlantic : allSound Data.atlanticZones = true := by decide +kernel
  have australia : allSound Data.australiaZones = true := by decide +kernel
  simp only [allSound_append, antarctica, allSound_of_take_drop 41 asia₁ asia₂, atlantic, australia,
    Bool.and_self]

set_option maxRecDepth 100000 in
/-- The zones of Europe, the Indian Ocean, the Pacific and the rest are sound, checked as
those of Africa and the Americas. -/
theorem europe_pacific_sound :
    allSound (Data.europeZones ++ Data.indianZones ++ Data.pacificZones ++ Data.otherZones) = true := by
  have h₁ : allSound (Data.europeZones.take 18) = true := by decide +kernel
  have h₂ : allSound ((Data.europeZones.drop 18).take 18) = true := by decide +kernel
  have h₃ : allSound ((Data.europeZones.drop 18).drop 18) = true := by decide +kernel
  have indian : allSound Data.indianZones = true := by decide +kernel
  have pacific : allSound Data.pacificZones = true := by decide +kernel
  have other : allSound Data.otherZones = true := by decide +kernel
  simp only [allSound_append, indian, pacific, other,
    allSound_of_take_drop 18 h₁ (allSound_of_take_drop 18 h₂ h₃), Bool.and_self]

/-- Every compiled zone is regular, ordered and within a day of UTC. -/
theorem allRecords_sound : allSound allRecords = true := by
  have h : allRecords = (Data.africaZones ++ Data.americaZones) ++
      (Data.antarcticaZones ++ Data.asiaZones ++ Data.atlanticZones ++ Data.australiaZones) ++
      (Data.europeZones ++ Data.indianZones ++ Data.pacificZones ++ Data.otherZones) := by
    simp only [allRecords, List.append_assoc]
  rw [h, allSound_append, allSound_append, africa_america_sound, asia_australia_sound,
    europe_pacific_sound, Bool.and_self, Bool.and_self]

/-- A zone that loads by any name has every property that all compiled zones have. -/
theorem load?_of_all {p : ZoneData → Bool} (hall : (allRecords.all fun r => r.data?.all p) = true)
    {name : String} {z : ZoneData} (h : load? name = some z) : p z = true := by
  dsimp only [load?] at h
  split at h
  · next r hr =>
    have hr := List.all_eq_true.mp hall r (List.mem_of_find?_eq_some hr)
    rw [h] at hr
    exact hr
  · cases h

/-- A zone that loads by any name is regular, within a day of UTC, and ordered. -/
theorem load?_sound {name : String} {z : ZoneData} (h : load? name = some z) :
    z.regular = true ∧ z.withinADay = true ∧ z.ordered = true := by
  have hz := load?_of_all allRecords_sound h
  simp only [Bool.and_eq_true] at hz
  exact ⟨hz.1.1, hz.1.2, hz.2⟩

/-- A zone that loads by any name is regular. -/
theorem load?_regular {name : String} {z : ZoneData} (h : load? name = some z) : z.regular = true :=
  (load?_sound h).1

/-- A zone that loads by any name keeps its clock within a day of UTC. -/
theorem load?_withinADay {name : String} {z : ZoneData} (h : load? name = some z) :
    z.withinADay = true :=
  (load?_sound h).2.1

end SalonBooking.Zone

namespace SalonBooking.Policy

open SalonBooking.Calendar SalonBooking.Zone

/-- A wall-clock reading with a UTC instant is read in a zone that loads, converts to the
instant, and the instant converts back to the reading. -/
theorem localToUtc_round {d : Date} {t : TimeOfDay} {tz : String} {u : DateTime}
    (h : localToUtc d t tz = .ok u) :
    ∃ z, load? tz = some z ∧ z.toUtc ⟨d, t⟩ = .ok u ∧ z.ofUtc u = .ok ⟨d, t⟩ := by
  unfold localToUtc at h
  cases hz : load? tz with
  | none => simp [zone, hz, bind, Except.bind] at h
  | some z =>
    refine ⟨z, rfl, ?_⟩
    -- the round trip only decides whether the instant is kept
    cases hu : z.toUtc ⟨d, t⟩ with
    | error e => simp [zone, hz, hu, bind, Except.bind, liftRange] at h
    | ok u' =>
      cases hb : z.ofUtc u' with
      | error e => simp [zone, hz, hu, hb, bind, Except.bind, liftRange] at h
      | ok w =>
        simp only [zone, hz, hu, hb, bind, Except.bind, liftRange] at h
        split at h
        · next hw =>
          cases h
          subst hw
          exact ⟨rfl, hb⟩
        · cases h

/-- Reading the wall clock of a zone is strictly increasing: of two readings that both
have a UTC instant, the earlier has the earlier instant. -/
theorem localToUtc_lt {d₁ d₂ : Date} {t₁ t₂ : TimeOfDay} {tz : String} {u₁ u₂ : DateTime}
    (h₁ : localToUtc d₁ t₁ tz = .ok u₁) (h₂ : localToUtc d₂ t₂ tz = .ok u₂)
    (hlt : (⟨d₁, t₁⟩ : DateTime) < ⟨d₂, t₂⟩) : u₁ < u₂ := by
  obtain ⟨z, hz, hu₁, hb₁⟩ := localToUtc_round h₁
  obtain ⟨z', hz', hu₂, hb₂⟩ := localToUtc_round h₂
  obtain rfl : z = z' := Option.some.inj (hz.symm.trans hz')
  exact (ZoneData.follows_changes (load?_regular hz)).toUtc_lt hlt hu₁ hb₁ hu₂ hb₂

end SalonBooking.Policy
