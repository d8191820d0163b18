import SalonBooking.Proofs.ZoneCatalog
import SalonBooking.Proofs.CancelDeadline
import SalonBooking.Proofs.Ownership

/-!
Booked slots on the wall clock. The store keeps a practitioner's active reservations apart
in absolute time, while a day's booked slots are read on the wall clock. Reading a zone's
wall clock is strictly increasing, so two periods of one day and one zone that are apart
in absolute time are apart on the wall clock as well. The slots of a practitioner's day
whose reservations share a zone are therefore exactly those reservations' start and end
times, sorted by start, each a nonempty span that ends no later than the next begins.
-/

namespace SalonBooking

open SalonBooking.Calendar Database

namespace Policy

variable {d : Date} {s₁ e₁ s₂ e₂ : TimeOfDay} {tz : String} {a₁ b₁ a₂ b₂ : DateTime}

/-- Of two periods of one day and one zone, one over in absolute time before the other
begins is over on the wall clock before the other begins. -/
theorem stop_le_start_of_localPeriod (h₁ : localPeriod d s₁ e₁ tz = .ok (a₁, b₁))
    (h₂ : localPeriod d s₂ e₂ tz = .ok (a₂, b₂)) (hb : b₁ ≤ a₂) : e₁ ≤ s₂ := by
  refine Nat.not_lt.mp fun (hlt : s₂.micros < e₁.micros) => ?_
  -- the second would begin on the wall clock before the first ends, and so in absolute time
  have hwall : (⟨d, s₂⟩ : DateTime) < ⟨d, e₁⟩ := by
    show DateTime.toMicros _ < DateTime.toMicros _
    simp only [DateTime.toMicros]
    omega
  have hu : a₂ < b₁ := localToUtc_lt (localPeriod_eq_ok h₂).2.1 (localPeriod_eq_ok h₁).2.2 hwall
  exact Int.not_le.mpr hu hb

/-- Two periods of one day and one zone that do not overlap in absolute time do not
overlap on the wall clock. -/
theorem wall_apart_of_localPeriod (h₁ : localPeriod d s₁ e₁ tz = .ok (a₁, b₁))
    (h₂ : localPeriod d s₂ e₂ tz = .ok (a₂, b₂)) (hov : ¬ (a₁ < b₂ ∧ a₂ < b₁)) :
    e₁ ≤ s₂ ∨ e₂ ≤ s₁ := by
  -- of two periods that do not overlap, one is over before the other begins
  have hb : b₁ ≤ a₂ ∨ b₂ ≤ a₁ := by
    by_cases h : a₁ < b₂
    · exact .inl (Int.not_lt.mp fun hlt => hov ⟨h, hlt⟩)
    · exact .inr (Int.not_lt.mp h)
  rcases hb with hb | hb
  · exact .inl (stop_le_start_of_localPeriod h₁ h₂ hb)
  · exact .inr (stop_le_start_of_localPeriod h₂ h₁ hb)

end Policy

theorem mem_reservationsOf {db : Database} {t : Uuid} {r : Reservation} :
    r ∈ db.reservationsOf t ↔ r ∈ db.reservations ∧ r.tenant = t := by
  simp only [reservationsOf, List.mem_filter, beq_iff_eq]

namespace Reservations

theorem keyLe_cons_le {x y : Int} {xs ys : List Int} (h : keyLe (x :: xs) (y :: ys) = true) :
    x ≤ y := by
  simp only [keyLe, Bool.or_eq_true, decide_eq_true_eq, Bool.and_eq_true, beq_iff_eq] at h
  rcases h with h | ⟨h, -⟩ <;> omega

variable {db : Database} {ctx : Context} {p : Uuid} {d : Date} {tz : String}

/-- The slots of a day are its reservations' start and end times, in some order. -/
theorem bookedSlots_perm :
    (bookedSlots db ctx p d).Perm (((db.reservationsOf ctx.tenant).filter fun r =>
      r.practitioner == p && r.date == d && r.isActive).map fun r => (r.start, r.stop)) :=
  List.mergeSort_perm _ _

/-- The slots of a day are listed by start time. -/
theorem bookedSlots_sorted : (bookedSlots db ctx p d).Pairwise fun x y => x.1 ≤ y.1 :=
  (@List.pairwise_mergeSort _
    (fun x y : TimeOfDay × TimeOfDay => keyLe [x.1.micros, x.2.micros] [y.1.micros, y.2.micros])
    (fun _ _ _ h₁ h₂ => keyLe_trans h₁ h₂) (fun _ _ => keyLe_total _ _) _).imp
    fun h => Int.ofNat_le.mp (keyLe_cons_le h)

/-- A slot of the day is that of an active reservation of the practitioner on that day. -/
theorem mem_bookedSlots {x : TimeOfDay × TimeOfDay} (hx : x ∈ bookedSlots db ctx p d) :
    ∃ r ∈ db.reservations, r.tenant = ctx.tenant ∧ r.practitioner = p ∧ r.date = d ∧
      r.isActive = true ∧ x = (r.start, r.stop) := by
  have hx' := bookedSlots_perm.mem_iff.mp hx
  simp only [List.mem_map, List.mem_filter, mem_reservationsOf, Bool.and_eq_true, beq_iff_eq] at hx'
  obtain ⟨r, ⟨⟨hr, ht⟩, ⟨hp, hd⟩, ha⟩, rfl⟩ := hx'
  exact ⟨r, hr, ht, hp, hd, ha, rfl⟩

/-- In a reachable state every slot of a day ends after it starts. -/
theorem bookedSlots_start_lt (hdb : Reachable db) : ∀ x ∈ bookedSlots db ctx p d, x.1 < x.2 := by
  intro x hx
  obtain ⟨r, hr, -, -, -, -, rfl⟩ := mem_bookedSlots hx
  exact (Policy.localPeriod_eq_ok (hdb.allSound r hr).period).1

/-- In a reachable state, the reservations of a practitioner's day that share a zone are
pairwise apart on the wall clock. -/
theorem bookedPairs_apart (hdb : Reachable db)
    (htz : ∀ r ∈ db.reservationsOf ctx.tenant, r.practitioner = p → r.date = d →
      r.isActive = true → r.timezone = tz) :
    (((db.reservationsOf ctx.tenant).filter fun r =>
        r.practitioner == p && r.date == d && r.isActive).map fun r => (r.start, r.stop)).Pairwise
      fun x y => x.2 ≤ y.1 ∨ y.2 ≤ x.1 := by
  rw [List.pairwise_map]
  -- the no-overlap invariant holds of every part of the table
  have hno : ((db.reservationsOf ctx.tenant).filter fun r =>
      r.practitioner == p && r.date == d && r.isActive).Pairwise _ :=
    (hdb.consistent.pairwise_apart.filter _).filter _
  refine hno.imp_of_mem fun {a b} ha hb hab => ?_
  simp only [List.mem_filter, Bool.and_eq_true, beq_iff_eq] at ha hb
  obtain ⟨hma, ⟨hpa, hda⟩, hxa⟩ := ha
  obtain ⟨hmb, ⟨hpb, hdb'⟩, hxb⟩ := hb
  obtain ⟨ha, hta⟩ := mem_reservationsOf.mp hma
  obtain ⟨hb, htb⟩ := mem_reservationsOf.mp hmb
  -- both periods are read on the same day in the same zone
  have hsa := (hdb.allSound a ha).period
  have hsb := (hdb.allSound b hb).period
  rw [hda, htz a hma hpa hda hxa] at hsa
  rw [hdb', htz b hmb hpb hdb' hxb] at hsb
  exact Policy.wall_apart_of_localPeriod hsa hsb
    (hab (hta.trans htb.symm) (hpa.trans hpb.symm) hxa hxb)

/-- The booked slots of a practitioner's day whose active reservations share a zone are
exactly those reservations' start and end times, listed by start; each slot ends after it
starts, and no later than any slot listed after it begins. -/
theorem bookedSlots_wall_disjoint (hdb : Reachable db)
    (htz : ∀ r ∈ db.reservationsOf ctx.tenant, r.practitioner = p → r.date = d →
      r.isActive = true → r.timezone = tz) :
    (bookedSlots db ctx p d).Perm (((db.reservationsOf ctx.tenant).filter fun r =>
        r.practitioner == p && r.date == d && r.isActive).map fun r => (r.start, r.stop)) ∧
      (bookedSlots db ctx p d).Pairwise (fun x y => x.1 ≤ y.1) ∧
      (∀ x ∈ bookedSlots db ctx p d, x.1 < x.2) ∧
      (bookedSlots db ctx p d).Pairwise (fun x y => x.2 ≤ y.1) := by
  have hapart := bookedSlots_perm.symm.pairwise (bookedPairs_apart hdb htz) Or.symm
  refine ⟨bookedSlots_perm, bookedSlots_sorted, bookedSlots_start_lt hdb, ?_⟩
  -- of two slots apart, the one listed first cannot begin after the other ends
  refine (bookedSlots_sorted.and hapart).imp_of_mem fun {x y} _ hy ⟨hle, hxy⟩ => ?_
  rcases hxy with h | h
  · exact h
  · have hy' : y.1.micros < y.2.micros := bookedSlots_start_lt hdb y hy
    have hle' : x.1.micros ≤ y.1.micros := hle
    have h' : y.2.micros ≤ x.1.micros := h
    omega

private def twoSlotDay : Date := ⟨epochDayNumber + 20633, by decide, by decide⟩
private def twoSlotCtx : Context := ⟨⟨1⟩, none⟩
private def twoSlotCut : Selection := ⟨[⟨⟨2⟩, "Cut", 4000, 60, 0, true⟩], []⟩

/-- A practitioner's reservation on the day from `start` to `stop`. -/
private def twoSlotDraft (start stop : TimeOfDay) : Draft :=
  { practitioner := ⟨3⟩, customer := some ⟨4⟩, date := twoSlotDay, start, stop,
    items := some twoSlotCut }

/-- A table with two reservations of one practitioner in UTC, the later written first:
a quarter past ten to a quarter past eleven, then a quarter past eight to a quarter past
nine. -/
private def twoSlotTable : Database :=
  (Call.create twoSlotCtx (twoSlotDraft ⟨29700000000, by decide⟩ ⟨33300000000, by decide⟩)
    (some "UTC")).after
  ((Call.create twoSlotCtx (twoSlotDraft ⟨36900000000, by decide⟩ ⟨40500000000, by decide⟩)
    (some "UTC")).after { clock := ⟨⟨twoSlotDay, ⟨25200000000, by decide⟩⟩, 0⟩ })

set_option maxRecDepth 20000 in
/-- The two reservations of the table are in UTC, so its practitioner's slots on the day
are apart on the wall clock. -/
theorem two_slot_table_apart :
    Reachable twoSlotTable ∧
      (∀ r ∈ twoSlotTable.reservationsOf twoSlotCtx.tenant, r.practitioner = ⟨3⟩ →
        r.date = twoSlotDay → r.isActive = true → r.timezone = "UTC") ∧
      (bookedSlots twoSlotTable twoSlotCtx ⟨3⟩ twoSlotDay).Pairwise (fun x y => x.2 ≤ y.1) := by
  have hreach : Reachable twoSlotTable := .step _ (.step _ (.init _ rfl))
  have htz : ∀ r ∈ twoSlotTable.reservationsOf twoSlotCtx.tenant, r.practitioner = ⟨3⟩ →
      r.date = twoSlotDay → r.isActive = true → r.timezone = "UTC" := by
    decide
  exact ⟨hreach, htz, (bookedSlots_wall_disjoint hreach htz).2.2.2⟩

end Reservations

end SalonBooking
