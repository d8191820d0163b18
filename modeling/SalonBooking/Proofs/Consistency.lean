import SalonBooking.Proofs.Calls

/-!
What every reachable database keeps of its reservations: the ids are distinct and
have been given out, every period ends after it starts, no two reservations hold one
practitioner's time at once, and a reservation carries a cancellation time exactly
when it is canceled, and a cancellation reason only then.

Each `RowChange` keeps these facts (`Consistent.stepped`), so every call does, and
they hold of every reachable database (`Reachable.consistent`). The no-overlap rule
follows.
-/

namespace SalonBooking

open SalonBooking.Calendar Op Database Reservations

namespace Reservation

/-- The cancellation fields agree with the status. -/
def Coupled (r : Reservation) : Prop :=
  (r.canceledAt.isSome = true ↔ r.status = .canceled) ∧
    (r.cancelReason.isSome = true → r.status = .canceled)

theorem coupled_of_uncanceled {r : Reservation} (hat : r.canceledAt = none)
    (hreason : r.cancelReason = none) (hs : r.status ≠ .canceled) : r.Coupled := by
  refine ⟨?_, ?_⟩
  · rw [hat]
    exact iff_of_false (by simp) hs
  · rw [hreason]
    simp

/-- A live reservation holds its practitioner's time and is not canceled. -/
theorem isActive_of_live {r : Reservation} (h : r.status.isTerminal = false) :
    r.isActive = true ∧ r.status ≠ .canceled := by
  unfold isActive
  cases hs : r.status <;> simp_all [Status.isTerminal, Status.holdsTime]

@[simp] theorem moveTo_tenant (r : Reservation) (t : Status) (reason : Option String)
    (stamp : DateTime) : (r.moveTo t reason stamp).tenant = r.tenant := by
  unfold moveTo; split <;> rfl

@[simp] theorem moveTo_practitioner (r : Reservation) (t : Status) (reason : Option String)
    (stamp : DateTime) : (r.moveTo t reason stamp).practitioner = r.practitioner := by
  unfold moveTo; split <;> rfl

@[simp] theorem moveTo_periodStart (r : Reservation) (t : Status) (reason : Option String)
    (stamp : DateTime) : (r.moveTo t reason stamp).periodStart = r.periodStart := by
  unfold moveTo; split <;> rfl

@[simp] theorem moveTo_periodEnd (r : Reservation) (t : Status) (reason : Option String)
    (stamp : DateTime) : (r.moveTo t reason stamp).periodEnd = r.periodEnd := by
  unfold moveTo; split <;> rfl

/-- A status change of a live reservation keeps its cancellation fields in step: a
cancellation sets the time, and any other step finds them empty and leaves them so. -/
theorem moveTo_coupled {r : Reservation} (h : r.Coupled) (hlive : r.status.isTerminal = false)
    (t : Status) (reason : Option String) (stamp : DateTime) : (r.moveTo t reason stamp).Coupled := by
  have hnc := (isActive_of_live hlive).2
  unfold moveTo
  split
  · next ht =>
    exact ⟨iff_of_true rfl ht, fun _ => ht⟩
  · next ht =>
    refine ⟨iff_of_false ?_ ht, fun hr => absurd (h.2 hr) hnc⟩
    exact fun hat => hnc (h.1.mp hat)

/-- A clash with a row that keeps the tenant, the practitioner and the period of a
reservation holding time is a clash with that reservation. -/
theorem Clash.of_same {x r r' : Reservation} (h : x.Clash r') (ht : r'.tenant = r.tenant)
    (hp : r'.practitioner = r.practitioner) (hs : r'.periodStart = r.periodStart)
    (he : r'.periodEnd = r.periodEnd) (hactive : r.isActive = true) : x.Clash r := by
  obtain ⟨hxt, hxp, hxa, -, h₁, h₂⟩ := h
  exact ⟨hxt.trans ht, hxp.trans hp, hxa, hactive, he ▸ h₁, hs ▸ h₂⟩

end Reservation

namespace Reservations

/-- No two reservations with different ids hold one practitioner's time at once. -/
def Apart (rows : List Reservation) : Prop :=
  ∀ a ∈ rows, ∀ b ∈ rows, a.id ≠ b.id → ¬ a.Clash b

/-- What every reachable database keeps of its reservations. -/
structure Consistent (db : Database) : Prop where
  ids : (db.reservations.map (·.id)).Nodup
  given : ∀ r ∈ db.reservations, r.id.value ≤ db.issued
  ordered : ∀ r ∈ db.reservations, r.periodStart < r.periodEnd
  apart : Apart db.reservations
  coupled : ∀ r ∈ db.reservations, r.Coupled

/-- A row after `putReservation r'` is `r'` or a row with another id. -/
theorem mem_putReservation {db : Database} {r' y : Reservation}
    (h : y ∈ (db.putReservation r').reservations) :
    y = r' ∨ (y ∈ db.reservations ∧ y.id ≠ r'.id) := by
  simp only [Database.putReservation, List.mem_map] at h
  obtain ⟨x, hx, rfl⟩ := h
  by_cases hid : x.id = r'.id
  · left
    simp [hid]
  · right
    simp [hid, hx]

/-- Putting a row back under its own id keeps the ids. -/
theorem ids_putReservation (db : Database) (r' : Reservation) :
    (db.putReservation r').reservations.map (·.id) = db.reservations.map (·.id) := by
  simp only [Database.putReservation, List.map_map]
  apply List.map_congr_left
  intro x _
  by_cases hid : x.id = r'.id <;> simp [hid]

section Consistent

variable {db db' : Database}

theorem Consistent.keep (h : Consistent db) (hrows : db'.reservations = db.reservations)
    (hle : db.issued ≤ db'.issued) : Consistent db' := by
  obtain ⟨hids, hgiven, hord, hapart, hcoup⟩ := h
  rw [← hrows] at hids hord hapart hcoup hgiven
  exact ⟨hids, fun r hr => Nat.le_trans (hgiven r hr) hle, hord, hapart, hcoup⟩

/-- A new row, with an id not given out before and no clash, keeps the invariant. -/
theorem Consistent.append {r : Reservation} (h : Consistent db) (hfresh : db.issued < r.id.value)
    (hgiven : r.id.value ≤ db'.issued) (hle : db.issued ≤ db'.issued)
    (hord : r.periodStart < r.periodEnd) (hcoup : r.Coupled)
    (hfree : ∀ x ∈ db.reservations, ¬ x.Clash r)
    (hrows : db'.reservations = db.reservations ++ [r]) : Consistent db' := by
  -- every stored id is at most the count given out, so below the new one
  have hnew : ∀ x ∈ db.reservations, x.id ≠ r.id := by
    intro x hx hid
    have hx' := h.given x hx
    rw [hid] at hx'
    omega
  have hmem : ∀ y ∈ db'.reservations, y ∈ db.reservations ∨ y = r := by
    intro y hy
    rw [hrows, List.mem_append, List.mem_singleton] at hy
    exact hy
  refine ⟨?_, ?_, ?_, ?_, ?_⟩
  · rw [hrows, List.map_append, List.nodup_append]
    refine ⟨h.ids, by simp, ?_⟩
    intro a ha b hb
    obtain ⟨x, hx, rfl⟩ := List.mem_map.mp ha
    rw [List.map_singleton, List.mem_singleton] at hb
    exact hb ▸ hnew x hx
  · intro y hy
    rcases hmem y hy with hy | rfl
    · exact Nat.le_trans (h.given y hy) hle
    · exact hgiven
  · intro y hy
    rcases hmem y hy with hy | rfl
    · exact h.ordered y hy
    · exact hord
  · intro a ha b hb hne
    rcases hmem a ha with ha | rfl <;> rcases hmem b hb with hb | rfl
    · exact h.apart a ha b hb hne
    · exact hfree a ha
    · exact fun hc => hfree b hb hc.symm
    · exact absurd rfl hne
  · intro y hy
    rcases hmem y hy with hy | rfl
    · exact h.coupled y hy
    · exact hcoup

/-- A row put back in place of `r`, under its id, keeps the invariant when it is
ordered, coupled and clashes with no row of another id. -/
theorem Consistent.put {r r' : Reservation} (h : Consistent db) (hmem : r ∈ db.reservations)
    (hid : r'.id = r.id) (hord : r'.periodStart < r'.periodEnd) (hcoup : r'.Coupled)
    (hfree : ∀ x ∈ db.reservations, x.id ≠ r.id → ¬ x.Clash r')
    (hrows : db'.reservations = (db.putReservation r').reservations)
    (hle : db.issued ≤ db'.issued) : Consistent db' := by
  have hmem' : ∀ y ∈ db'.reservations, y = r' ∨ (y ∈ db.reservations ∧ y.id ≠ r.id) := by
    intro y hy
    rw [hrows] at hy
    rcases mem_putReservation hy with rfl | ⟨hy, hne⟩
    · exact Or.inl rfl
    · exact Or.inr ⟨hy, hid ▸ hne⟩
  refine ⟨?_, ?_, ?_, ?_, ?_⟩
  · rw [hrows, ids_putReservation]
    exact h.ids
  · intro y hy
    rcases hmem' y hy with rfl | ⟨hy, -⟩
    · rw [hid]
      exact Nat.le_trans (h.given r hmem) hle
    · exact Nat.le_trans (h.given y hy) hle
  · intro y hy
    rcases hmem' y hy with rfl | ⟨hy, -⟩
    · exact hord
    · exact h.ordered y hy
  · intro a ha b hb hne
    rcases hmem' a ha with rfl | ⟨ha, ha'⟩ <;> rcases hmem' b hb with rfl | ⟨hb, hb'⟩
    · exact absurd rfl hne
    · exact fun hc => hfree b hb hb' hc.symm
    · exact hfree a ha ha'
    · exact h.apart a ha b hb hne
  · intro y hy
    rcases hmem' y hy with rfl | ⟨hy, -⟩
    · exact hcoup
    · exact h.coupled y hy

/-- Every change a call may make keeps the invariant. -/
theorem Consistent.stepped {e : Effect} (h : Consistent db) (hs : Stepped e db db') :
    Consistent db' := by
  obtain ⟨hle, hc⟩ := hs
  cases hc with
  | keep e rows => exact h.keep rows hle
  | insert ctx d r hi rows given =>
    have hcanceled : r.status ≠ .canceled := fun hst => by
      have hinit := hi.initial
      rw [hst] at hinit
      cases hinit
    exact h.append hi.fresh given hle hi.ordered
      (Reservation.coupled_of_uncanceled hi.uncanceled.1 hi.uncanceled.2 hcanceled) hi.free rows
  | rewrite d r r' hw rows =>
    -- the draft keeps the status and the cancellation, so the coupling carries over
    have hcoup : r'.Coupled := by
      have hr := h.coupled r hw.mem
      unfold Reservation.Coupled at hr ⊢
      rw [hw.status, hw.canceled.1, hw.canceled.2]
      exact hr
    exact h.put hw.mem hw.id hw.ordered hcoup hw.free rows hle
  | move r t reason stamp mem live allowed rows =>
    have hactive := (Reservation.isActive_of_live live).1
    refine h.put mem (Reservation.moveTo_id r t reason stamp) ?_
      (Reservation.moveTo_coupled (h.coupled r mem) live t reason stamp) ?_ rows hle
    · simpa using h.ordered r mem
    · -- the moved row keeps the period of a reservation that held time
      intro x hx hne hclash
      exact h.apart x hx r mem hne
        (hclash.of_same (by simp) (by simp) (by simp) (by simp) hactive)
  | remind r stamp mem rows =>
    -- a reminder touches no field the invariant reads
    refine h.put mem ?_ ?_ ?_ ?_ rows hle
    · rfl
    · exact h.ordered r mem
    · exact h.coupled r mem
    · intro x hx hne hclash
      exact h.apart x hx r mem hne hclash

end Consistent

/-- Two reservations of one tenant's practitioner that both hold time never share an
instant of their half-open periods, wherever they stand in the table. -/
theorem Consistent.pairwise_apart {db : Database} (hc : Consistent db) :
    db.reservations.Pairwise (fun a b => a.tenant = b.tenant → a.practitioner = b.practitioner →
      a.isActive = true → b.isActive = true →
      ¬ (a.periodStart < b.periodEnd ∧ b.periodStart < a.periodEnd)) := by
  -- two rows at different places have different ids, so they do not clash
  have hids : db.reservations.Pairwise (fun a b => a.id ≠ b.id) := List.pairwise_map.mp hc.ids
  refine hids.imp_of_mem fun ha hb hne ht hp hxa hyb hov => ?_
  exact hc.apart _ ha _ hb hne ⟨ht, hp, hxa, hyb, hov.1, hov.2⟩

/-- A database with no reservations is consistent. -/
theorem consistent_of_empty {db : Database} (h : db.reservations = []) : Consistent db := by
  refine ⟨?_, ?_, ?_, ?_, ?_⟩ <;> simp [Apart, h]

end Reservations

theorem Reachable.consistent {db : Database} (h : Reachable db) : Consistent db := by
  induction h with
  | init db empty => exact consistent_of_empty empty
  | step c _ ih => exact ih.stepped (c.after_stepped _)

/-- In every reachable database, two reservations of one tenant's practitioner that
both hold time never share an instant of their half-open periods, and every period
ends after it starts. -/
theorem reachable_no_overlap {db : Database} (h : Reachable db) :
    db.reservations.Pairwise (fun a b => a.tenant = b.tenant → a.practitioner = b.practitioner →
      a.isActive = true → b.isActive = true →
      ¬ (a.periodStart < b.periodEnd ∧ b.periodStart < a.periodEnd)) ∧
    ∀ r ∈ db.reservations, r.periodStart < r.periodEnd :=
  ⟨h.consistent.pairwise_apart, h.consistent.ordered⟩

private def backToBackDay : Date := ⟨epochDayNumber + 20640, by decide, by decide⟩
private def backToBackCtx : Context := ⟨⟨1⟩, none⟩

/-- A reservation of practitioner 3 on the day from `start` to `stop`, for an hour's cut. -/
private def backToBackDraft (start stop : TimeOfDay) : Draft :=
  { practitioner := ⟨3⟩, customer := some ⟨4⟩, date := backToBackDay, start, stop,
    items := some ⟨[⟨⟨2⟩, "Cut", 4000, 60, 0, true⟩], []⟩ }

/-- Two hours of practitioner 3 back to back in UTC, written one after the other in the
evening: eighteen to nineteen hours, then nineteen to twenty. -/
private def backToBackTable : Database :=
  (Call.create backToBackCtx (backToBackDraft ⟨68400000000, by decide⟩ ⟨72000000000, by decide⟩)
    (some "UTC")).after
  ((Call.create backToBackCtx (backToBackDraft ⟨64800000000, by decide⟩ ⟨68400000000, by decide⟩)
    (some "UTC")).after { clock := ⟨⟨backToBackDay, ⟨21600000000, by decide⟩⟩, 0⟩ })

set_option maxRecDepth 20000 in
/-- The table holds two reservations of one practitioner, both holding time, the second
starting the instant the first ends; they do not overlap. -/
theorem back_to_back_no_overlap :
    Reachable backToBackTable ∧ backToBackTable.reservations.length = 2 ∧
      backToBackTable.reservations.Pairwise (fun a b => a.tenant = b.tenant ∧
        a.practitioner = b.practitioner ∧ a.isActive = true ∧ b.isActive = true ∧
        a.periodEnd = b.periodStart) ∧
      backToBackTable.reservations.Pairwise (fun a b => a.tenant = b.tenant →
        a.practitioner = b.practitioner → a.isActive = true → b.isActive = true →
        ¬ (a.periodStart < b.periodEnd ∧ b.periodStart < a.periodEnd)) ∧
      ∀ r ∈ backToBackTable.reservations, r.periodStart < r.periodEnd := by
  have hreach : Reachable backToBackTable := .step _ (.step _ (.init _ rfl))
  have hlength : backToBackTable.reservations.length = 2 := by decide
  have hadjacent : backToBackTable.reservations.Pairwise (fun a b => a.tenant = b.tenant ∧
      a.practitioner = b.practitioner ∧ a.isActive = true ∧ b.isActive = true ∧
      a.periodEnd = b.periodStart) := by
    decide
  exact ⟨hreach, hlength, hadjacent, reachable_no_overlap hreach⟩

end SalonBooking
