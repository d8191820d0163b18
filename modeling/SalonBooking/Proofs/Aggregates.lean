import SalonBooking.Proofs.Invariants

/-!
A reservation as an aggregate. Its menu and option lines are copies of the items it was
written with, stored inside it: a line has its reservation's tenant and goes when the
reservation drops it, and an option's sort order is its place among the options. The
denormalised fields must agree with the lines: the subtotal sums the menus' prices, the
option total the options' prices, the duration both lists' durations; no price component
is negative, the total is their sum less the discount, and the UTC period is the local
period of the stored date, times and zone.

Every write keeps that. A new reservation takes its sums from the items it stores; an
update keeps the lines and their sums and prices its fees again; an update with items
replaces the lines and their sums together.
-/

namespace SalonBooking

open SalonBooking.Calendar Op Database Reservations

/-! ## Prices and periods -/

namespace Pricing

/-- The names of the negative components are none exactly when every component is at
least zero. -/
theorem negativeParts_eq_nil {subtotal optionTotal nominationFee discount : Int} :
    negativeParts subtotal optionTotal nominationFee discount = [] ↔
      0 ≤ subtotal ∧ 0 ≤ optionTotal ∧ 0 ≤ nominationFee ∧ 0 ≤ discount := by
  simp [negativeParts, List.filterMap_eq_nil_iff]

/-- An accepted breakdown keeps the components, none negative, and totals them. -/
theorem breakdown_ok {subtotal optionTotal nominationFee discount : Int} {stated : Option Int}
    {p : PriceBreakdown}
    (h : breakdown subtotal optionTotal nominationFee discount stated = .ok p) :
    p = ⟨subtotal, optionTotal, nominationFee, discount,
      total subtotal optionTotal nominationFee discount⟩ ∧
    (0 ≤ subtotal ∧ 0 ≤ optionTotal ∧ 0 ≤ nominationFee ∧ 0 ≤ discount) ∧
    0 ≤ total subtotal optionTotal nominationFee discount := by
  unfold breakdown at h
  dsimp only at h
  split at h
  · cases h
  · next hneg =>
    have hparts := negativeParts_eq_nil.mp (by simpa using hneg)
    split at h
    · cases h
    · next htotal =>
      have hnonneg : 0 ≤ total subtotal optionTotal nominationFee discount := Int.not_lt.mp htotal
      -- a stated total is accepted only when it is the sum
      split at h
      · split at h
        · cases h
        · cases h
          exact ⟨rfl, hparts, hnonneg⟩
      · cases h
        exact ⟨rfl, hparts, hnonneg⟩

end Pricing

namespace Policy

/-- A slot read from clock readings has a period only when its start has no offset, and
then it is the slot's local period. -/
theorem readingPeriod_naive {d : Date} {start stop : TimeOfDay} {offset : Option Int} {tz : String}
    {a b : DateTime} (h : readingPeriod d ⟨start, offset⟩ ⟨stop, none⟩ tz = .ok (a, b)) :
    offset = none ∧ localPeriod d start stop tz = .ok (a, b) := by
  cases offset with
  | some x =>
    -- an end without an offset does not compare with a start that has one
    simp [readingPeriod, ClockReading.le?] at h
  | none =>
    refine ⟨rfl, ?_⟩
    unfold readingPeriod at h
    unfold localPeriod
    by_cases hle : stop ≤ start
    · simp [ClockReading.le?, hle] at h
    · simpa [ClockReading.le?, hle] using h

end Policy

/-! ## Sound reservations -/

namespace Reservation

/-- A reservation whose denormalised fields agree with its lines and its slot. -/
structure Sound (r : Reservation) : Prop where
  menus : r.menuItems ≠ []
  subtotal : r.subtotal = sumAmounts (r.menuItems.map (·.price))
  optionTotal : r.optionTotal = sumAmounts (r.optionItems.map (·.price))
  duration : r.duration =
    sumAmounts (r.menuItems.map (·.duration)) + sumAmounts (r.optionItems.map (·.duration))
  nonneg : 0 ≤ r.subtotal ∧ 0 ≤ r.optionTotal ∧ 0 ≤ r.nominationFee ∧ 0 ≤ r.discount
  total : r.totalPrice = Pricing.total r.subtotal r.optionTotal r.nominationFee r.discount
  total_nonneg : 0 ≤ r.totalPrice
  period : Policy.localPeriod r.date r.start r.stop r.timezone = .ok (r.periodStart, r.periodEnd)

variable {r : Reservation}

/-- Soundness reads no timestamp. -/
theorem Sound.restamp (h : r.Sound) (created updated : DateTime) :
    Sound { r with createdAt := created, updatedAt := updated } := { h with }

theorem Sound.moveTo (h : r.Sound) (t : Status) (reason : Option String) (stamp : DateTime) :
    (r.moveTo t reason stamp).Sound := by
  unfold Reservation.moveTo
  split
  · exact { h with }
  · exact { h with }

theorem Sound.remind (h : r.Sound) (stamp : DateTime) :
    Sound { r with reminderSentAt := some stamp, updatedAt := stamp } := { h with }

end Reservation

namespace Reservations

/-- What a draft applied to `r` writes of the price, the lines and the slot: the sums of
the draft's items, or `r`'s own when it has none; the draft's fees, checked and totalled;
`r`'s lines, untouched. -/
structure Repriced (r : Reservation) (d : Draft) (zone : String) (a b : DateTime)
    (r' : Reservation) : Prop where
  menus : r'.menuItems = r.menuItems
  options : r'.optionItems = r.optionItems
  subtotal : r'.subtotal = (d.items.map (·.subtotal)).getD r.subtotal
  optionTotal : r'.optionTotal = (d.items.map (·.optionTotal)).getD r.optionTotal
  duration : r'.duration = (d.items.map (·.duration)).getD r.duration
  fee : r'.nominationFee = d.nominationFee
  discount : r'.discount = d.discount
  total : r'.totalPrice = Pricing.total r'.subtotal r'.optionTotal r'.nominationFee r'.discount
  nonneg : (0 ≤ r'.subtotal ∧ 0 ≤ r'.optionTotal ∧ 0 ≤ r'.nominationFee ∧ 0 ≤ r'.discount) ∧
    0 ≤ r'.totalPrice
  slot : r'.date = d.date ∧ r'.start = d.start ∧ r'.stop = d.stop ∧ r'.timezone = zone
  period : r'.periodStart = a ∧ r'.periodEnd = b

theorem mapError_eq_ok {ε ε' α : Type} {x : Except ε α} {f : ε → ε'} {a : α} :
    x.mapError f = .ok a ↔ x = .ok a := by
  cases x with
  | ok b =>
    rw [mapError_ok]
    simp only [Except.ok.injEq]
  | error e => simp only [mapError_error, reduceCtorEq]

theorem exists_of_hasMenus {s : Option Selection} (h : hasMenus s = true) :
    ∃ items, s = some items ∧ items.menus ≠ [] := by
  cases s with
  | none => cases h
  | some items => exact ⟨items, rfl, by simpa [hasMenus] using h⟩

theorem applyDraft_repriced {r r' : Reservation} {d : Draft} {customer : Uuid} {zone : String}
    {a b : DateTime} (h : applyDraft r d customer zone a b = .ok r') :
    Repriced r d zone a b r' := by
  unfold applyDraft at h
  simp only [bind, Except.bind] at h
  split at h
  · cases h
  · next p hp =>
    simp only [pure, Except.pure, Except.ok.injEq] at h
    subst h
    -- the checked breakdown is the components of the draft's items, or of `r`
    obtain ⟨rfl, hparts, htotal⟩ := Pricing.breakdown_ok (mapError_eq_ok.mp hp)
    exact ⟨rfl, rfl, by cases d.items <;> rfl, by cases d.items <;> rfl, by cases d.items <;> rfl,
      rfl, rfl, rfl, ⟨hparts, htotal⟩, ⟨rfl, rfl, rfl, rfl⟩, ⟨rfl, rfl⟩⟩

/-- A draft applied over the slot's local period, with lines whose sums are the ones the
draft priced, is sound. -/
theorem Repriced.sound {r r' : Reservation} {d : Draft} {zone : String} {a b : DateTime}
    (h : Repriced r d zone a b r')
    (hperiod : Policy.localPeriod d.date d.start d.stop zone = .ok (a, b)) (sel : Selection)
    (hmenus : sel.menus ≠ [])
    (hsums : (d.items.map (·.subtotal)).getD r.subtotal = sel.subtotal ∧
      (d.items.map (·.optionTotal)).getD r.optionTotal = sel.optionTotal ∧
      (d.items.map (·.duration)).getD r.duration = sel.duration) (stamp : DateTime) :
    Reservation.Sound { r' with
      menuItems := sel.menus
      optionItems := sel.options
      updatedAt := stamp } where
  menus := hmenus
  subtotal := h.subtotal.trans hsums.1
  optionTotal := h.optionTotal.trans hsums.2.1
  duration := h.duration.trans hsums.2.2
  nonneg := h.nonneg.1
  total := h.total
  total_nonneg := h.nonneg.2
  period := by
    obtain ⟨hdate, hstart, hstop, hzone⟩ := h.slot
    simp only [hdate, hstart, hstop, hzone, h.period.1, h.period.2]
    exact hperiod

/-! ## The writes keep reservations sound -/

/-- Every stored reservation is sound. -/
def AllSound (db : Database) : Prop := ∀ r ∈ db.reservations, r.Sound

section Writes

variable {db : Database}

theorem AllSound.put (h : AllSound db) {r' : Reservation} (hr' : r'.Sound) :
    AllSound (db.putReservation r') := by
  intro x hx
  rcases mem_putReservation hx with rfl | ⟨hmem, -⟩
  · exact hr'
  · exact h x hmem

/-- A new reservation is stored sound: its checks gave it a menu and its slot a local
period, and its sums are those of the items it stores. -/
theorem insertOrReplay_sound (ctx : Context) (d : Draft) (timezone : Option String)
    (h : AllSound db) :
    wp (insertOrReplay ctx d timezone) (fun _ => AllSound) (fun _ _ => True) db := by
  refine wp_mono (wp_and (insertOrReplay_wp ctx d timezone db)
    (insertOrReplay_creates ctx d timezone db)) ?_ fun _ _ _ => trivial
  rintro ⟨r, created⟩ db' ⟨⟨rfl, -, -⟩ | ⟨rfl, -, hrows⟩, hcreates⟩
  · obtain ⟨items, status, a, b, drafted, stamp, hcheck, hdraft, rfl, -, hrows'⟩ := hcreates rfl
    obtain ⟨hitems, hmenus, -, -, hperiod⟩ := checkDraft_ok hcheck
    have hrep := applyDraft_repriced hdraft
    -- the new row holds the items' lines, and the draft priced the items
    have hsound := hrep.sound (Policy.readingPeriod_naive hperiod).2
      ⟨drafted.menuItems, drafted.optionItems⟩ (by simpa [hrep.menus, newRow] using hmenus)
      (by simp [hitems, hrep.menus, hrep.options, newRow, Selection.subtotal,
        Selection.optionTotal, Selection.duration]) drafted.updatedAt
    intro x hx
    rw [hrows', List.mem_append, List.mem_singleton] at hx
    rcases hx with hx | rfl
    · exact h x hx
    · exact hsound.restamp stamp stamp
  · intro x hx
    exact h x (hrows.reservations_eq ▸ hx)

/-- An update is stored sound: without items it keeps the lines and sums of a sound
reservation, with items it takes both from them. -/
theorem replace_sound (ctx : Context) (id : Uuid) (d : Draft) (timezone : Option String)
    (replaceItems : Bool) (h : AllSound db) :
    wp (replace ctx id d timezone replaceItems) (fun _ => AllSound) (fun _ _ => True) db := by
  refine wp_mono (replace_rewrites ctx id d timezone replaceItems db) ?_ fun _ _ _ => trivial
  rintro r' db' ⟨r, a, b, r₁, stamp, hfetch, -, hmenus, hperiod, hdraft, rfl, hrows⟩
  have hr := h r (reservation?_some hfetch).1
  have hlocal := (Policy.readingPeriod_naive hperiod).2
  intro x hx
  rw [hrows] at hx
  refine AllSound.put h ?_ x hx
  cases replaceItems with
  | true =>
    -- the items have a menu, and both the lines and the sums are theirs
    obtain ⟨items, hitems, hne⟩ := exists_of_hasMenus (hmenus rfl)
    have hrep := applyDraft_repriced hdraft
    simp only [if_true, hitems, Option.map_some, Option.getD_some] at hrep ⊢
    exact hrep.sound hlocal items hne (by simp [hitems]) stamp
  | false =>
    -- the lines stay, and the sums were taken from the reservation itself
    have hrep := applyDraft_repriced hdraft
    simp only [Bool.false_eq_true, if_false, Option.map_none, Option.getD_none] at hrep ⊢
    exact hrep.sound hlocal ⟨r₁.menuItems, r₁.optionItems⟩ (by simpa [hrep.menus] using hr.menus)
      (by simp [hrep.menus, hrep.options, Selection.subtotal, Selection.optionTotal,
        Selection.duration, hr.subtotal, hr.optionTotal, hr.duration]) stamp

theorem updateStatus_sound (ctx : Context) (id : Uuid) (target : String)
    (reason : Option String) (h : AllSound db) :
    wp (updateStatus ctx id target reason) (fun _ => AllSound) (fun _ _ => True) db := by
  refine wp_mono (updateStatus_wp ctx id target reason db) ?_ fun _ _ _ => trivial
  rintro r' db' ⟨r, t, stamp, hfetch, -, -, -, rfl, hrows⟩
  intro x hx
  rw [hrows.reservations_eq] at hx
  exact AllSound.put h ((h r (reservation?_some hfetch).1).moveTo t reason stamp) x hx

theorem markReminderSent_sound (ctx : Context) (id : Uuid) (h : AllSound db) :
    wp (markReminderSent ctx id) (fun _ => AllSound) (fun _ _ => True) db := by
  refine wp_mono (markReminderSent_wp ctx id db) ?_ fun _ _ _ => trivial
  rintro r' db' ⟨r, stamp, hmem, rfl, hrows⟩
  intro x hx
  rw [hrows.reservations_eq] at hx
  exact AllSound.put h ((h r hmem).remind stamp) x hx

end Writes

/-- Every call keeps every stored reservation sound. -/
theorem allSound_keeps : StoreKeeps fun db => Consistent db ∧ AllSound db :=
  StoreKeeps.of_consistent (fun _ _ hrows _ h x hx => h x (hrows ▸ hx))
    (fun ctx d timezone _ _ h => insertOrReplay_sound ctx d timezone h)
    (fun ctx id d timezone replaceItems _ _ h => replace_sound ctx id d timezone replaceItems h)
    (fun ctx id target reason _ _ h => updateStatus_sound ctx id target reason h)
    (fun ctx id _ _ h => markReminderSent_sound ctx id h)

/-! ## Updates -/

section Updates

variable {db db' : Database} {ctx : Context} {id : Uuid} {d : Draft} {timezone : Option String}
  {r' : Reservation}

/-- An update keeps the reservation's lines and their sums, and prices its fees again. -/
theorem update_keeps_lines (h : (replace ctx id d timezone false).run db = .ok r' db') :
    ∃ r, db.reservation? ctx.tenant id = some r ∧
      r'.menuItems = r.menuItems ∧ r'.optionItems = r.optionItems ∧
      r'.subtotal = r.subtotal ∧ r'.optionTotal = r.optionTotal ∧ r'.duration = r.duration ∧
      r'.nominationFee = d.nominationFee ∧ r'.discount = d.discount ∧
      r'.totalPrice = Pricing.total r.subtotal r.optionTotal d.nominationFee d.discount ∧
      db'.reservations = (db.putReservation r').reservations := by
  have hw := replace_rewrites ctx id d timezone false db
  rw [wp_of_run_ok h] at hw
  obtain ⟨r, a, b, r₁, stamp, hfetch, -, -, -, hdraft, rfl, hrows⟩ := hw
  have hrep := applyDraft_repriced hdraft
  -- without items the sums are the reservation's own
  have hsums : r₁.subtotal = r.subtotal ∧ r₁.optionTotal = r.optionTotal ∧ r₁.duration = r.duration :=
    ⟨hrep.subtotal, hrep.optionTotal, hrep.duration⟩
  have hfees : r₁.nominationFee = d.nominationFee ∧ r₁.discount = d.discount :=
    ⟨hrep.fee, hrep.discount⟩
  refine ⟨r, hfetch, hrep.menus, hrep.options, hsums.1, hsums.2.1, hsums.2.2, hfees.1, hfees.2, ?_,
    hrows⟩
  rw [← hsums.1, ← hsums.2.1, ← hfees.1, ← hfees.2]
  exact hrep.total

/-- An update with items replaces every line of the reservation by the items', and its
sums with theirs. -/
theorem updateWithItems_replaces_lines (h : (replace ctx id d timezone true).run db = .ok r' db') :
    ∃ r items, db.reservation? ctx.tenant id = some r ∧ d.items = some items ∧
      items.menus ≠ [] ∧ r'.menuItems = items.menus ∧ r'.optionItems = items.options ∧
      r'.subtotal = items.subtotal ∧ r'.optionTotal = items.optionTotal ∧
      r'.duration = items.duration ∧ r'.nominationFee = d.nominationFee ∧
      r'.discount = d.discount ∧
      r'.totalPrice = Pricing.total items.subtotal items.optionTotal d.nominationFee d.discount ∧
      db'.reservations = (db.putReservation r').reservations := by
  have hw := replace_rewrites ctx id d timezone true db
  rw [wp_of_run_ok h] at hw
  obtain ⟨r, a, b, r₁, stamp, hfetch, -, hmenus, -, hdraft, rfl, hrows⟩ := hw
  obtain ⟨items, hitems, hne⟩ := exists_of_hasMenus (hmenus rfl)
  have hrep := applyDraft_repriced hdraft
  -- with items the sums are the items'
  have hsums : r₁.subtotal = items.subtotal ∧ r₁.optionTotal = items.optionTotal ∧
      r₁.duration = items.duration := by
    simp [hrep.subtotal, hrep.optionTotal, hrep.duration, hitems]
  have hfees : r₁.nominationFee = d.nominationFee ∧ r₁.discount = d.discount :=
    ⟨hrep.fee, hrep.discount⟩
  refine ⟨r, items, hfetch, hitems, hne, by simp [hitems], by simp [hitems], hsums.1, hsums.2.1,
    hsums.2.2, hfees.1, hfees.2, ?_, hrows⟩
  rw [← hsums.1, ← hsums.2.1, ← hfees.1, ← hfees.2]
  exact hrep.total

end Updates

end Reservations

theorem Reachable.allSound {db : Database} (h : Reachable db) : AllSound db :=
  Reachable.holds allSound_keeps (fun _ hempty r hr => by simp [hempty] at hr) h

/-- What a database promises of its reservations as aggregates: each is sound; an update
keeps the reservation's lines and sums and prices its fees again; an update with items
replaces every line and the sums with the items'. Outside the reservation nothing
holds a line. -/
structure Aggregated (db : Database) : Prop where
  sound : ∀ r ∈ db.reservations, r.Sound
  update : ∀ (ctx : Context) (id : Uuid) (d : Draft) (timezone : Option String)
    (r' : Reservation) (db' : Database), (replace ctx id d timezone false).run db = .ok r' db' →
    ∃ r, db.reservation? ctx.tenant id = some r ∧
      r'.menuItems = r.menuItems ∧ r'.optionItems = r.optionItems ∧
      r'.subtotal = r.subtotal ∧ r'.optionTotal = r.optionTotal ∧ r'.duration = r.duration ∧
      r'.nominationFee = d.nominationFee ∧ r'.discount = d.discount ∧
      r'.totalPrice = Pricing.total r.subtotal r.optionTotal d.nominationFee d.discount ∧
      db'.reservations = (db.putReservation r').reservations
  updateWithItems : ∀ (ctx : Context) (id : Uuid) (d : Draft) (timezone : Option String)
    (r' : Reservation) (db' : Database), (replace ctx id d timezone true).run db = .ok r' db' →
    ∃ r items, db.reservation? ctx.tenant id = some r ∧ d.items = some items ∧
      items.menus ≠ [] ∧ r'.menuItems = items.menus ∧ r'.optionItems = items.options ∧
      r'.subtotal = items.subtotal ∧ r'.optionTotal = items.optionTotal ∧
      r'.duration = items.duration ∧ r'.nominationFee = d.nominationFee ∧
      r'.discount = d.discount ∧
      r'.totalPrice = Pricing.total items.subtotal items.optionTotal d.nominationFee d.discount ∧
      db'.reservations = (db.putReservation r').reservations

/-- Every reachable database keeps its reservations whole. -/
theorem Reachable.aggregated {db : Database} (h : Reachable db) : Aggregated db where
  sound := h.allSound
  update _ _ _ _ _ _ hrun := update_keeps_lines hrun
  updateWithItems _ _ _ _ _ _ hrun := updateWithItems_replaces_lines hrun

private def wholeDay : Date := ⟨epochDayNumber + 20003, by decide, by decide⟩
private def wholeFour : TimeOfDay := ⟨57600000000, by decide⟩
private def wholeFive : TimeOfDay := ⟨61200000000, by decide⟩
private def wholeDraft : Draft :=
  { practitioner := ⟨3⟩, customer := some ⟨4⟩, date := wholeDay, start := wholeFour,
    stop := wholeFive, items := some ⟨[⟨⟨2⟩, "Cut", 5000, 60, 0, true⟩], [⟨⟨6⟩, "Spa", 1500, 15⟩]⟩ }

/-- The table a booking of a cut with a spa option leaves on an empty one. -/
private def wholeTable : Database :=
  (Call.create ⟨⟨1⟩, none⟩ wholeDraft (some "UTC")).after { clock := ⟨⟨wholeDay, wholeFour⟩, 0⟩ }

theorem booked_table_aggregated : Reachable wholeTable ∧ Aggregated wholeTable :=
  ⟨.step _ (.init _ rfl), Reachable.aggregated (.step _ (.init _ rfl))⟩

end SalonBooking
