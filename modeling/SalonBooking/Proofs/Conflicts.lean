import SalonBooking.Proofs.StoreWrites
import SalonBooking.Reservation.Query

/-!
The overlap check is exact. A write is refused for a clash exactly when a reservation
holding the practitioner's time, other than the one being updated, shares an instant
with the new period: adjacent periods, other practitioners, other tenants and
reservations that released their time never block. The advisory check answers the
same question, so it offers no slot a write then refuses and hides no free one.
-/

namespace SalonBooking

open SalonBooking.Calendar Op Database

namespace Reservations

/-- A reservation other than `exclude` holds the time of the tenant's practitioner `p`
somewhere in `[a, b)`. -/
def Blocks (db : Database) (ctx : Context) (p : Uuid) (a b : DateTime) (exclude : Option Uuid) :
    Prop :=
  ∃ x ∈ db.reservations, exclude ≠ some x.id ∧ x.tenant = ctx.tenant ∧ x.practitioner = p ∧
    x.isActive = true ∧ x.periodStart < b ∧ a < x.periodEnd

theorem findOverlap_isSome_iff {db : Database} {ctx : Context} {p : Uuid} {a b : DateTime}
    {exclude : Option Uuid} : (findOverlap db ctx p a b exclude).isSome = true ↔
      Blocks db ctx p a b exclude := by
  rw [Option.isSome_iff_ne_none, Ne, findOverlap_eq_none_iff]
  constructor
  · -- a reservation the search does not pass over is one that blocks
    intro h
    refine Classical.byContradiction fun hn => h fun x hx ht hp hact h₁ h₂ => ?_
    exact Classical.byContradiction fun hne => hn ⟨x, hx, hne, ht, hp, hact, h₁, h₂⟩
  · rintro ⟨x, hx, hne, ht, hp, hact, h₁, h₂⟩ hall
    exact hne (hall x hx ht hp hact h₁ h₂)

/-- A refusal is a clash exactly when `P` holds, and a run that returns had `P` false:
then the run is refused for a clash exactly when `P` holds. -/
theorem conflict_iff_of_wp {α : Type} {x : Op α} {db : Database} {P : Prop}
    (h : wp x (fun _ _ => ¬ P) (fun e _ => e.IsConflict ↔ P) db) :
    (∃ c db', x.run db = .error (.refused (.conflict c)) db') ↔ P := by
  unfold wp at h
  constructor
  · rintro ⟨c, db', hrun⟩
    rw [hrun] at h
    exact h.mp ⟨c, rfl⟩
  · intro hP
    cases hrun : x.run db with
    | ok a db' =>
      rw [hrun] at h
      exact absurd hP h
    | error e db' =>
      rw [hrun] at h
      obtain ⟨c, rfl⟩ := h.mpr hP
      exact ⟨c, db', rfl⟩

/-- With the draft's own items, the price check is the only way a draft is refused. -/
theorem applyDraft_ok_of_breakdown (r : Reservation) {d : Draft} (customer : Uuid) (zone : String)
    (a b : DateTime) {items : Selection} {price : PriceBreakdown} (hitems : d.items = some items)
    (hprice : Pricing.breakdown items.subtotal items.optionTotal d.nominationFee d.discount
      d.totalPrice = .ok price) :
    ∃ r', applyDraft r d customer zone a b = .ok r' := by
  unfold applyDraft
  simp only [hitems, bind, Except.bind, hprice, mapError_ok]
  exact ⟨_, rfl⟩

/-- The checks of a new draft, passed one by one. -/
theorem checkDraft_eq_ok {d : Draft} {zone : String} {items : Selection} {status : Status}
    {a b : DateTime} (hitems : d.items = some items) (hmenus : items.menus ≠ [])
    (hstatus : parseStatus d.status = .ok status) (hinit : status.isInitial = true)
    (hperiod : Policy.readingPeriod d.date ⟨d.start, d.startOffset⟩ ⟨d.stop, none⟩ zone = .ok (a, b)) :
    checkDraft d zone = .ok (items, status, a, b) := by
  unfold checkDraft
  simp [hitems, hmenus, hstatus, hinit, hperiod, bind, Except.bind, pure, Except.pure]

/-- A new reservation whose other checks pass is refused for a clash exactly when a
reservation blocks its period; when it is written, none did. -/
theorem insertOrReplay_conflict_wp {db : Database} {ctx : Context} {d : Draft}
    {timezone : Option String} {items : Selection} {status : Status} {a b : DateTime}
    {price : PriceBreakdown}
    (hcheck : checkDraft d ((nonEmpty timezone).getD defaultZone) = .ok (items, status, a, b))
    (hitems : d.items = some items)
    (hprice : Pricing.breakdown items.subtotal items.optionTotal d.nominationFee d.discount
      d.totalPrice = .ok price)
    (hreplay : replayOf db ctx d.idempotencyKey = none) :
    wp (insertOrReplay ctx d timezone) (fun _ _ => ¬ Blocks db ctx d.practitioner a b none)
      (fun e _ => e.IsConflict ↔ Blocks db ctx d.practitioner a b none) db := by
  obtain ⟨drafted, hdraft⟩ := applyDraft_ok_of_breakdown
    (newRow ctx d items status ((nonEmpty timezone).getD defaultZone) a b ⟨db.issued + 1⟩)
    (d.customer.getD ⟨0⟩) ((nonEmpty timezone).getD defaultZone) a b hitems hprice
  have hd := applyDraft_ok hdraft
  simp only [insertOrReplay, wp_bind, wp_lift, hcheck, wp_get, hreplay, wp_freshId, hdraft,
    wp_transaction]
  refine wp_mono (insertRow_wp ctx d items drafted _) ?_ ?_
  · rintro r db' ⟨hfree, -, -⟩ hblocks
    rw [hd.period.1, hd.period.2] at hfree
    have hsome := findOverlap_isSome_iff.mpr hblocks
    rw [show findOverlap db ctx d.practitioner a b none = none from hfree] at hsome
    cases hsome
  · rintro e db' ⟨-, hiff⟩
    rw [hd.period.1, hd.period.2] at hiff
    exact hiff.trans findOverlap_isSome_iff

/-- An update of a live reservation `r` whose slot reads in its zone is refused for a
clash exactly when a reservation other than `r` blocks the new period. -/
theorem replace_conflict_wp {db : Database} {ctx : Context} {id : Uuid} {d : Draft}
    {timezone : Option String} {replaceItems : Bool} {r : Reservation} {a b : DateTime}
    (hmenus : replaceItems = true → hasMenus d.items = true)
    (hfetch : db.reservation? ctx.tenant id = some r) (hlive : r.status.isTerminal = false)
    (hperiod : Policy.readingPeriod d.date ⟨d.start, d.startOffset⟩ ⟨d.stop, none⟩
      (replaceZone timezone r) = .ok (a, b)) :
    wp (replace ctx id d timezone replaceItems)
      (fun _ _ => ¬ Blocks db ctx d.practitioner a b (some r.id))
      (fun e _ => e.IsConflict ↔ Blocks db ctx d.practitioner a b (some r.id)) db := by
  have hitems : (replaceItems && !hasMenus d.items) = false := by
    cases replaceItems with
    | false => rfl
    | true => simp [hmenus rfl]
  simp only [replace, hitems, Bool.false_eq_true, ↓reduceIte, wp_bind, wp_transaction, wp_fetch,
    hfetch, hlive, wp_lift, hperiod, wp_ensureNoOverlap]
  split
  · next hclash =>
    exact iff_of_true ⟨_, rfl⟩ (findOverlap_isSome_iff.mp hclash)
  · next hfree =>
    -- past the overlap check nothing is refused for a clash
    have hnot : ¬ Blocks db ctx d.practitioner a b (some r.id) :=
      fun hblocks => hfree (findOverlap_isSome_iff.mpr hblocks)
    exact wp_mono (rewriteRow_wp ctx r _ _ a b db) (fun _ _ _ => hnot)
      fun _ _ h => iff_of_false h.2 hnot

/-- The advisory check reads the period in the zone given, else the default one, and
answers whether a reservation blocks it. -/
theorem hasConflict_eq {db : Database} {ctx : Context} {p : Uuid} {date : Date}
    {start stop : ClockReading} {exclude : Option Uuid} {timezone : Option String} {a b : DateTime}
    (hperiod : Policy.readingPeriod date start stop ((nonEmpty timezone).getD defaultZone) =
      .ok (a, b)) :
    hasConflict db ctx p date start stop exclude timezone = .ok (findOverlap db ctx p a b exclude).isSome := by
  unfold hasConflict
  simp only [hperiod, bind, Except.bind, pure, Except.pure]

/-- The overlap check is exact on every path. A new reservation that passes its other
checks (a menu, an initial status, a slot with a period in the zone, a valid price, no
key to replay) is refused for a clash exactly when a reservation blocks its period. An
update of a live reservation `r`, read in the zone given, else `r`'s, else the default,
is refused for a clash exactly when a reservation other than `r` blocks it. The advisory
check answers the same question. -/
theorem conflict_check_exact :
    (∀ (db : Database) (ctx : Context) (d : Draft) (timezone : Option String) (items : Selection)
        (status : Status) (a b : DateTime) (price : PriceBreakdown),
      d.items = some items → items.menus ≠ [] → parseStatus d.status = .ok status →
      status.isInitial = true →
      Policy.readingPeriod d.date ⟨d.start, d.startOffset⟩ ⟨d.stop, none⟩
        ((nonEmpty timezone).getD defaultZone) = .ok (a, b) →
      Pricing.breakdown items.subtotal items.optionTotal d.nominationFee d.discount
        d.totalPrice = .ok price →
      replayOf db ctx d.idempotencyKey = none →
      ((∃ c db', (insertOrReplay ctx d timezone).run db = .error (.refused (.conflict c)) db') ↔
        Blocks db ctx d.practitioner a b none)) ∧
    (∀ (db : Database) (ctx : Context) (id : Uuid) (d : Draft) (timezone : Option String)
        (replaceItems : Bool) (r : Reservation) (a b : DateTime),
      (replaceItems = true → hasMenus d.items = true) →
      db.reservation? ctx.tenant id = some r → r.status.isTerminal = false →
      Policy.readingPeriod d.date ⟨d.start, d.startOffset⟩ ⟨d.stop, none⟩
        (replaceZone timezone r) = .ok (a, b) →
      ((∃ c db', (replace ctx id d timezone replaceItems).run db =
          .error (.refused (.conflict c)) db') ↔
        Blocks db ctx d.practitioner a b (some r.id))) ∧
    (∀ (db : Database) (ctx : Context) (p : Uuid) (date : Date) (start stop : ClockReading)
        (exclude : Option Uuid) (timezone : Option String) (a b : DateTime),
      Policy.readingPeriod date start stop ((nonEmpty timezone).getD defaultZone) = .ok (a, b) →
      (hasConflict db ctx p date start stop exclude timezone = .ok true ↔
        Blocks db ctx p a b exclude)) := by
  refine ⟨?_, ?_, ?_⟩
  · intro db ctx d timezone items status a b price hitems hmenus hstatus hinit hperiod hprice hreplay
    have hcheck := checkDraft_eq_ok hitems hmenus hstatus hinit hperiod
    exact conflict_iff_of_wp (insertOrReplay_conflict_wp hcheck hitems hprice hreplay)
  · intro db ctx id d timezone replaceItems r a b hmenus hfetch hlive hperiod
    exact conflict_iff_of_wp (replace_conflict_wp hmenus hfetch hlive hperiod)
  · intro db ctx p date start stop exclude timezone a b hperiod
    rw [hasConflict_eq hperiod, Except.ok.injEq]
    exact findOverlap_isSome_iff

private def sampleDay : Date := ⟨epochDayNumber + 20000, by decide, by decide⟩
private def sampleTen : TimeOfDay := ⟨36000000000, by decide⟩
private def sampleEleven : TimeOfDay := ⟨39600000000, by decide⟩
private def sampleCtx : Context := ⟨⟨1⟩, none⟩
private def sampleCut : Selection := ⟨[⟨⟨2⟩, "Cut", 5000, 60, 0, true⟩], []⟩
private def sampleDraft : Draft :=
  { practitioner := ⟨3⟩, customer := some ⟨4⟩, date := sampleDay, start := sampleTen,
    stop := sampleEleven, items := some sampleCut }
private def sampleEmpty : Database := { clock := ⟨⟨sampleDay, sampleTen⟩, 0⟩ }
private def sampleRow : Reservation :=
  newRow sampleCtx sampleDraft sampleCut .pending "UTC" ⟨sampleDay, sampleTen⟩ ⟨sampleDay, sampleEleven⟩ ⟨5⟩
private def sampleBooked : Database := { sampleEmpty with reservations := [sampleRow] }

set_option maxRecDepth 10000 in
/-- A ten o'clock hour in UTC, first on an empty table, then held by reservation 5. -/
theorem conflict_check_on_an_hour :
    ((∃ c db', (insertOrReplay sampleCtx sampleDraft (some "UTC")).run sampleEmpty =
        .error (.refused (.conflict c)) db') ↔
      Blocks sampleEmpty sampleCtx ⟨3⟩ ⟨sampleDay, sampleTen⟩ ⟨sampleDay, sampleEleven⟩ none) ∧
    ((∃ c db', (replace sampleCtx ⟨5⟩ sampleDraft none true).run sampleBooked =
        .error (.refused (.conflict c)) db') ↔
      Blocks sampleBooked sampleCtx ⟨3⟩ ⟨sampleDay, sampleTen⟩ ⟨sampleDay, sampleEleven⟩ (some ⟨5⟩)) ∧
    (hasConflict sampleBooked sampleCtx ⟨3⟩ sampleDay ⟨sampleTen, none⟩ ⟨sampleEleven, none⟩ none
        (some "UTC") = .ok true ↔
      Blocks sampleBooked sampleCtx ⟨3⟩ ⟨sampleDay, sampleTen⟩ ⟨sampleDay, sampleEleven⟩ none) :=
  ⟨conflict_check_exact.1 _ _ _ _ sampleCut .pending _ _ ⟨5000, 0, 0, 0, 5000⟩ rfl
      (List.cons_ne_nil _ _) rfl rfl rfl rfl rfl,
    conflict_check_exact.2.1 _ _ _ _ _ true sampleRow _ _ (fun _ => rfl) rfl rfl rfl,
    conflict_check_exact.2.2 _ _ _ _ _ _ none _ _ _ rfl⟩

end Reservations

end SalonBooking
