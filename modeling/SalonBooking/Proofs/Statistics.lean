import SalonBooking.Proofs.Pages
import SalonBooking.Proofs.Aggregates

/-!
Statistics of a date range. The counts by status of the tenant's reservations dated from
`a` to `b`, their total and the revenue of the completed ones agree with the listing:
each of the five statuses has its count, the counts add up to the total, and the total is
what a page and a listing of the same range count. Storage adds up the prices of each
status in the order it holds them, in 64 bits, so the statistics fail with an integer
overflow exactly when a running total of one status's prices leaves that range, whichever
status it is. No price of a reachable state is negative, so there the running totals only
grow, and the statistics fail exactly when one status's prices add up beyond 64 bits.
-/

namespace SalonBooking

open SalonBooking.Calendar

theorem Status.mem_all (s : Status) : s ∈ Status.all := by
  cases s <;> simp [Status.all]

namespace Reservations

/-- The tenant's reservations dated from `a` to `b`, in the order they were written. -/
def datedRows (db : Database) (ctx : Context) (a b : Date) : List Reservation :=
  (db.reservationsOf ctx.tenant).filter fun r => a ≤ r.date && r.date ≤ b

/-- The listing filter of the dates from `a` to `b`. -/
def Filters.dated (a b : Date) : Filters := { dateFrom := some a, dateTo := some b }

/-- Storage adds up the prices of each status's reservations in the range, in the order it
holds them, with every running total within 64 bits. -/
def SumsFit (db : Database) (ctx : Context) (a b : Date) : Prop :=
  ∀ s : Status, runningSumFits 0 (((datedRows db ctx a b).filter (·.status == s)).map
    (·.totalPrice)) = true

@[simp] theorem sumAmounts_nil : sumAmounts [] = 0 := rfl

@[simp] theorem sumAmounts_cons (x : Int) (xs : List Int) :
    sumAmounts (x :: xs) = x + sumAmounts xs := rfl

theorem sumAmounts_nonneg {xs : List Int} (h : ∀ x ∈ xs, 0 ≤ x) : 0 ≤ sumAmounts xs := by
  induction xs with
  | nil => exact Int.le_refl 0
  | cons x xs ih =>
    obtain ⟨hx, htail⟩ := List.forall_mem_cons.mp h
    have hs := ih htail
    rw [sumAmounts_cons]
    omega

/-- Adding amounts none of which is negative, the running totals only grow: they all fit
exactly when the last one does. -/
theorem runningSumFits_of_nonneg {xs : List Int} (h : ∀ x ∈ xs, 0 ≤ x) {acc : Int}
    (hacc : 0 ≤ acc) (hfit : acc < 9223372036854775808) :
    runningSumFits acc xs = fitsColumn (acc + sumAmounts xs) := by
  induction xs generalizing acc with
  | nil =>
    rw [runningSumFits, sumAmounts_nil, Int.add_zero]
    exact (fitsColumn_iff.mpr ⟨by omega, hfit⟩).symm
  | cons x xs ih =>
    obtain ⟨hx, htail⟩ := List.forall_mem_cons.mp h
    have hs := sumAmounts_nonneg htail
    rw [runningSumFits, sumAmounts_cons, ← Int.add_assoc]
    by_cases hlt : acc + x < 9223372036854775808
    · -- the next total fits, and the rest is added after it
      rw [fitsColumn_iff.mpr ⟨by omega, hlt⟩, Bool.true_and]
      exact ih htail (by omega) hlt
    · -- the next total is past the range already, and the rest only adds to it
      have h₁ : fitsColumn (acc + x) = false :=
        Bool.eq_false_iff.mpr fun hf => hlt (fitsColumn_iff.mp hf).2
      have h₂ : fitsColumn (acc + x + sumAmounts xs) = false :=
        Bool.eq_false_iff.mpr fun hf => absurd (fitsColumn_iff.mp hf).2 (by omega)
      rw [h₁, h₂, Bool.false_and]

/-- In a reachable state no price is negative, so storage adds up each status's prices in
the range exactly when their sum fits 64 bits. -/
theorem sumsFit_iff_of_reachable {db : Database} {ctx : Context} {a b : Date} (hdb : Reachable db) :
    SumsFit db ctx a b ↔ ∀ s : Status, fitsColumn (sumAmounts
      (((datedRows db ctx a b).filter (·.status == s)).map (·.totalPrice))) = true := by
  refine forall_congr' fun s => ?_
  have hnonneg : ∀ x ∈ ((datedRows db ctx a b).filter (·.status == s)).map (·.totalPrice),
      0 ≤ x := by
    intro x hx
    obtain ⟨r, hr, rfl⟩ := List.mem_map.mp hx
    -- a row of the range is a stored row, and every stored row is sound
    have hstored : r ∈ db.reservations :=
      List.mem_of_mem_filter (List.mem_of_mem_filter (List.mem_of_mem_filter hr))
    exact (hdb.allSound r hstored).total_nonneg
  rw [runningSumFits_of_nonneg hnonneg (Int.le_refl 0) (by decide), Int.zero_add]

/-- What the statistics `st` of the range from `a` to `b` say: a count for each of the
five statuses, the number of the range's reservations in it; a total that is their sum
and what a page and a listing of the range count; and the sum of the prices of the
completed reservations as revenue. -/
structure StatsAgree (db : Database) (ctx : Context) (a b : Date) (st : Stats) : Prop where
  keys : st.byStatus.map (·.1) = Status.all
  count : ∀ s, st.byStatus.lookup s = some ((datedRows db ctx a b).countP (·.status == s))
  total_sum : st.total = (st.byStatus.map (·.2)).foldr (· + ·) 0
  total_page : ∃ pg, listPaginated db ctx (Filters.dated a b) 1 20 "date" "asc" = .ok pg ∧
    pg.total = st.total
  total_list : ∃ rs, list db ctx (Filters.dated a b) = .ok rs ∧ rs.length = st.total
  revenue : st.revenue =
    sumAmounts (((datedRows db ctx a b).filter (·.status == .completed)).map (·.totalPrice))

/-- A listing of a date range keeps exactly the reservations of the range. -/
theorem keeps_dated (a b : Date) :
    ∃ keep, keeps (Filters.dated a b) = .ok keep ∧ ∀ r, keep r = (decide (a ≤ r.date) && decide (r.date ≤ b)) := by
  refine ⟨_, rfl, fun r => ?_⟩
  simp [Filters.dated]

theorem filter_dated {db : Database} {ctx : Context} {a b : Date} {keep : Reservation → Bool}
    (hkeep : ∀ r, keep r = (decide (a ≤ r.date) && decide (r.date ≤ b))) :
    (db.reservationsOf ctx.tenant).filter keep = datedRows db ctx a b :=
  List.filter_congr fun r _ => hkeep r

/-- Every reservation has one of the five statuses, so the counts by status add up to
the number of reservations. -/
theorem length_eq_sum_counts (rows : List Reservation) :
    rows.length = (Status.all.map fun s => (rows.filter (·.status == s)).length).foldr (· + ·) 0 := by
  induction rows with
  | nil => rfl
  | cons r rows ih =>
    simp only [Status.all, List.map_cons, List.map_nil, List.foldr_cons, List.foldr_nil,
      List.filter_cons, List.length_cons] at ih ⊢
    cases r.status <;> simp <;> omega

/-- The count kept for a status is the one computed for it. -/
theorem lookup_counts (g : Status → Nat) (s : Status) :
    (Status.all.map fun s => (s, g s)).lookup s = some (g s) := by
  cases s <;> rfl

/-- Statistics fail exactly when a running total of one status's prices leaves 64 bits;
otherwise they count each status, the counts add up to the total a page and a listing of the range
find, and the revenue is the sum of the completed reservations' prices. -/
theorem stats_agree_with_listing (db : Database) (ctx : Context) (a b : Date) :
    (SumsFit db ctx a b → ∃ st, stats db ctx a b = .ok st ∧ StatsAgree db ctx a b st) ∧
    (¬ SumsFit db ctx a b → stats db ctx a b = .error .sumOverflow) := by
  unfold stats
  dsimp only
  split
  · next hover =>
    -- some status's prices add up beyond 64 bits
    have hnot : ¬ SumsFit db ctx a b := by
      simpa [SumsFit, datedRows, List.any_map, Status.mem_all] using hover
    exact ⟨fun hfit => absurd hfit hnot, fun _ => rfl⟩
  · next hfits =>
    have hfit : SumsFit db ctx a b := by
      simpa [SumsFit, datedRows, List.any_map, Status.mem_all] using hfits
    refine ⟨fun _ => ⟨_, rfl, ?_⟩, fun hnot => absurd hfit hnot⟩
    obtain ⟨keep, hkeep, hrange⟩ := keeps_dated a b
    obtain ⟨pg, hpg, hpage⟩ := listPaginated_isPage hkeep .date 1 20 "asc" rfl rfl
    refine ⟨by simp [List.map_map, Function.comp_def], fun s => ?_, ?_, ⟨pg, hpg, ?_⟩,
      ⟨sortBy listKey ((db.reservationsOf ctx.tenant).filter keep), ?_, ?_⟩, rfl⟩
    · simp only [List.map_map, Function.comp_def, List.countP_eq_length_filter]
      exact lookup_counts _ s
    · simp only [List.map_map, Function.comp_def]
      exact length_eq_sum_counts _
    · rw [hpage.total, arranged_length, filter_dated hrange]
      rfl
    · simp only [list, hkeep]
      rfl
    · simp [sortBy, List.length_mergeSort, filter_dated hrange, datedRows]

/-- A day with one reservation, a cut of 4500 booked in UTC from a quarter past one to a
quarter past two. -/
private def rangeDay : Date := ⟨epochDayNumber + 20811, by decide, by decide⟩
private def rangeCtx : Context := ⟨⟨1⟩, none⟩
private def rangeTable : Database :=
  (Call.create rangeCtx
    { practitioner := ⟨3⟩, customer := some ⟨4⟩, date := rangeDay, start := ⟨47700000000, by decide⟩,
      stop := ⟨51300000000, by decide⟩, items := some ⟨[⟨⟨2⟩, "Cut", 4500, 60, 0, true⟩], []⟩ }
    (some "UTC")).after { clock := ⟨⟨rangeDay, ⟨47700000000, by decide⟩⟩, 0⟩ }

set_option maxRecDepth 20000 in
theorem one_booking_day_stats :
    SumsFit rangeTable rangeCtx rangeDay rangeDay ∧
      ∃ st, stats rangeTable rangeCtx rangeDay rangeDay = .ok st ∧
        StatsAgree rangeTable rangeCtx rangeDay rangeDay st := by
  have hfit : SumsFit rangeTable rangeCtx rangeDay rangeDay := fun s => by cases s <;> decide
  exact ⟨hfit, (stats_agree_with_listing rangeTable rangeCtx rangeDay rangeDay).1 hfit⟩

end Reservations

end SalonBooking
