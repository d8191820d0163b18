import Mathlib.Data.List.Forall2
import SalonBooking.Proofs.Ownership
import SalonBooking.Proofs.Consistency
import SalonBooking.Proofs.Instants

/-!
Pages of a listing. A page holds the tenant's reservations that pass a filter, sorted
by date, start time and id, or by the time of writing and id, each key descending
when the order asked for reads `desc` in any case. Ids are distinct, so either order
is strict and there is one sorted listing. Page `p` with `l` rows a page is the cut
of it from place `(p - 1) * l`, `l` rows at most; it says there is more exactly when
a row lies past it, and pages `1` to `⌈total / l⌉` give every row once, in order.

A filter naming no status refuses the listing, as does a sort field other than the
two. What a page or an offset beyond 64 bits does is not said here.
-/

namespace SalonBooking

open SalonBooking.Calendar

namespace Reservations

/-! ## Sort fields and their orders -/

/-- The fields a page may be sorted by. -/
inductive SortField where
  /-- By date, then start time, then id. -/
  | date
  /-- By the time of writing, then id. -/
  | createdAt

/-- The name a caller gives the field. -/
def SortField.name : SortField → String
  | .date => "date"
  | .createdAt => "created_at"

/-- Reservation `a` comes strictly before `b` when sorted ascending by the field. -/
def SortField.Before : SortField → Reservation → Reservation → Prop
  | .date, a, b => a.date < b.date ∨ a.date = b.date ∧
      (a.start < b.start ∨ a.start = b.start ∧ a.id.value < b.id.value)
  | .createdAt, a, b => a.createdAt < b.createdAt ∨ a.createdAt = b.createdAt ∧
      a.id.value < b.id.value

/-- The key storage sorts a field by. -/
def SortField.key : SortField → Reservation → List Int
  | .date => fun r => [r.date.dayNumber, r.start.micros, r.id.value]
  | .createdAt => fun r => [r.createdAt.toMicros, r.id.value]

/-- `sorted` holds each row of `rows` once, strictly ascending by `field`, or strictly
descending when `descending`. -/
def SortedBy (field : SortField) (descending : Bool) (rows sorted : List Reservation) : Prop :=
  sorted.Perm rows ∧ sorted.Pairwise fun a b => if descending then field.Before b a else field.Before a b

/-- Keys that compare no later, of rows with different ids, put the rows in order. -/
theorem SortField.before_of_keyLe (field : SortField) {a b : Reservation}
    (h : keyLe (field.key a) (field.key b) = true) (hid : a.id ≠ b.id) : field.Before a b := by
  have hval : a.id.value ≠ b.id.value := fun hv => hid (by cases ha : a.id; cases hb : b.id; simp_all)
  cases field with
  | date =>
    have hdate : a.date < b.date ↔ a.date.dayNumber < b.date.dayNumber := Iff.rfl
    have hstart : a.start < b.start ↔ a.start.micros < b.start.micros := Iff.rfl
    simp only [SortField.key, keyLe, Bool.or_eq_true, decide_eq_true_eq, Bool.and_eq_true,
      beq_iff_eq, Int.ofNat_lt, Int.natCast_inj, Bool.and_true] at h
    simp only [SortField.Before, ← Date.dayNumber_inj, ← TimeOfDay.micros_inj, hdate, hstart]
    omega
  | createdAt =>
    have hcreated : a.createdAt < b.createdAt ↔ a.createdAt.toMicros < b.createdAt.toMicros := Iff.rfl
    simp only [SortField.key, keyLe, Bool.or_eq_true, decide_eq_true_eq, Bool.and_eq_true,
      beq_iff_eq, Int.ofNat_lt, Int.natCast_inj, Bool.and_true] at h
    simp only [SortField.Before, ← DateTime.toMicros_inj, hcreated]
    omega

/-- The rows sorted by the field's key, turned round for a descending order. -/
def arranged (field : SortField) (descending : Bool) (rows : List Reservation) : List Reservation :=
  if descending then (sortBy field.key rows).reverse else sortBy field.key rows

theorem arranged_length (field : SortField) (descending : Bool) (rows : List Reservation) :
    (arranged field descending rows).length = rows.length := by
  cases descending <;> simp [arranged, sortBy, List.length_mergeSort]

/-- Rows with distinct ids, sorted by a field's key and turned round for a descending
order, are sorted strictly by that field. -/
theorem arranged_sortedBy (field : SortField) (descending : Bool) {rows : List Reservation}
    (hids : (rows.map (·.id)).Nodup) : SortedBy field descending rows (arranged field descending rows) := by
  have hperm : (sortBy field.key rows).Perm rows := List.mergeSort_perm _ _
  have hle : (sortBy field.key rows).Pairwise fun a b => keyLe (field.key a) (field.key b) = true :=
    @List.pairwise_mergeSort _ (fun a b => keyLe (field.key a) (field.key b))
      (fun _ _ _ h₁ h₂ => keyLe_trans h₁ h₂) (fun a b => keyLe_total (field.key a) (field.key b)) rows
  have hnodup : ((sortBy field.key rows).map (·.id)).Nodup := (hperm.map _).nodup_iff.mpr hids
  have hne : (sortBy field.key rows).Pairwise fun a b => a.id ≠ b.id := List.pairwise_map.mp hnodup
  have hlt : (sortBy field.key rows).Pairwise field.Before :=
    (hle.and hne).imp fun h => field.before_of_keyLe h.1 h.2
  cases descending with
  | false => exact ⟨hperm, by simpa [arranged] using hlt⟩
  | true =>
    refine ⟨(List.reverse_perm _).trans hperm, ?_⟩
    simpa [arranged, List.pairwise_reverse] using hlt

/-! ## One page -/

/-- An integer fits a 64-bit column exactly when it lies in the signed 64-bit range. -/
theorem fitsColumn_iff {n : Int} :
    fitsColumn n = true ↔ -9223372036854775808 ≤ n ∧ n < 9223372036854775808 := by
  have hpow : Int.pow 2 63 = 9223372036854775808 := rfl
  simp only [fitsColumn, hpow, Bool.and_eq_true, decide_eq_true_eq]

/-- `pg` is page `p` of the sorted rows `sorted`, with `l` rows a page: it holds the `l`
rows from place `(p - 1) * l` on, counts them all, and says there is more exactly when
the offset and its rows fall short of the total, that is, when a row lies past it. -/
structure IsPage (sorted : List Reservation) (p l : Int) (pg : Page) : Prop where
  page : (pg.page : Int) = p
  limit : (pg.limit : Int) = l
  total : pg.total = sorted.length
  rows : pg.rows = (sorted.drop ((p - 1) * l).toNat).take l.toNat
  hasMore : pg.hasMore = decide ((p - 1) * l + pg.rows.length < pg.total)
  more : pg.hasMore = true ↔ sorted.drop (((p - 1) * l).toNat + l.toNat) ≠ []

/-- A cut of `l` elements from place `o` falls short of the whole list exactly when an
element lies past place `o + l`. -/
theorem cut_short_iff {α : Type} (s : List α) (o l : Nat) :
    o + ((s.drop o).take l).length < s.length ↔ s.drop (o + l) ≠ [] := by
  simp only [List.length_take, List.length_drop, ne_eq, List.drop_eq_nil_iff, Nat.not_le]
  omega

/-- A page of a filter that passes, sorted by a known field, whose offset and limit fit
64 bits, is the page of the rows arranged by that field. -/
theorem listPaginated_isPage {db : Database} {ctx : Context} {f : Filters}
    {keep : Reservation → Bool} (hkeep : keeps f = .ok keep) (field : SortField)
    (page limit : Int) (order : String) (hl : fitsColumn (max limit 1) = true)
    (ho : fitsColumn ((max page 1 - 1) * max limit 1) = true) :
    ∃ pg, listPaginated db ctx f page limit field.name order = .ok pg ∧
      IsPage (arranged field (order.toLower == "desc") ((db.reservationsOf ctx.tenant).filter keep))
        (max page 1) (max limit 1) pg := by
  have hpage : (max page 1).toNat = max page 1 := Int.toNat_of_nonneg (by omega)
  have hlimit : (max limit 1).toNat = max limit 1 := Int.toNat_of_nonneg (by omega)
  have hoff : ((max page 1 - 1) * max limit 1).toNat = (max page 1 - 1) * max limit 1 :=
    Int.toNat_of_nonneg (Int.mul_nonneg (by omega) (by omega))
  have hrun : listPaginated db ctx f page limit field.name order = .ok
      ⟨((arranged field (order.toLower == "desc") ((db.reservationsOf ctx.tenant).filter keep)).drop
          ((max page 1 - 1) * max limit 1).toNat).take (max limit 1).toNat,
        (max page 1).toNat, (max limit 1).toNat, ((db.reservationsOf ctx.tenant).filter keep).length,
        decide ((max page 1 - 1) * max limit 1 +
          (((arranged field (order.toLower == "desc") ((db.reservationsOf ctx.tenant).filter keep)).drop
            ((max page 1 - 1) * max limit 1).toNat).take (max limit 1).toNat).length <
          ((db.reservationsOf ctx.tenant).filter keep).length)⟩ := by
    cases field <;>
      simp only [listPaginated, hkeep, SortField.name, hl, ho, Bool.not_true, Bool.or_false] <;> rfl
  refine ⟨_, hrun, hpage, hlimit, (arranged_length _ _ _).symm, rfl, rfl, ?_⟩
  rw [decide_eq_true_iff, ← hoff,
    ← arranged_length field (order.toLower == "desc") ((db.reservationsOf ctx.tenant).filter keep),
    ← cut_short_iff]
  omega

/-! ## Refusals -/

/-- Reading a status name fails only on a name that is no status. -/
theorem parseStatus_error {s : String} {e : Fault} (h : parseStatus s = .error e) :
    Status.ofName? s = none ∧ e = .invalid (.unknownStatus s) := by
  unfold parseStatus at h
  split at h
  · cases h
  · next hnone =>
    injection h with h
    exact ⟨hnone, h.symm⟩

/-- Reading a list of status names fails only on a name that is no status. -/
theorem mapM_parseStatus_error : ∀ {names : List String} {e : Fault},
    names.mapM parseStatus = .error e → ∃ s, Status.ofName? s = none ∧ e = .invalid (.unknownStatus s)
  | [], _, h => by cases h
  | n :: ns, e, h => by
    rw [List.mapM_cons] at h
    cases hn : parseStatus n with
    | error e' =>
      rw [hn] at h
      cases h
      exact ⟨n, parseStatus_error hn⟩
    | ok _ =>
      rw [hn] at h
      cases hns : ns.mapM parseStatus with
      | error e' =>
        rw [hns] at h
        cases h
        exact mapM_parseStatus_error hns
      | ok _ => rw [hns] at h; cases h

/-- A filter fails only on a status name that is no status. -/
theorem keeps_error {f : Filters} {e : Fault} (h : keeps f = .error e) :
    ∃ s, Status.ofName? s = none ∧ e = .invalid (.unknownStatus s) := by
  unfold keeps at h
  -- only the status part can fail; an empty name or list filters nothing
  cases hs : f.status with
  | any => rw [hs] at h; cases h
  | one s =>
    rw [hs] at h
    by_cases hempty : s.isEmpty
    · simp only [hempty, ite_true] at h
      cases h
    · simp only [hempty] at h
      cases hp : parseStatus s with
      | error e' =>
        rw [hp] at h
        cases h
        exact ⟨s, parseStatus_error hp⟩
      | ok _ => rw [hp] at h; cases h
  | among names =>
    rw [hs] at h
    by_cases hempty : names.isEmpty
    · simp only [hempty, ite_true] at h
      cases h
    · simp only [hempty] at h
      cases hp : names.mapM parseStatus with
      | error e' =>
        rw [hp] at h
        cases h
        exact mapM_parseStatus_error hp
      | ok _ => rw [hp] at h; cases h

/-- A filter that fails refuses the listing, whatever page is asked for. -/
theorem listPaginated_of_keeps_error {db : Database} {ctx : Context} {f : Filters} {e : Fault}
    (h : keeps f = .error e) (page limit : Int) (field order : String) :
    listPaginated db ctx f page limit field order = .error e := by
  simp only [listPaginated, h]
  rfl

/-- A sort field other than `date` and `created_at` is refused. -/
theorem listPaginated_unsupported {db : Database} {ctx : Context} {f : Filters}
    {keep : Reservation → Bool} (hkeep : keeps f = .ok keep) {field : String}
    (hfield : ∀ sf : SortField, sf.name ≠ field) (page limit : Int) (order : String) :
    listPaginated db ctx f page limit field order = .error (.invalid (.unsupportedSortField field)) := by
  have hdate : field ≠ "date" := fun h => hfield .date h.symm
  have hcreated : field ≠ "created_at" := fun h => hfield .createdAt h.symm
  simp only [listPaginated, hkeep]
  rfl

/-! ## All pages -/

/-- Joining the first `k` cuts of `l` elements gives the first `k * l` elements. -/
theorem flatMap_cuts {α : Type} (s : List α) (l : Nat) :
    ∀ k, ((List.range k).flatMap fun i => (s.drop (i * l)).take l) = s.take (k * l)
  | 0 => by simp
  | k + 1 => by
    rw [List.range_succ, List.flatMap_append, flatMap_cuts s l k, List.flatMap_singleton,
      Nat.succ_mul, List.take_add]

/-- Answers that all come back give one value per request, related to it as each answer
is. -/
theorem mapM_of_ok {α β : Type} {g : α → Except Fault β} {P : α → β → Prop} :
    ∀ xs : List α, (∀ x ∈ xs, ∃ y, g x = .ok y ∧ P x y) →
      ∃ ys, xs.mapM g = .ok ys ∧ List.Forall₂ P xs ys
  | [], _ => ⟨[], rfl, .nil⟩
  | x :: xs, h => by
    obtain ⟨y, hy, hP⟩ := h x List.mem_cons_self
    obtain ⟨ys, hys, hPs⟩ := mapM_of_ok xs fun x' hx' => h x' (List.mem_cons_of_mem x hx')
    refine ⟨y :: ys, ?_, .cons hP hPs⟩
    rw [List.mapM_cons, hy, hys]
    rfl

/-- Pages that are cuts of one list, one after another, join back to the cuts. -/
theorem flatMap_rows_of_forall₂ {xs : List Nat} {pages : List Page} {cut : Nat → List Reservation}
    (h : List.Forall₂ (fun i pg => pg.rows = cut i) xs pages) :
    pages.flatMap (·.rows) = xs.flatMap cut := by
  induction h with
  | nil => rfl
  | cons hrow _ ih => rw [List.flatMap_cons, List.flatMap_cons, hrow, ih]

/-- Pages `1` to `⌈n / l⌉` of `n` sorted rows, with `l` rows a page, give back the sorted
rows. -/
theorem pages_join {db : Database} {ctx : Context} {f : Filters} {keep : Reservation → Bool}
    (hkeep : keeps f = .ok keep) (field : SortField) (order : String) {limit : Int}
    (hl : fitsColumn (max limit 1) = true)
    (hn : fitsColumn (arranged field (order.toLower == "desc")
      ((db.reservationsOf ctx.tenant).filter keep)).length = true) :
    let sorted := arranged field (order.toLower == "desc") ((db.reservationsOf ctx.tenant).filter keep)
    ∃ pages, ((List.range ((sorted.length + (max limit 1).toNat - 1) / (max limit 1).toNat)).mapM
        fun i : Nat => listPaginated db ctx f (i + 1) limit field.name order) = .ok pages ∧
      pages.flatMap (·.rows) = sorted := by
  intro sorted
  have hL : ((max limit 1).toNat : Int) = max limit 1 := Int.toNat_of_nonneg (by omega)
  have hLpos : 0 < (max limit 1).toNat := by omega
  have hnfit : -9223372036854775808 ≤ (sorted.length : Int) ∧
      (sorted.length : Int) < 9223372036854775808 := fitsColumn_iff.mp hn
  obtain ⟨pages, hpages, hrel⟩ := @mapM_of_ok Nat Page
    (fun i => listPaginated db ctx f (i + 1) limit field.name order)
    (fun i pg => pg.rows = (sorted.drop (i * (max limit 1).toNat)).take (max limit 1).toNat)
    (List.range ((sorted.length + (max limit 1).toNat - 1) / (max limit 1).toNat)) (by
      intro i hi
      -- every page up to the last starts inside the rows, so its offset fits
      have hstart : i * (max limit 1).toNat < sorted.length := by
        have := (Nat.le_div_iff_mul_le hLpos).mp (Nat.succ_le_of_lt (List.mem_range.mp hi))
        rw [Nat.succ_mul] at this
        omega
      have hoff : (max ((i : Int) + 1) 1 - 1) * max limit 1 = ((i * (max limit 1).toNat : Nat) : Int) := by
        have hpage : max ((i : Int) + 1) 1 - 1 = i := by omega
        rw [Int.natCast_mul, hL, hpage]
      have hfit : fitsColumn ((max ((i : Int) + 1) 1 - 1) * max limit 1) = true := by
        rw [hoff, fitsColumn_iff]
        omega
      obtain ⟨pg, hpg, hpage⟩ := listPaginated_isPage hkeep field (i + 1) limit order hl hfit
      exact ⟨pg, hpg, by rw [hpage.rows, hoff, Int.toNat_natCast]⟩)
  refine ⟨pages, hpages, ?_⟩
  rw [flatMap_rows_of_forall₂ hrel, flatMap_cuts, List.take_of_length_le]
  -- the last page ends at or past the last row
  have hdiv := Nat.div_add_mod (sorted.length + (max limit 1).toNat - 1) (max limit 1).toNat
  have hmod := Nat.mod_lt (sorted.length + (max limit 1).toNat - 1) hLpos
  rw [Nat.mul_comm]
  omega

/-! ## The listing's pages -/

/-- What the pages of every listing of a database are. A filter naming an unknown status
refuses the listing whatever is asked; with a filter that passes, a sort field other than
`date` and `created_at` is refused, and for either of the two there is one sorted
listing of the tenant's reservations that pass: each once, strictly ascending by the
field, or strictly descending when the order reads `desc` in any case. Every page whose
offset and limit fit 64 bits is a cut of that listing, and pages `1` to `⌈total / l⌉`
join back to it. -/
structure ListingPages (db : Database) : Prop where
  badFilter : ∀ ctx f e, keeps f = .error e →
    (∃ s, Status.ofName? s = none ∧ e = .invalid (.unknownStatus s)) ∧
    ∀ page limit field order, listPaginated db ctx f page limit field order = .error e
  badField : ∀ ctx f keep, keeps f = .ok keep → ∀ field, (∀ sf : SortField, sf.name ≠ field) →
    ∀ page limit order,
      listPaginated db ctx f page limit field order = .error (.invalid (.unsupportedSortField field))
  pages : ∀ ctx f keep, keeps f = .ok keep → ∀ (sf : SortField) (order : String), ∃ sorted,
    SortedBy sf (order.toLower == "desc") ((db.reservationsOf ctx.tenant).filter keep) sorted ∧
    (∀ page limit, fitsColumn (max limit 1) = true →
      fitsColumn ((max page 1 - 1) * max limit 1) = true →
      ∃ pg, listPaginated db ctx f page limit sf.name order = .ok pg ∧
        IsPage sorted (max page 1) (max limit 1) pg) ∧
    (∀ limit, fitsColumn (max limit 1) = true → fitsColumn sorted.length = true →
      ∃ pages, ((List.range ((sorted.length + (max limit 1).toNat - 1) / (max limit 1).toNat)).mapM
          fun i : Nat => listPaginated db ctx f (i + 1) limit sf.name order) = .ok pages ∧
        pages.flatMap (·.rows) = sorted)

end Reservations

open Reservations

/-- In every reachable database the pages of a listing are cuts of one sorted listing of
the reservations that pass its filter, and together they give each of them once. -/
theorem Reachable.listingPages {db : Database} (hdb : Reachable db) : ListingPages db where
  badFilter _ _ _ h := ⟨keeps_error h, listPaginated_of_keeps_error h⟩
  badField _ _ _ hkeep _ hfield := listPaginated_unsupported hkeep hfield
  pages ctx f keep hkeep sf order := by
    -- the rows that pass are some of the stored ones, whose ids are distinct
    have hsub : ((db.reservationsOf ctx.tenant).filter keep).Sublist db.reservations :=
      List.filter_sublist.trans List.filter_sublist
    have hids : (((db.reservationsOf ctx.tenant).filter keep).map (·.id)).Nodup :=
      List.Pairwise.sublist (hsub.map _) hdb.consistent.ids
    exact ⟨_, arranged_sortedBy sf _ hids,
      fun page limit hl ho => listPaginated_isPage hkeep sf page limit order hl ho,
      fun _ hl hn => pages_join hkeep sf order hl hn⟩

private def pageDay : Date := ⟨epochDayNumber + 20810, by decide, by decide⟩
private def pageCtx : Context := ⟨⟨1⟩, none⟩

/-- An hour's cut for practitioner 3 on the day, from `start` to `stop`. -/
private def pageDraft (start stop : TimeOfDay) : Draft :=
  { practitioner := ⟨3⟩, customer := some ⟨4⟩, date := pageDay, start, stop,
    items := some ⟨[⟨⟨2⟩, "Cut", 4000, 60, 0, true⟩], []⟩ }

/-- Three hours of one evening in UTC, written out of order: from half past twenty, from
half past nineteen, then from half past twenty-one, under ids 1, 2 and 3. -/
private def threeHourTable : Database :=
  (Call.create pageCtx (pageDraft ⟨77400000000, by decide⟩ ⟨81000000000, by decide⟩)
    (some "UTC")).after
  ((Call.create pageCtx (pageDraft ⟨70200000000, by decide⟩ ⟨73800000000, by decide⟩)
    (some "UTC")).after
  ((Call.create pageCtx (pageDraft ⟨73800000000, by decide⟩ ⟨77400000000, by decide⟩)
    (some "UTC")).after { clock := ⟨⟨pageDay, ⟨28800000000, by decide⟩⟩, 0⟩ }))

set_option maxRecDepth 20000 in
/-- Listed one a page, the three reservations give a middle page: page 2 holds one row, the
second of the sorted listing, counts all three and says more follow. -/
theorem three_hour_listing_pages :
    Reachable threeHourTable ∧ ListingPages threeHourTable ∧
      threeHourTable.reservations.map (·.id) = [⟨1⟩, ⟨2⟩, ⟨3⟩] ∧
      ∃ (sorted : List Reservation) (pg : Page), sorted.length = 3 ∧
        listPaginated threeHourTable pageCtx {} 2 1 "date" "asc" = .ok pg ∧
        pg.rows = (sorted.drop 1).take 1 ∧ pg.rows.length = 1 ∧ pg.total = 3 ∧
        pg.hasMore = true := by
  have hreach : Reachable threeHourTable := .step _ (.step _ (.step _ (.init _ rfl)))
  have hids : threeHourTable.reservations.map (·.id) = [⟨1⟩, ⟨2⟩, ⟨3⟩] := by decide
  have hpages := Reachable.listingPages hreach
  have hkeep : keeps ({} : Filters) = .ok _ := rfl
  obtain ⟨sorted, ⟨hperm, -⟩, hpage, -⟩ := hpages.pages pageCtx {} _ hkeep .date "asc"
  -- every row of the table is the tenant's and passes the empty filter
  have hlen : sorted.length = 3 := by
    rw [hperm.length_eq]
    decide
  obtain ⟨pg, hpg, hp⟩ := hpage 2 1 (by decide) (by decide)
  have hrows : pg.rows = (sorted.drop 1).take 1 := hp.rows
  have hmore : pg.hasMore = true := hp.more.mpr (by
    rw [Ne, List.drop_eq_nil_iff, hlen]
    decide)
  refine ⟨hreach, hpages, hids, sorted, pg, hlen, hpg, hrows, ?_, by rw [hp.total, hlen], hmore⟩
  simp [hrows, hlen]

/-- A filter on a status that does not exist returns no page, not even an empty one: the
listing is refused. -/
theorem unknown_status_listing_refused :
    Reachable { clock := ⟨⟨⟨epochDayNumber + 20810, by decide, by decide⟩, ⟨46800000000, by decide⟩⟩, 0⟩ } ∧
      listPaginated
        { clock := ⟨⟨⟨epochDayNumber + 20810, by decide, by decide⟩, ⟨46800000000, by decide⟩⟩, 0⟩ }
        ⟨⟨1⟩, none⟩ { status := .one "nope" } 1 20 "date" "asc" =
        .error (.invalid (.unknownStatus "nope")) :=
  ⟨.init _ rfl, rfl⟩

end SalonBooking
