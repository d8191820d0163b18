import SalonBooking.Proofs.Consistency

/-!
Invariants of the stored reservations, and what each write stores exactly.

An invariant of the reservation rows that the four store writes keep is kept by
every call (`Call.keeps`): a booking flow only reads before its one store write, and
the audit entry and the booking links it writes after that touch no reservation.

The exact forms: a write that creates a reservation stores the draft applied to a new
row with the next id, after no reservation of the tenant was found with its key
(`insertOrReplay_creates`); an update puts back the reservation it read with the
draft applied, and with the draft's menus and options when it replaces them
(`replace_rewrites`).
-/

namespace SalonBooking

open SalonBooking.Calendar Op Database Reservations

namespace Op

section Runs

variable {β : Type} {ok₁ ok₂ : β → Database → Prop} {err₁ err₂ : Fault → Database → Prop}
  {db : Database}

/-- Two statements about how one run ends hold together. -/
theorem wp_and {x : Op β} (h₁ : wp x ok₁ err₁ db) (h₂ : wp x ok₂ err₂ db) :
    wp x (fun b db' => ok₁ b db' ∧ ok₂ b db') (fun e db' => err₁ e db' ∧ err₂ e db') db := by
  unfold wp at h₁ h₂ ⊢
  cases hrun : x.run db with
  | ok b db' => rw [hrun] at h₁ h₂; exact ⟨h₁, h₂⟩
  | error e db' => rw [hrun] at h₁ h₂; exact ⟨h₁, h₂⟩

/-- A run whose every end is the answer `b` leaving `db'` is that answer. -/
theorem run_eq_ok {x : Op β} {b : β} {db' : Database}
    (h : wp x (fun b₁ db₁ => b₁ = b ∧ db₁ = db') (fun _ _ => False) db) :
    x.run db = .ok b db' := by
  unfold wp at h
  split at h
  · next b₁ db₁ hrun =>
    rw [hrun, h.1, h.2]
  · exact h.elim

end Runs

/-- `x` keeps `I`: run from a database where `I` holds, it leaves one where `I` holds,
whether it returns or fails. -/
def Keeps {α : Type} (I : Database → Prop) (x : Op α) : Prop :=
  ∀ db, I db → wp x (fun _ => I) (fun _ => I) db

/-- A property of the reservations alone, which no id given out and no clock reading
changes. -/
def RowInvariant (I : Database → Prop) : Prop :=
  ∀ db db', db'.reservations = db.reservations → db.issued ≤ db'.issued → I db → I db'

section Keeps

variable {α β : Type} {I : Database → Prop}

theorem Keeps.bind {x : Op α} {f : α → Op β} (hx : Keeps I x) (hf : ∀ a, Keeps I (f a)) :
    Keeps I (x >>= f) := by
  intro db hdb
  rw [wp_bind]
  exact wp_mono (hx db hdb) (fun a db' h => hf a db' h) fun _ _ h => h

theorem keeps_pure (b : β) : Keeps I (pure b : Op β) := fun _ h => h

theorem ReadsOnly.keeps (hI : RowInvariant I) {x : Op α} (hx : ReadsOnly x) : Keeps I x :=
  fun _ hdb => hx.wp (fun _ _ h => hI _ _ h.reservations_eq h.1 hdb)
    fun _ _ h => hI _ _ h.reservations_eq h.1 hdb

theorem keeps_record (hI : RowInvariant I) (tenant : Uuid) (actor : Actor)
    (action resourceType : String) (resource : Option Uuid) (before after : Json) :
    Keeps I (Database.record tenant actor action resourceType resource before after) :=
  fun _ hdb => record_keeps tenant actor action resourceType resource before after
    fun _ hrows _ hle => hI _ _ hrows hle hdb

end Keeps

end Op

/-- The four writes of the reservation store, for one invariant. -/
structure StoreKeeps (I : Database → Prop) : Prop where
  rows : RowInvariant I
  insert : ∀ ctx d timezone, Keeps I (insertOrReplay ctx d timezone)
  replace : ∀ ctx id d timezone replaceItems, Keeps I (replace ctx id d timezone replaceItems)
  setStatus : ∀ ctx id target reason, Keeps I (updateStatus ctx id target reason)
  remind : ∀ ctx id, Keeps I (markReminderSent ctx id)

namespace StoreKeeps

variable {I : Database → Prop} (h : StoreKeeps I)
include h

theorem book (ctx : Context) (req : BookingRequest) (actor : Actor)
    (enforcePolicy includeInactive : Bool) (now : Option Stamp) :
    Keeps I (Booking.book ctx req actor enforcePolicy includeInactive now) := by
  unfold Booking.book
  refine ((Booking.readsOnly_bookingDraft ctx req enforcePolicy includeInactive now).keeps h.rows).bind
    fun ⟨store, policy, draft⟩ => (h.insert _ draft _).bind fun ⟨r, created⟩ => ?_
  -- a replayed reservation is answered without an audit entry
  dsimp only
  split
  · exact (keeps_record h.rows _ _ _ _ _ _ _).bind fun _ => keeps_pure r
  · exact keeps_pure r

theorem reschedule (ctx : Context) (id : Uuid) (req : BookingRequest) (actor : Actor)
    (enforcePolicy : Bool) (customer : Option Uuid) (includeInactive : Bool) (now : Option Stamp) :
    Keeps I (Booking.reschedule ctx id req actor enforcePolicy customer includeInactive now) :=
  ((Booking.readsOnly_reschedulingDraft ctx id req enforcePolicy customer includeInactive now).keeps
    h.rows).bind fun _ => (h.replace _ id _ _ true).bind fun _ =>
      (keeps_record h.rows _ _ _ _ _ _ _).bind fun _ => keeps_pure _

theorem changeStatus (ctx : Context) (id : Uuid) (status : String) (actor : Actor)
    (reason : Option String) : Keeps I (Booking.changeStatus ctx id status actor reason) :=
  ((readsOnly_fetch ctx id).keeps h.rows).bind fun _ => (h.setStatus ctx id status reason).bind
    fun _ => (keeps_record h.rows _ _ _ _ _ _ _).bind fun _ => keeps_pure _

theorem cancel (ctx : Context) (id : Uuid) (actor : Actor) (reason : Option String)
    (enforcePolicy : Bool) (customer : Option Uuid) (now : Option Stamp) :
    Keeps I (Booking.cancel ctx id actor reason enforcePolicy customer now) :=
  ((Booking.readsOnly_cancellation ctx id enforcePolicy customer now).keeps h.rows).bind fun _ =>
    (h.setStatus ctx id "canceled" reason).bind fun _ =>
      (keeps_record h.rows _ _ _ _ _ _ _).bind fun _ => keeps_pure _

/-- A change to the booking links touches no reservation. -/
theorem links {α : Type} {x : Op α} (hx : ∀ db, wp x (fun _ => Stepped .keeps db) (fun _ => SameRows db) db) :
    Keeps I x := by
  intro db hdb
  refine wp_mono (hx db) (fun _ db' hs => ?_) fun _ _ hs => h.rows _ _ hs.reservations_eq hs.1 hdb
  obtain ⟨hle, hc⟩ := hs
  -- the only row change a call with no reservation effect may make is none
  cases hc with
  | keep _ rows => exact h.rows _ _ rows hle hdb

end StoreKeeps

/-- Every call keeps an invariant of the reservations that the four store writes keep. -/
theorem Call.keeps {I : Database → Prop} (h : StoreKeeps I) (c : Call) : Keeps I c.run := by
  cases c with
  | create ctx d timezone => exact (h.insert ctx d timezone).bind fun _ => keeps_pure ()
  | update ctx id d timezone replaceItems =>
    exact (h.replace ctx id d timezone replaceItems).bind fun _ => keeps_pure ()
  | setStatus ctx id target reason => exact (h.setStatus ctx id target reason).bind fun _ => keeps_pure ()
  | remind ctx id => exact (h.remind ctx id).bind fun _ => keeps_pure ()
  | book ctx req actor enforcePolicy includeInactive now =>
    exact (h.book ctx req actor enforcePolicy includeInactive now).bind fun _ => keeps_pure ()
  | reschedule ctx id req actor enforcePolicy customer includeInactive now =>
    exact (h.reschedule ctx id req actor enforcePolicy customer includeInactive now).bind
      fun _ => keeps_pure ()
  | changeStatus ctx id status actor reason =>
    exact (h.changeStatus ctx id status actor reason).bind fun _ => keeps_pure ()
  | cancel ctx id actor reason enforcePolicy customer now =>
    exact (h.cancel ctx id actor reason enforcePolicy customer now).bind fun _ => keeps_pure ()
  | issueLink ctx practitioner createdBy store expiresAt reissue allowMultiple src =>
    exact (h.links (Link.issue_stepped ctx practitioner createdBy store expiresAt reissue
      allowMultiple src)).bind fun _ => keeps_pure ()
  | revokeLink ctx id => exact (h.links (Link.revoke_stepped ctx id)).bind fun _ => keeps_pure ()

/-- What a call leaves keeps an invariant that the call keeps. -/
theorem Call.after_keeps {I : Database → Prop} (h : StoreKeeps I) (c : Call) {db : Database}
    (hdb : I db) : I (c.after db) :=
  leaves_of_wp (c.keeps h db hdb)

/-- A property `J` of the reservations that each store write keeps when it returns from
a consistent database holds, together with consistency, after every call. -/
theorem StoreKeeps.of_consistent {J : Database → Prop} (hJ : RowInvariant J)
    (hinsert : ∀ ctx d timezone db, Consistent db → J db →
      wp (insertOrReplay ctx d timezone) (fun _ => J) (fun _ _ => True) db)
    (hreplace : ∀ ctx id d timezone replaceItems db, Consistent db → J db →
      wp (Reservations.replace ctx id d timezone replaceItems) (fun _ => J) (fun _ _ => True) db)
    (hstatus : ∀ ctx id target reason db, Consistent db → J db →
      wp (updateStatus ctx id target reason) (fun _ => J) (fun _ _ => True) db)
    (hremind : ∀ ctx id db, Consistent db → J db →
      wp (markReminderSent ctx id) (fun _ => J) (fun _ _ => True) db) :
    StoreKeeps fun db => Consistent db ∧ J db := by
  -- a failed write leaves the rows, and a returning one is a row change that keeps consistency
  have both : ∀ {α : Type} {x : Op α} {e : Effect} {db : Database}, Consistent db → J db →
      wp x (fun _ => Stepped e db) (fun _ => SameRows db) db → wp x (fun _ => J) (fun _ _ => True) db →
      wp x (fun _ db' => Consistent db' ∧ J db') (fun _ db' => Consistent db' ∧ J db') db :=
    fun hc hj hs hok => wp_mono (wp_and hs hok) (fun _ _ h => ⟨hc.stepped h.1, h.2⟩)
      fun _ _ h => ⟨hc.keep h.1.reservations_eq h.1.1, hJ _ _ h.1.reservations_eq h.1.1 hj⟩
  refine ⟨fun db db' hrows hle h => ⟨h.1.keep hrows hle, hJ _ _ hrows hle h.2⟩, ?_, ?_, ?_, ?_⟩
  · intro ctx d timezone db ⟨hc, hj⟩
    exact both hc hj (insertOrReplay_stepped ctx db d timezone) (hinsert ctx d timezone db hc hj)
  · intro ctx id d timezone replaceItems db ⟨hc, hj⟩
    exact both hc hj (replace_stepped ctx db id d timezone replaceItems)
      (hreplace ctx id d timezone replaceItems db hc hj)
  · intro ctx id target reason db ⟨hc, hj⟩
    exact both hc hj (updateStatus_stepped ctx db id target reason)
      (hstatus ctx id target reason db hc hj)
  · intro ctx id db ⟨hc, hj⟩
    exact both hc hj (markReminderSent_stepped ctx db id) (hremind ctx id db hc hj)

/-- A property that holds of an empty reservation table and that every call keeps
holds of every reachable database. -/
theorem Reachable.holds {J : Database → Prop} (h : StoreKeeps fun db => Consistent db ∧ J db)
    (hinit : ∀ db : Database, db.reservations = [] → J db) {db : Database} (hr : Reachable db) :
    J db := by
  have hboth : Consistent db ∧ J db := by
    induction hr with
    | init db empty => exact ⟨consistent_of_empty empty, hinit db empty⟩
    | step c _ ih => exact Call.after_keeps h c ih
  exact hboth.2

/-! ## What the writes store -/

namespace Reservations

/-- No reservation of tenant `t` carries the key `key`, if there is one. -/
def KeyFree (db : Database) (t : Uuid) (key : Option String) : Prop :=
  ∀ k, key = some k → ∀ x ∈ db.reservations, x.tenant = t → x.idempotencyKey ≠ some k

/-- The storage checks of a new row pass only when no reservation of the tenant holds
its key; they write nothing. -/
theorem checkRow_keyFree (ctx : Context) (r : Reservation) (customer : Option Uuid)
    (key : Option String) (db : Database) :
    wp (checkRow ctx r customer key none) (fun _ db' => db' = db ∧ KeyFree db ctx.tenant key)
      (fun _ _ => True) db := by
  cases key with
  | none =>
    simp [checkRow, KeyFree]
  | some k =>
    simp only [checkRow, wp_bind, wp_checkColumns, wp_ite, wp_throw, wp_pure, wp_get]
    split
    · split
      · trivial
      · split
        · trivial
        · -- no reservation of the tenant was found with the key
          next hfound =>
          refine ⟨trivial, fun k' hk x hx ht hkey => hfound ?_⟩
          cases hk
          simp only [List.any_eq_true]
          exact ⟨x, by simp [Database.reservationsOf, hx, ht], by simp [hkey]⟩
    · trivial

/-- The transaction of an insert stores the drafted row, stamped, only when no
reservation of the tenant holds its key. -/
theorem insertRow_stores (ctx : Context) (d : Draft) (items : Selection) (drafted : Reservation)
    (db : Database) :
    wp (insertRow ctx d items drafted)
      (fun r db' => ∃ stamp, r = { drafted with createdAt := stamp, updatedAt := stamp } ∧
        KeyFree db ctx.tenant d.idempotencyKey ∧ db'.reservations = db.reservations ++ [r])
      (fun _ _ => True) db := by
  simp only [insertRow, wp_bind, wp_ensureNoOverlap]
  split
  · trivial
  · rw [wp_now]
    split
    · next stamp _ =>
      rw [wp_bind]
      refine wp_mono (checkRow_keyFree ctx _ d.customer d.idempotencyKey _) ?_ fun _ _ _ => trivial
      rintro _ db₁ ⟨rfl, hfree⟩
      simp only [wp_bind, wp_checkColumns, wp_modify, wp_pure]
      split
      · exact ⟨stamp, rfl, hfree, trivial⟩
      · trivial
    · trivial

/-- A write that creates a reservation stores the draft, whose checks passed, applied
to a new row with the next id and stamped; no reservation of the tenant held its key. -/
theorem insertOrReplay_creates (ctx : Context) (d : Draft) (timezone : Option String)
    (db : Database) :
    wp (insertOrReplay ctx d timezone)
      (fun res db' => res.2 = true → ∃ items status a b drafted stamp,
        checkDraft d ((nonEmpty timezone).getD defaultZone) = .ok (items, status, a, b) ∧
        applyDraft (newRow ctx d items status ((nonEmpty timezone).getD defaultZone) a b
          ⟨db.issued + 1⟩) d (d.customer.getD ⟨0⟩) ((nonEmpty timezone).getD defaultZone) a b =
          .ok drafted ∧
        res.1 = { drafted with createdAt := stamp, updatedAt := stamp } ∧
        KeyFree db ctx.tenant d.idempotencyKey ∧ db'.reservations = db.reservations ++ [res.1])
      (fun _ _ => True) db := by
  simp only [insertOrReplay, wp_bind, wp_lift]
  cases hcheck : checkDraft d ((nonEmpty timezone).getD defaultZone) with
  | error e => trivial
  | ok v =>
    obtain ⟨items, status, a, b⟩ := v
    simp only [wp_get]
    cases hreplay : replayOf db ctx d.idempotencyKey with
    | some r => exact fun h => absurd h Bool.false_ne_true
    | none =>
      simp only [wp_bind, wp_freshId, wp_lift]
      cases hdraft : applyDraft (newRow ctx d items status ((nonEmpty timezone).getD defaultZone) a b
          ⟨db.issued + 1⟩) d (d.customer.getD ⟨0⟩) ((nonEmpty timezone).getD defaultZone) a b with
      | error e => trivial
      | ok drafted =>
        simp only [wp_transaction]
        refine wp_mono (insertRow_stores ctx d items drafted _) ?_ fun _ _ _ => trivial
        rintro r db' ⟨stamp, rfl, hfree, hrows⟩ -
        exact ⟨items, status, a, b, drafted, stamp, rfl, hdraft, rfl, hfree, hrows⟩

/-- The writes of an update put back the draft applied to `r`, stamped, with the
draft's menus and options when it has them. -/
theorem rewriteRow_stores (ctx : Context) (r : Reservation) (d : Draft) (zone : String)
    (a b : DateTime) (db : Database) :
    wp (rewriteRow ctx r d zone a b)
      (fun r' db' => ∃ r₁ stamp, applyDraft r d (d.customer.getD r.customer) zone a b = .ok r₁ ∧
        r' = { r₁ with
          menuItems := (d.items.map (·.menus)).getD r₁.menuItems,
          optionItems := (d.items.map (·.options)).getD r₁.optionItems,
          updatedAt := stamp } ∧
        db'.reservations = (db.putReservation r').reservations)
      (fun _ _ => True) db := by
  simp only [rewriteRow, wp_bind, wp_lift]
  cases hdraft : applyDraft r d (d.customer.getD r.customer) zone a b with
  | error e => trivial
  | ok r₁ =>
    refine checkRow_wp ctx r₁ d.customer none (some r.id) ?_ fun _ _ => trivial
    rw [wp_bind, wp_now]
    split
    · next stamp _ =>
      cases d.items with
      | some s =>
        simp only [wp_bind, wp_checkColumns, wp_modify, wp_pure]
        split
        · exact ⟨r₁, stamp, rfl, rfl, rfl⟩
        · trivial
      | none =>
        simp only [wp_bind, wp_pure, wp_modify]
        exact ⟨r₁, stamp, rfl, rfl, rfl⟩
    · trivial

/-- An update that returns read a live reservation `r` of the tenant, found the slot's
period in the zone it resolves, and put back `r` rewritten from the draft, whose menus
and options replace `r`'s only when the update replaces them. -/
theorem replace_rewrites (ctx : Context) (id : Uuid) (d : Draft) (timezone : Option String)
    (replaceItems : Bool) (db : Database) :
    wp (replace ctx id d timezone replaceItems)
      (fun r' db' => ∃ r a b r₁ stamp, db.reservation? ctx.tenant id = some r ∧
        r.status.isTerminal = false ∧ (replaceItems = true → hasMenus d.items = true) ∧
        Policy.readingPeriod d.date ⟨d.start, d.startOffset⟩ ⟨d.stop, none⟩
          (replaceZone timezone r) = .ok (a, b) ∧
        applyDraft r (if replaceItems then d else { d with items := none })
          (d.customer.getD r.customer) (replaceZone timezone r) a b = .ok r₁ ∧
        r' = { r₁ with
          menuItems := ((if replaceItems then d.items else none).map (·.menus)).getD r₁.menuItems,
          optionItems := ((if replaceItems then d.items else none).map (·.options)).getD
            r₁.optionItems,
          updatedAt := stamp } ∧
        db'.reservations = (db.putReservation r').reservations)
      (fun _ _ => True) db := by
  simp only [replace, wp_bind, wp_ite, wp_throw, wp_transaction, wp_fetch]
  split
  · trivial
  · next hmenus =>
    cases hfetch : db.reservation? ctx.tenant id with
    | none => trivial
    | some r =>
      simp only
      split
      · trivial
      · next hlive =>
        simp only [wp_bind, wp_lift]
        cases hperiod : Policy.readingPeriod d.date ⟨d.start, d.startOffset⟩ ⟨d.stop, none⟩
            (replaceZone timezone r) with
        | error e => trivial
        | ok ab =>
          obtain ⟨a, b⟩ := ab
          simp only [wp_ensureNoOverlap]
          split
          · trivial
          · refine wp_mono (rewriteRow_stores ctx r _ (replaceZone timezone r) a b _) ?_
              fun _ _ _ => trivial
            rintro r' db' ⟨r₁, stamp, hdraft, hr', hrows⟩
            refine ⟨r, a, b, r₁, stamp, rfl, by simpa using hlive, ?_, hperiod, ?_, ?_, hrows⟩
            · intro h
              simpa [h] using hmenus
            · cases replaceItems <;> exact hdraft
            · cases replaceItems <;> exact hr'

end Reservations

end SalonBooking
