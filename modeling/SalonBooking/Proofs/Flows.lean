import SalonBooking.Proofs.StoreWrites
import SalonBooking.Booking
import SalonBooking.Link.Service

/-!
The booking flows and the link service, summed up as the store writes are. A flow first
reads: it finds the store, the practitioner, the customer and the menus, and checks the
policy. Reading writes no row, so a flow changes the reservations only as the one store
write it ends with does, and the audit entry after that touches no reservation.

`Stepped e db db'` is what a call with effect `e` that returns may leave: more ids
given out and the reservations changed as one `RowChange` of that effect allows.
-/

namespace SalonBooking

open SalonBooking.Calendar Op Database Reservations

namespace Op

/-- `x` writes no row: every run of it leaves the rows it started from. -/
def ReadsOnly {α : Type} (x : Op α) : Prop :=
  ∀ db, wp x (fun _ => SameRows db) (fun _ => SameRows db) db

section ReadsOnly

variable {α β : Type} {ok : β → Database → Prop} {err : Fault → Database → Prop} {db : Database}

theorem ReadsOnly.wp {x : Op β} (hx : ReadsOnly x) (hok : ∀ b db', SameRows db db' → ok b db')
    (herr : ∀ e db', SameRows db db' → err e db') : Op.wp x ok err db :=
  wp_mono (hx db) hok herr

/-- A read followed by the rest: the rest starts from the rows the read started from. -/
theorem ReadsOnly.wp_bind {x : Op α} {f : α → Op β} (hx : ReadsOnly x)
    (hf : ∀ a db₁, SameRows db db₁ → Op.wp (f a) ok err db₁)
    (herr : ∀ e db₁, SameRows db db₁ → err e db₁) : Op.wp (x >>= f) ok err db := by
  rw [Op.wp_bind]
  exact hx.wp hf herr

theorem ReadsOnly.bind {x : Op α} {f : α → Op β} (hx : ReadsOnly x) (hf : ∀ a, ReadsOnly (f a)) :
    ReadsOnly (x >>= f) := by
  intro db
  refine hx.wp_bind (fun a db₁ h₁ => ?_) (fun _ _ h => h)
  exact (hf a).wp (fun _ _ h₂ => h₁.trans h₂) (fun _ _ h₂ => h₁.trans h₂)

theorem readsOnly_pure (b : β) : ReadsOnly (pure b : Op β) := fun db => SameRows.refl db

theorem readsOnly_throw (e : Fault) : ReadsOnly (throw e : Op β) := fun db => SameRows.refl db

/-- A refusal ends the run where it stands, whatever was to follow. -/
theorem readsOnly_throw_bind (e : Fault) (f : α → Op β) : ReadsOnly (throw e >>= f) := by
  intro db
  rw [Op.wp_bind, wp_throw]
  exact SameRows.refl db

theorem readsOnly_get : ReadsOnly (get : Op Database) := fun db => SameRows.refl db

theorem readsOnly_lift (x : Except Fault β) : ReadsOnly (liftM x : Op β) := by
  intro db
  cases x <;> exact SameRows.refl db

theorem readsOnly_now : ReadsOnly Database.now := by
  intro db
  rw [wp_now]
  split <;> exact sameRows_clock db _

/-- Reads made one after another over a list read only. -/
theorem readsOnly_mapM {f : α → Op β} (hf : ∀ a, ReadsOnly (f a)) :
    ∀ xs : List α, ReadsOnly (xs.mapM f)
  | [] => readsOnly_pure []
  | x :: xs => by
    rw [List.mapM_cons]
    exact (hf x).bind fun b => (readsOnly_mapM hf xs).bind fun bs => readsOnly_pure (b :: bs)

end ReadsOnly

/-- The reservations of `db'` are those of `db`, and no id was taken back. -/
def ReservationsKept (db db' : Database) : Prop :=
  db'.reservations = db.reservations ∧ db.issued ≤ db'.issued

/-- `x` may write links and the audit trail, never a reservation. -/
def KeepsReservations {α : Type} (x : Op α) : Prop :=
  ∀ db, wp x (fun _ => ReservationsKept db) (fun _ => ReservationsKept db) db

section KeepsReservations

variable {α β : Type}

theorem ReadsOnly.keepsReservations {x : Op α} (hx : ReadsOnly x) : KeepsReservations x :=
  fun _ => hx.wp (fun _ _ h => ⟨h.reservations_eq, h.1⟩) fun _ _ h => ⟨h.reservations_eq, h.1⟩

theorem KeepsReservations.bind {x : Op α} {f : α → Op β} (hx : KeepsReservations x)
    (hf : ∀ a, KeepsReservations (f a)) : KeepsReservations (x >>= f) := by
  intro db
  rw [Op.wp_bind]
  refine wp_mono (hx db) (fun a db₁ h₁ => ?_) fun _ _ h => h
  refine wp_mono (hf a db₁) ?_ ?_ <;>
    exact fun _ _ h₂ => ⟨h₂.1.trans h₁.1, Nat.le_trans h₁.2 h₂.2⟩

theorem keepsReservations_modify {f : Database → Database}
    (hf : ∀ db, (f db).reservations = db.reservations ∧ db.issued ≤ (f db).issued) :
    KeepsReservations (modify f) :=
  fun db => hf db

theorem keepsReservations_freshId : KeepsReservations Database.freshId :=
  fun _ => ⟨rfl, Nat.le_succ _⟩

end KeepsReservations

end Op

namespace Reservations

/-- `db'` is what a call with effect `e` that returned may leave from `db`: more ids
given out, and the reservations changed as one `RowChange` of effect `e`. -/
def Stepped (e : Effect) (db db' : Database) : Prop := db.issued ≤ db'.issued ∧ RowChange db db' e

section Transfer

variable {db db₁ db' : Database} {e : Effect}

theorem putReservation_rows (h : db₁.reservations = db.reservations) (r : Reservation) :
    (db₁.putReservation r).reservations = (db.putReservation r).reservations := by
  simp only [Database.putReservation, h]

theorem Inserted.of_sameRows {ctx : Context} {d : Draft} {r : Reservation} (h : SameRows db db₁)
    (hi : Inserted db₁ ctx d r) : Inserted db ctx d r := by
  refine { hi with fresh := Nat.lt_of_le_of_lt h.1 hi.fresh, free := ?_ }
  rw [← h.reservations_eq]
  exact hi.free

theorem Rewritten.of_sameRows {d : Draft} {r r' : Reservation} (h : SameRows db db₁)
    (hw : Rewritten db₁ d r r') : Rewritten db d r r' := by
  have hrows := h.reservations_eq
  refine { hw with mem := ?_, free := ?_ }
  · rw [← hrows]
    exact hw.mem
  · rw [← hrows]
    exact hw.free

/-- Reading before a write does not change what the write may do. -/
theorem RowChange.of_sameRows (h : SameRows db db₁) (hc : RowChange db₁ db' e) :
    RowChange db db' e := by
  have hrows := h.reservations_eq
  cases hc with
  | keep e rows => exact .keep e (rows.trans hrows)
  | insert ctx d r hi rows given => exact .insert ctx d r (hi.of_sameRows h) (by rw [rows, hrows]) given
  | rewrite d r r' hw rows =>
    exact .rewrite d r r' (hw.of_sameRows h) (rows.trans (putReservation_rows hrows r'))
  | move r t reason stamp mem live allowed rows =>
    exact .move r t reason stamp (hrows ▸ mem) live allowed
      (rows.trans (putReservation_rows hrows _))
  | remind r stamp mem rows =>
    exact .remind r stamp (hrows ▸ mem) (rows.trans (putReservation_rows hrows _))

/-- Writing after a write, without touching a reservation, keeps what the write did. -/
theorem RowChange.of_rows {db₂ : Database} (hc : RowChange db db₁ e)
    (hrows : db₂.reservations = db₁.reservations) (hle : db₁.issued ≤ db₂.issued) :
    RowChange db db₂ e := by
  cases hc with
  | keep e rows => exact .keep e (hrows.trans rows)
  | insert ctx d r hi rows given => exact .insert ctx d r hi (hrows.trans rows) (Nat.le_trans given hle)
  | rewrite d r r' hw rows => exact .rewrite d r r' hw (hrows.trans rows)
  | move r t reason stamp mem live allowed rows =>
    exact .move r t reason stamp mem live allowed (hrows.trans rows)
  | remind r stamp mem rows => exact .remind r stamp mem (hrows.trans rows)

theorem Stepped.of_sameRows (h : SameRows db db') : Stepped e db db' :=
  ⟨h.1, .keep e h.reservations_eq⟩

theorem Stepped.after (h : SameRows db db₁) (hs : Stepped e db₁ db') : Stepped e db db' :=
  ⟨Nat.le_trans h.1 hs.1, hs.2.of_sameRows h⟩

theorem Stepped.of_rows {db₂ : Database} (hs : Stepped e db db₁)
    (hrows : db₂.reservations = db₁.reservations) (hle : db₁.issued ≤ db₂.issued) :
    Stepped e db db₂ :=
  ⟨Nat.le_trans hs.1 hle, hs.2.of_rows hrows hle⟩

end Transfer

section Writes

variable (ctx : Context) (db : Database)

theorem insertOrReplay_stepped (d : Draft) (timezone : Option String) :
    wp (insertOrReplay ctx d timezone) (fun _ => Stepped .adds db) (fun _ => SameRows db) db := by
  refine wp_mono (insertOrReplay_wp ctx d timezone db) ?_ fun _ _ h => h
  rintro ⟨r, created⟩ db' (⟨-, hi, hrows⟩ | ⟨-, -, hrows⟩)
  · -- the new reservation's id was given out after every id before it
    have hle : r.id.value ≤ db'.issued := hrows.1
    exact ⟨Nat.le_trans (Nat.le_of_lt hi.fresh) hle, .insert ctx d r hi hrows.reservations_eq hle⟩
  · exact Stepped.of_sameRows hrows

theorem replace_stepped (id : Uuid) (d : Draft) (timezone : Option String) (replaceItems : Bool) :
    wp (replace ctx id d timezone replaceItems) (fun _ => Stepped .rewrites db)
      (fun _ => SameRows db) db := by
  refine wp_mono (replace_wp ctx id d timezone replaceItems db) ?_ fun _ _ h => h
  rintro r' db' ⟨r, hw, hrows⟩
  exact ⟨hrows.1, .rewrite d r r' hw hrows.reservations_eq⟩

theorem updateStatus_stepped (id : Uuid) (target : String) (reason : Option String) :
    wp (updateStatus ctx id target reason) (fun _ => Stepped .moves db) (fun _ => SameRows db) db := by
  refine wp_mono (updateStatus_wp ctx id target reason db) ?_ fun _ _ h => h
  rintro r' db' ⟨r, t, stamp, hfetch, -, hlive, hallowed, rfl, hrows⟩
  exact ⟨hrows.1, .move r t reason stamp (reservation?_some hfetch).1 hlive hallowed
    hrows.reservations_eq⟩

theorem markReminderSent_stepped (id : Uuid) :
    wp (markReminderSent ctx id) (fun _ => Stepped .reminds db) (fun _ => SameRows db) db := by
  refine wp_mono (markReminderSent_wp ctx id db) ?_ fun _ _ h => h
  rintro r' db' ⟨r, stamp, hmem, rfl, hrows⟩
  exact ⟨hrows.1, .remind r stamp hmem hrows.reservations_eq⟩

end Writes

theorem readsOnly_fetch (ctx : Context) (id : Uuid) : ReadsOnly (fetch ctx id) := by
  intro db
  rw [wp_fetch]
  split <;> exact SameRows.refl db

end Reservations

namespace Booking

theorem readsOnly_resolveStore (ctx : Context) (store : Option Uuid) :
    ReadsOnly (resolveStore ctx store) := by
  intro db
  simp only [resolveStore, wp_bind, wp_get]
  split
  · split <;> exact SameRows.refl db
  · split <;> exact SameRows.refl db

theorem readsOnly_instant (now : Option Stamp) : ReadsOnly (instant now) := by
  cases now with
  | some t => exact readsOnly_pure t
  | none => exact readsOnly_now.bind fun _ => readsOnly_pure _

theorem readsOnly_loadPractitioner (ctx : Context) (id : Uuid) (store : Store) :
    ReadsOnly (loadPractitioner ctx id store) := by
  intro db
  simp only [loadPractitioner, wp_bind, wp_get]
  split
  · simp only [wp_ite, wp_bind, wp_throw, wp_lift]
    split
    · exact SameRows.refl db
    · split
      · split <;> exact SameRows.refl db
      · exact SameRows.refl db
  · exact SameRows.refl db

theorem readsOnly_loadCustomer (ctx : Context) (id : Option Uuid) :
    ReadsOnly (loadCustomer ctx id) := by
  intro db
  cases id with
  | none => exact SameRows.refl db
  | some id =>
    simp only [loadCustomer, wp_bind, wp_get]
    split <;> exact SameRows.refl db

theorem readsOnly_menuLines (ctx : Context) (ids : List Uuid) (includeInactive : Bool) :
    ReadsOnly (menuLines ctx ids includeInactive) := by
  refine readsOnly_get.bind fun db => readsOnly_mapM (fun ⟨id, i⟩ => ?_) _
  -- one menu: found and usable, or refused
  dsimp only
  split
  · split
    · exact readsOnly_pure _
    · exact readsOnly_throw _
  · exact readsOnly_throw _

theorem readsOnly_optionLines (ctx : Context) (ids : List Uuid) (includeInactive : Bool) :
    ReadsOnly (optionLines ctx ids includeInactive) := by
  refine readsOnly_get.bind fun db => readsOnly_mapM (fun id => ?_) _
  split
  · split
    · exact readsOnly_pure _
    · exact readsOnly_throw _
  · exact readsOnly_throw _

theorem readsOnly_resolveSelection (ctx : Context) (menus options : List Uuid)
    (includeInactive : Bool) : ReadsOnly (resolveSelection ctx menus options includeInactive) :=
  (readsOnly_menuLines ctx menus includeInactive).bind fun _ =>
    (readsOnly_optionLines ctx options includeInactive).bind fun _ => readsOnly_pure _

/-- The resolution of a booking request reads only. -/
theorem readsOnly_bookingDraft (ctx : Context) (req : BookingRequest) (enforcePolicy : Bool)
    (includeInactive : Bool) (now : Option Stamp) :
    ReadsOnly (bookingDraft ctx req enforcePolicy includeInactive now) := by
  unfold bookingDraft
  split
  · dsimp only
    split
    · exact readsOnly_throw_bind _ _
    · refine (readsOnly_resolveStore ctx req.store).bind fun ⟨store, policy⟩ => ?_
      dsimp only
      split
      -- with the policy enforced, the clock is read and the booking window checked first
      all_goals try refine (readsOnly_instant now).bind fun _ => (readsOnly_lift _).bind fun _ => ?_
      all_goals
        exact (readsOnly_loadPractitioner ctx _ store).bind fun _ =>
          (readsOnly_loadCustomer ctx _).bind fun _ =>
          (readsOnly_resolveSelection ctx _ _ includeInactive).bind fun _ =>
          (readsOnly_lift _).bind fun _ => readsOnly_pure _
  · exact readsOnly_throw _

/-- The resolution of a rescheduling request reads only. -/
theorem readsOnly_reschedulingDraft (ctx : Context) (id : Uuid) (req : BookingRequest)
    (enforcePolicy : Bool) (customer : Option Uuid) (includeInactive : Bool) (now : Option Stamp) :
    ReadsOnly (reschedulingDraft ctx id req enforcePolicy customer includeInactive now) := by
  unfold reschedulingDraft
  refine (readsOnly_fetch ctx id).bind fun r => (readsOnly_lift _).bind fun _ => ?_
  dsimp only
  split
  · exact readsOnly_throw_bind _ _
  · split
    -- with the policy enforced, the old slot's cancellation deadline is checked first
    all_goals try refine (readsOnly_resolveStore ctx r.store).bind fun ⟨_, _⟩ =>
      (readsOnly_instant now).bind fun _ => (readsOnly_lift _).bind fun _ => ?_
    all_goals refine (readsOnly_resolveStore ctx _).bind fun ⟨store, policy⟩ => ?_
    all_goals dsimp only
    all_goals split
    -- and the new date's booking window
    all_goals try refine (readsOnly_instant now).bind fun _ => (readsOnly_lift _).bind fun _ => ?_
    all_goals
      exact (readsOnly_loadPractitioner ctx _ store).bind fun _ =>
        (readsOnly_loadCustomer ctx _).bind fun _ =>
        (readsOnly_resolveSelection ctx _ _ includeInactive).bind fun _ =>
        (readsOnly_lift _).bind fun _ => readsOnly_pure _

/-- The checks before a cancellation read only. -/
theorem readsOnly_cancellation (ctx : Context) (id : Uuid) (enforcePolicy : Bool)
    (customer : Option Uuid) (now : Option Stamp) :
    ReadsOnly (cancellation ctx id enforcePolicy customer now) := by
  unfold cancellation
  refine (readsOnly_fetch ctx id).bind fun r => (readsOnly_lift _).bind fun _ => ?_
  dsimp only
  split
  · -- with the policy enforced: the lifecycle, then the deadline
    split
    · exact readsOnly_throw_bind _ _
    · exact (readsOnly_resolveStore ctx r.store).bind fun _ => (readsOnly_instant now).bind fun _ =>
        (readsOnly_lift _).bind fun _ => readsOnly_pure r
  · exact readsOnly_pure r

section Flows

variable (ctx : Context) (actor : Actor) (db : Database)

/-- The audit entry after a write keeps what the write did. -/
theorem record_stepped {db₁ : Database} {e : Effect} {err : Fault → Database → Prop}
    (hs : Stepped e db db₁)
    (tenant : Uuid) (action resourceType : String) (resource : Option Uuid) (before after : Json) :
    wp (Database.record tenant actor action resourceType resource before after)
      (fun _ => Stepped e db) err db₁ :=
  record_keeps tenant actor action resourceType resource before after
    fun _ hrows _ hle => hs.of_rows hrows hle

theorem book_stepped (req : BookingRequest) (enforcePolicy includeInactive : Bool)
    (now : Option Stamp) :
    wp (book ctx req actor enforcePolicy includeInactive now) (fun _ => Stepped .adds db)
      (fun _ => SameRows db) db := by
  unfold book
  refine (readsOnly_bookingDraft ctx req enforcePolicy includeInactive now).wp_bind
    (fun ⟨store, policy, draft⟩ db₁ h₁ => ?_) fun _ _ h => h
  rw [wp_bind]
  refine wp_mono (insertOrReplay_stepped _ db₁ draft _) (fun ⟨r, created⟩ db₂ h₂ => ?_)
    fun _ _ h₂ => h₁.trans h₂
  have hs := Stepped.after h₁ h₂
  -- a replayed reservation is answered without an audit entry
  dsimp only
  split
  · rw [wp_bind]
    exact record_stepped actor db hs _ _ _ _ _ _
  · exact hs

theorem reschedule_stepped (id : Uuid) (req : BookingRequest) (enforcePolicy : Bool)
    (customer : Option Uuid) (includeInactive : Bool) (now : Option Stamp) :
    wp (reschedule ctx id req actor enforcePolicy customer includeInactive now)
      (fun _ => Stepped .rewrites db) (fun _ => SameRows db) db := by
  unfold reschedule
  refine (readsOnly_reschedulingDraft ctx id req enforcePolicy customer includeInactive now).wp_bind
    (fun ⟨r, store, policy, draft⟩ db₁ h₁ => ?_) fun _ _ h => h
  rw [wp_bind]
  refine wp_mono (replace_stepped _ db₁ id draft _ true) (fun r' db₂ h₂ => ?_)
    fun _ _ h₂ => h₁.trans h₂
  rw [wp_bind]
  exact record_stepped actor db (Stepped.after h₁ h₂) _ _ _ _ _ _

theorem changeStatus_stepped (id : Uuid) (status : String) (reason : Option String) :
    wp (changeStatus ctx id status actor reason) (fun _ => Stepped .moves db)
      (fun _ => SameRows db) db := by
  unfold changeStatus
  refine (readsOnly_fetch ctx id).wp_bind (fun r db₁ h₁ => ?_) fun _ _ h => h
  rw [wp_bind]
  refine wp_mono (updateStatus_stepped ctx db₁ id status reason) (fun r' db₂ h₂ => ?_)
    fun _ _ h₂ => h₁.trans h₂
  rw [wp_bind]
  exact record_stepped actor db (Stepped.after h₁ h₂) _ _ _ _ _ _

theorem cancel_stepped (id : Uuid) (reason : Option String) (enforcePolicy : Bool)
    (customer : Option Uuid) (now : Option Stamp) :
    wp (cancel ctx id actor reason enforcePolicy customer now) (fun _ => Stepped .moves db)
      (fun _ => SameRows db) db := by
  unfold cancel
  refine (readsOnly_cancellation ctx id enforcePolicy customer now).wp_bind
    (fun r db₁ h₁ => ?_) fun _ _ h => h
  rw [wp_bind]
  refine wp_mono (updateStatus_stepped ctx db₁ id "canceled" reason) (fun r' db₂ h₂ => ?_)
    fun _ _ h₂ => h₁.trans h₂
  rw [wp_bind]
  exact record_stepped actor db (Stepped.after h₁ h₂) _ _ _ _ _ _

end Flows

end Booking

namespace Link

theorem readsOnly_checkExpiry (expiresAt : Option Stamp) : ReadsOnly (checkExpiry expiresAt) := by
  cases expiresAt with
  | none => exact readsOnly_pure ()
  | some e =>
    refine readsOnly_now.bind fun now => ?_
    dsimp only
    split
    · exact readsOnly_throw_bind _ _
    · split
      · exact readsOnly_throw _
      · exact readsOnly_pure ()

theorem readsOnly_issuer (ctx : Context) (practitioner : Uuid) (store : Option Uuid) :
    ReadsOnly (issuer ctx practitioner store) := by
  refine readsOnly_get.bind fun db => ?_
  split
  · dsimp only
    split
    · exact readsOnly_throw_bind _ _
    · split
      · -- a named store must be found and open, and be one of the practitioner's
        split
        · split
          · exact readsOnly_throw_bind _ _
          · refine (readsOnly_lift _).bind fun _ => ?_
            split
            · exact readsOnly_throw_bind _ _
            · exact readsOnly_pure _
        · exact readsOnly_throw_bind _ _
      · exact readsOnly_pure _
  · exact readsOnly_throw _

theorem readsOnly_uniqueToken (id : Uuid) (src : ByteSource) : ReadsOnly (uniqueToken id src) := by
  refine readsOnly_get.bind fun db => ?_
  split
  · exact readsOnly_pure _
  · exact readsOnly_throw _

theorem keepsReservations_addLink (ctx : Context) (practitioner : Uuid) (createdBy : String)
    (store : Option Uuid) (expiresAt : Option Stamp) (src : ByteSource) :
    KeepsReservations (addLink ctx practitioner createdBy store expiresAt src) := by
  unfold addLink
  refine keepsReservations_freshId.bind fun _ => readsOnly_now.keepsReservations.bind fun _ =>
    (readsOnly_uniqueToken _ _).keepsReservations.bind fun _ => ?_
  dsimp only
  refine KeepsReservations.bind (keepsReservations_modify fun _ => ?_) fun _ =>
    (readsOnly_pure _).keepsReservations
  exact ⟨rfl, Nat.le_refl _⟩

/-- Issuing a link writes links only; a refused issue, also one refused after its
revoking update, leaves the rows. -/
theorem issue_stepped (ctx : Context) (practitioner : Uuid) (createdBy : String)
    (store : Option Uuid) (expiresAt : Option Stamp) (reissue allowMultiple : Bool) (src : ByteSource)
    (db : Database) :
    wp (issue ctx practitioner createdBy store expiresAt reissue allowMultiple src)
      (fun _ => Stepped .keeps db) (fun _ => SameRows db) db := by
  have body : KeepsReservations (do
      let _ ← issuer ctx practitioner store
      let db ← get
      let live (l : BookingLink) : Bool := l.inScope ctx.tenant practitioner store && l.isActive
      if reissue then
        modify fun db => { db with links := db.links.map (revokeIf live) }
      else if !allowMultiple && db.links.any live then
        throw (.refused (.conflict (.activeLinkExists practitioner)))
      addLink ctx practitioner createdBy store expiresAt src) := by
    refine (readsOnly_issuer ctx practitioner store).keepsReservations.bind fun _ =>
      readsOnly_get.keepsReservations.bind fun db => ?_
    have hadd := keepsReservations_addLink ctx practitioner createdBy store expiresAt src
    dsimp only
    split
    · refine KeepsReservations.bind (keepsReservations_modify fun _ => ?_) fun _ => hadd
      exact ⟨rfl, Nat.le_refl _⟩
    · split
      · exact (readsOnly_throw_bind _ _).keepsReservations
      · exact hadd
  unfold issue
  refine (readsOnly_checkExpiry expiresAt).wp_bind (fun _ db₁ h₁ => ?_) fun _ _ h => h
  rw [wp_transaction]
  -- the transaction's failure restores the rows it started from
  exact wp_mono (body db₁) (fun _ _ h => Stepped.after h₁ ⟨h.2, .keep _ h.1⟩)
    fun _ _ h => h₁.trans (sameRows_counters db₁ _ h.2)

theorem revoke_stepped (ctx : Context) (id : Uuid) (db : Database) :
    wp (revoke ctx id) (fun _ => Stepped .keeps db) (fun _ => SameRows db) db := by
  simp only [revoke, wp_bind, wp_get]
  split
  · exact ⟨Nat.le_refl _, .keep _ rfl⟩
  · exact SameRows.refl db

end Link

end SalonBooking
