import SalonBooking.Proofs.Invariants
import SalonBooking.Proofs.Lifecycle
import SalonBooking.Console.Answer

/-!
Idempotency keys. A reservation keeps the key it was written with, and at most one
reservation of a tenant carries each key, the empty one included: the storage refuses a
second. What the writes do to keys is a `KeyStep`: the ids, tenants and keys of the
stored reservations stay as they were, or one reservation is added whose key no
reservation of its tenant held.

A write with a non-empty key that a reservation of the tenant carries replays it: once
the draft's own checks pass it answers that reservation as not created and changes
nothing, and otherwise it fails as those checks do, never in storage
(`insertOrReplay_replays`); a booking does the same after its reads
(`book_replays`). The empty key is stored but never looked up, so a second write with
it never succeeds (`insertOrReplay_empty_key_fails`).
-/

namespace SalonBooking

open SalonBooking.Calendar Op Database Reservations Booking

/-! ## Failures that are not storage refusals -/

/-- Every failure of the computation `x` satisfies `P`. -/
def Fails {ε α : Type} (x : Except ε α) (P : ε → Prop) : Prop := ∀ e, x = .error e → P e

section Fails

variable {ε α β : Type} {P : ε → Prop}

theorem fails_ok (a : α) : Fails (.ok a : Except ε α) P := fun _ h => by cases h

theorem fails_error {e : ε} (h : P e) : Fails (.error e : Except ε α) P := fun _ he => by
  cases he
  exact h

theorem Fails.bind {x : Except ε α} {f : α → Except ε β} (hx : Fails x P)
    (hf : ∀ a, x = .ok a → Fails (f a) P) : Fails (x >>= f) P := by
  intro e he
  cases hxe : x with
  | error e' =>
    rw [hxe] at he
    cases he
    exact hx _ hxe
  | ok a =>
    rw [hxe] at he
    exact hf a hxe e he

theorem fails_throw {e : ε} (h : P e) (f : α → Except ε β) : Fails (throw e >>= f) P :=
  fun _ he => by
    cases he
    exact h

end Fails

/-- A fault that is no refusal of storage. -/
abbrev NotIntegrity (e : Fault) : Prop := e.kind ≠ "IntegrityError"

@[simp] theorem Fault.kind_invalid (i : Invalid) : (Fault.invalid i).kind = "ValidationError" := rfl

theorem fails_liftRange {α : Type} (x : Except RangeError α) : Fails (liftRange x) NotIntegrity := by
  cases x with
  | ok a => exact fails_ok a
  | error r => exact fails_error (by simp [Fault.kind])

theorem fails_zone (tz : String) : Fails (Policy.zone tz) NotIntegrity := by
  unfold Policy.zone
  split
  · exact fails_ok _
  · exact fails_error (by simp)

theorem fails_localToUtc (d : Date) (t : TimeOfDay) (tz : String) :
    Fails (Policy.localToUtc d t tz) NotIntegrity := by
  unfold Policy.localToUtc
  refine (fails_zone tz).bind fun z _ => (fails_liftRange _).bind fun u _ =>
    (fails_liftRange _).bind fun b _ => ?_
  split
  · exact fails_ok _
  · exact fails_error (by simp)

theorem fails_readingPeriod (d : Date) (start stop : ClockReading) (tz : String) :
    Fails (Policy.readingPeriod d start stop tz) NotIntegrity := by
  unfold Policy.readingPeriod
  split
  · exact fails_error (by simp [Fault.kind])
  · exact fails_error (by simp)
  · refine (fails_localToUtc _ _ _).bind fun a _ => (fails_localToUtc _ _ _).bind fun b _ => ?_
    split
    · exact fails_error (by simp)
    · exact fails_ok _

theorem fails_parseStatus (s : String) : Fails (parseStatus s) NotIntegrity := by
  unfold parseStatus
  split
  · exact fails_ok _
  · exact fails_error (by simp)

theorem fails_checkDraft (d : Draft) (zone : String) : Fails (checkDraft d zone) NotIntegrity := by
  unfold checkDraft
  dsimp only
  split
  · -- a draft with items: its menus, its status, then its slot
    split
    · exact fails_throw (by simp) _
    · refine (fails_parseStatus _).bind fun status _ => ?_
      split
      · exact fails_throw (by simp) _
      · exact (fails_readingPeriod _ _ _ _).bind fun _ _ => fails_ok _
  · exact fails_error (by simp)

namespace Reservation

/-- What a key is read against: the reservation's id, tenant and key. -/
def keyView (r : Reservation) : Uuid × Uuid × Option String := (r.id, r.tenant, r.idempotencyKey)

@[simp] theorem moveTo_idempotencyKey (r : Reservation) (t : Status) (reason : Option String)
    (stamp : DateTime) : (r.moveTo t reason stamp).idempotencyKey = r.idempotencyKey := by
  unfold moveTo; split <;> rfl

theorem moveTo_keyView (r : Reservation) (t : Status) (reason : Option String)
    (stamp : DateTime) : (r.moveTo t reason stamp).keyView = r.keyView := by
  simp [keyView]

end Reservation

namespace Reservations

/-- The ids, tenants and keys of the stored reservations, in order. -/
def keyViews (db : Database) : List (Uuid × Uuid × Option String) :=
  db.reservations.map Reservation.keyView

/-- Two reservations of one tenant that carry the same key are the same reservation. -/
def KeysApart (db : Database) : Prop :=
  ∀ a ∈ db.reservations, ∀ b ∈ db.reservations, a.tenant = b.tenant →
    a.idempotencyKey.isSome → a.idempotencyKey = b.idempotencyKey → a.id = b.id

/-- What a write may do to keys: keep every id, tenant and key, or add one reservation
whose key no reservation of its tenant held. -/
def KeyStep (db db' : Database) : Prop :=
  keyViews db' = keyViews db ∨
    ∃ r : Reservation, KeyFree db r.tenant r.idempotencyKey ∧
      keyViews db' = keyViews db ++ [r.keyView]

section KeyViews

variable {db db' : Database}

/-- A reservation put back with the id, tenant and key of a stored one keeps the views. -/
theorem keyViews_put (hc : Consistent db) {r r' : Reservation} (hr : r ∈ db.reservations)
    (hview : r'.keyView = r.keyView) : keyViews (db.putReservation r') = keyViews db := by
  simp only [keyViews, Database.putReservation, List.map_map]
  apply List.map_congr_left
  intro x hx
  by_cases hid : x.id = r'.id
  · -- the only stored row under that id is `r`
    have hxr : x = r := hc.eq_of_id_eq hx hr (hid.trans (congrArg Prod.fst hview))
    subst hxr
    simp [hid, hview]
  · simp [hid]

/-- The views read off the rows: a row's view is among them exactly when it is stored. -/
theorem mem_keyViews {v : Uuid × Uuid × Option String} :
    v ∈ keyViews db ↔ ∃ x ∈ db.reservations, x.keyView = v := by
  simp [keyViews]

theorem KeysApart.of_views (h : KeysApart db) (hviews : keyViews db' = keyViews db) :
    KeysApart db' := by
  intro a ha b hb ht hs hk
  obtain ⟨x, hx, hxa⟩ := mem_keyViews.mp (hviews ▸ mem_keyViews.mpr ⟨a, ha, rfl⟩)
  obtain ⟨y, hy, hyb⟩ := mem_keyViews.mp (hviews ▸ mem_keyViews.mpr ⟨b, hb, rfl⟩)
  simp only [Reservation.keyView, Prod.mk.injEq] at hxa hyb
  have hxy := h x hx y hy (by rw [hxa.2.1, hyb.2.1, ht]) (by rw [hxa.2.2]; exact hs)
    (by rw [hxa.2.2, hyb.2.2, hk])
  rw [← hxa.1, ← hyb.1, hxy]

/-- A new reservation whose key no reservation of its tenant held keeps keys apart. -/
theorem KeysApart.append (h : KeysApart db) {r : Reservation}
    (hfree : KeyFree db r.tenant r.idempotencyKey)
    (hviews : keyViews db' = keyViews db ++ [r.keyView]) : KeysApart db' := by
  -- a stored row is an old one or has the new one's view
  have hmem : ∀ a ∈ db'.reservations, (∃ x ∈ db.reservations, x.keyView = a.keyView) ∨
      a.keyView = r.keyView := by
    intro a ha
    have hv : a.keyView ∈ keyViews db ++ [r.keyView] := hviews ▸ mem_keyViews.mpr ⟨a, ha, rfl⟩
    rcases List.mem_append.mp hv with hv | hv
    · exact .inl (mem_keyViews.mp hv)
    · exact .inr (List.mem_singleton.mp hv)
  -- an old row and the new one never share a tenant and a key
  have hnew : ∀ x ∈ db.reservations, x.tenant = r.tenant → x.idempotencyKey.isSome →
      x.idempotencyKey ≠ r.idempotencyKey := by
    intro x hx ht hs hk
    obtain ⟨k, hxk⟩ := Option.isSome_iff_exists.mp hs
    exact hfree k (hk ▸ hxk) x hx ht hxk
  simp only [Reservation.keyView, Prod.mk.injEq] at hmem
  intro a ha b hb ht hs hk
  rcases hmem a ha with ⟨x, hx, hxi, hxt, hxk⟩ | ⟨hai, hat, hak⟩ <;>
    rcases hmem b hb with ⟨y, hy, hyi, hyt, hyk⟩ | ⟨hbi, hbt, hbk⟩
  · rw [← hxi, ← hyi]
    exact h x hx y hy (by rw [hxt, hyt, ht]) (by rw [hxk]; exact hs) (by rw [hxk, hyk, hk])
  · exact absurd (by rw [hxk, hk, hbk]) (hnew x hx (by rw [hxt, ht, hbt]) (by rw [hxk]; exact hs))
  · exact absurd (by rw [hyk, ← hk, hak]) (hnew y hy (by rw [hyt, ← ht, hat])
      (by rw [hyk, ← hk]; exact hs))
  · rw [hai, hbi]

theorem KeysApart.keyStep (h : KeysApart db) (hs : KeyStep db db') : KeysApart db' := by
  rcases hs with hviews | ⟨r, hfree, hviews⟩
  · exact h.of_views hviews
  · exact h.append hfree hviews

/-- The views of a database are a prefix of those after a key step. -/
theorem KeyStep.prefix (hs : KeyStep db db') : keyViews db <+: keyViews db' := by
  rcases hs with hviews | ⟨r, -, hviews⟩
  · simp only [hviews, List.prefix_refl]
  · rw [hviews]
    exact List.prefix_append _ _

end KeyViews

/-! ## The writes -/

section Writes

variable (ctx : Context) {db : Database}

theorem insertOrReplay_keyStep (d : Draft) (timezone : Option String) :
    wp (insertOrReplay ctx d timezone) (fun _ db' => KeyStep db db') (fun _ _ => True) db := by
  refine wp_mono (wp_and (insertOrReplay_wp ctx d timezone db) (insertOrReplay_creates ctx d timezone db))
    ?_ fun _ _ _ => trivial
  rintro ⟨r, created⟩ db' ⟨⟨rfl, hi, hrows⟩ | ⟨rfl, -, hrows⟩, hcreates⟩
  · -- the new row is the draft applied to a new row, with the draft's tenant and key
    obtain ⟨-, -, -, -, -, -, -, -, -, hfree, hrows'⟩ := hcreates rfl
    refine .inr ⟨r, ?_, ?_⟩
    · rw [hi.tenant, hi.key]
      exact hfree
    · simp only [keyViews, hrows', List.map_append, List.map_singleton]
  · exact .inl (by simp only [keyViews, hrows.reservations_eq])

theorem replace_keyStep (hc : Consistent db) (id : Uuid) (d : Draft) (timezone : Option String)
    (replaceItems : Bool) :
    wp (replace ctx id d timezone replaceItems) (fun _ db' => KeyStep db db') (fun _ _ => True) db := by
  refine wp_mono (replace_rewrites ctx id d timezone replaceItems db) ?_ fun _ _ _ => trivial
  rintro r' db' ⟨r, a, b, r₁, stamp, hfetch, -, -, -, hdraft, rfl, hrows⟩
  have hd := applyDraft_ok hdraft
  -- the draft keeps the id, the tenant and the key of the reservation it rewrites
  have hview : ({ r₁ with
      menuItems := ((if replaceItems then d.items else none).map (·.menus)).getD r₁.menuItems,
      optionItems := ((if replaceItems then d.items else none).map (·.options)).getD r₁.optionItems,
      updatedAt := stamp } : Reservation).keyView = r.keyView := by
    simp only [Reservation.keyView, hd.id, hd.tenant, hd.key]
  refine .inl ?_
  rw [← keyViews_put hc (reservation?_some hfetch).1 hview]
  simp only [keyViews, hrows]

theorem updateStatus_keyStep (hc : Consistent db) (id : Uuid) (target : String)
    (reason : Option String) :
    wp (updateStatus ctx id target reason) (fun _ db' => KeyStep db db') (fun _ _ => True) db := by
  refine wp_mono (updateStatus_wp ctx id target reason db) ?_ fun _ _ _ => trivial
  rintro r' db' ⟨r, t, stamp, hfetch, -, -, -, rfl, hrows⟩
  refine .inl ?_
  rw [← keyViews_put hc (reservation?_some hfetch).1 (Reservation.moveTo_keyView r t reason stamp)]
  simp only [keyViews, hrows.reservations_eq]

theorem markReminderSent_keyStep (hc : Consistent db) (id : Uuid) :
    wp (markReminderSent ctx id) (fun _ db' => KeyStep db db') (fun _ _ => True) db := by
  refine wp_mono (markReminderSent_wp ctx id db) ?_ fun _ _ _ => trivial
  rintro r' db' ⟨r, stamp, hmem, rfl, hrows⟩
  refine .inl ?_
  have hview : ({ r with reminderSentAt := some stamp, updatedAt := stamp } : Reservation).keyView =
      r.keyView := rfl
  rw [← keyViews_put hc hmem hview]
  simp only [keyViews, hrows.reservations_eq]

end Writes

/-- Every call keeps at most one reservation of a tenant on each key. -/
theorem keysApart_keeps : StoreKeeps fun db => Consistent db ∧ KeysApart db := by
  refine StoreKeeps.of_consistent (fun db db' hrows _ h => h.of_views (by rw [keyViews, keyViews, hrows]))
    ?_ ?_ ?_ ?_
  · intro ctx d timezone db _ h
    exact wp_mono (insertOrReplay_keyStep ctx d timezone) (fun _ _ hs => h.keyStep hs) fun _ _ _ => trivial
  · intro ctx id d timezone replaceItems db hc h
    exact wp_mono (replace_keyStep ctx hc id d timezone replaceItems) (fun _ _ hs => h.keyStep hs)
      fun _ _ _ => trivial
  · intro ctx id target reason db hc h
    exact wp_mono (updateStatus_keyStep ctx hc id target reason) (fun _ _ hs => h.keyStep hs)
      fun _ _ _ => trivial
  · intro ctx id db hc h
    exact wp_mono (markReminderSent_keyStep ctx hc id) (fun _ _ hs => h.keyStep hs)
      fun _ _ _ => trivial

/-- Every call keeps the ids, tenants and keys of the reservations it found, in order. -/
theorem keyViews_keeps (views : List (Uuid × Uuid × Option String)) :
    StoreKeeps fun db => Consistent db ∧ views <+: keyViews db := by
  refine StoreKeeps.of_consistent (fun db db' hrows _ h => by rwa [keyViews, hrows]) ?_ ?_ ?_ ?_
  · intro ctx d timezone db _ h
    exact wp_mono (insertOrReplay_keyStep ctx d timezone) (fun _ _ hs => h.trans hs.prefix)
      fun _ _ _ => trivial
  · intro ctx id d timezone replaceItems db hc h
    exact wp_mono (replace_keyStep ctx hc id d timezone replaceItems)
      (fun _ _ hs => h.trans hs.prefix) fun _ _ _ => trivial
  · intro ctx id target reason db hc h
    exact wp_mono (updateStatus_keyStep ctx hc id target reason) (fun _ _ hs => h.trans hs.prefix)
      fun _ _ _ => trivial
  · intro ctx id db hc h
    exact wp_mono (markReminderSent_keyStep ctx hc id) (fun _ _ hs => h.trans hs.prefix)
      fun _ _ _ => trivial

/-! ## Replays -/

/-- The replay lookup of a non-empty key finds the one reservation of the tenant that
carries it. -/
theorem replayOf_eq {db : Database} {ctx : Context} {k : String} (hk : k ≠ "")
    (hc : Consistent db) (hapart : KeysApart db) {r : Reservation} (hr : r ∈ db.reservations)
    (hrt : r.tenant = ctx.tenant) (hrk : r.idempotencyKey = some k) :
    replayOf db ctx (some k) = some r := by
  have hnon : nonEmpty (some k) = some k := by simp [nonEmpty, hk]
  simp only [replayOf, hnon, Option.bind_some, findByKey]
  cases hfind : (db.reservationsOf ctx.tenant).find? (·.idempotencyKey == some k) with
  | none =>
    -- `r` itself would have been found
    have hnone := List.find?_eq_none.mp hfind r (by simp [Database.reservationsOf, hr, hrt])
    simp [hrk] at hnone
  | some x =>
    have hxmem := List.mem_of_find?_eq_some hfind
    have hxk : x.idempotencyKey = some k := by simpa using List.find?_some hfind
    simp only [Database.reservationsOf, List.mem_filter, beq_iff_eq] at hxmem
    have hid := hapart x hxmem.1 r hr (hxmem.2.trans hrt.symm) (by simp [hxk]) (hxk.trans hrk.symm)
    rw [hc.eq_of_id_eq hxmem.1 hr hid]

/-- A write with a non-empty key that a reservation `r` of the tenant carries answers
`r`, not created, once the draft's own checks pass, and otherwise fails as they do;
either way the database is left as it was. -/
theorem insertOrReplay_replays {db : Database} (ctx : Context) {d : Draft} {k : String}
    (timezone : Option String) (hk : k ≠ "") (hkey : d.idempotencyKey = some k)
    (hc : Consistent db) (hapart : KeysApart db) {r : Reservation} (hr : r ∈ db.reservations)
    (hrt : r.tenant = ctx.tenant) (hrk : r.idempotencyKey = some k) :
    (insertOrReplay ctx d timezone).run db =
      match checkDraft d ((nonEmpty timezone).getD defaultZone) with
      | .ok _ => .ok (r, false) db
      | .error e => .error e db := by
  cases hcheck : checkDraft d ((nonEmpty timezone).getD defaultZone) with
  | error e =>
    apply run_eq_error
    simp only [insertOrReplay, wp_bind, wp_lift, hcheck, and_self]
  | ok v =>
    obtain ⟨items, status, a, b⟩ := v
    apply run_eq_ok
    simp only [insertOrReplay, wp_bind, wp_lift, hcheck, wp_get, hkey,
      replayOf_eq hk hc hapart hr hrt hrk, wp_pure, and_self]

/-- A booking with a non-empty key that a reservation `r` of the tenant carries makes its
reads, and then answers `r` without writing anything once its draft passes the checks
of a new reservation; otherwise it fails as its reads or those checks do. -/
theorem book_replays {db : Database} {ctx : Context} {req : BookingRequest} {k : String}
    (actor : Actor) (enforcePolicy includeInactive : Bool) (now : Option Stamp) (hk : k ≠ "")
    (hkey : req.idempotencyKey = some k) (hc : Consistent db) (hapart : KeysApart db)
    {r : Reservation} (hr : r ∈ db.reservations) (hrt : r.tenant = ctx.tenant)
    (hrk : r.idempotencyKey = some k) :
    (book ctx req actor enforcePolicy includeInactive now).run db =
      match (bookingDraft ctx req enforcePolicy includeInactive now).run db with
      | .ok (_, policy, draft) db₁ =>
        match checkDraft draft ((nonEmpty (some policy.timezone)).getD defaultZone) with
        | .ok _ => .ok r db₁
        | .error e => .error e db₁
      | .error e db₁ => .error e db₁ := by
  cases hdraft : (bookingDraft ctx req enforcePolicy includeInactive now).run db with
  | error e db₁ =>
    apply run_eq_error
    simp only [book, wp_bind, wp_of_run_error hdraft, and_self]
  | ok res db₁ =>
    obtain ⟨store, policy, draft⟩ := res
    -- the reads leave the reservations, and the draft asks for the request's key
    have hrows : SameRows db db₁ := by
      have hreads := readsOnly_bookingDraft ctx req enforcePolicy includeInactive now db
      rwa [wp_of_run_ok hdraft] at hreads
    have hdkey : draft.idempotencyKey = some k := by
      have hres := returns_bookingDraft ctx req enforcePolicy includeInactive now db
      rw [wp_of_run_ok hdraft] at hres
      exact hres.key.trans hkey
    have hsame := hrows.reservations_eq
    have hins := insertOrReplay_replays { ctx with store := some store.id }
      (some policy.timezone) hk hdkey (hc.keep hsame hrows.1)
      (hapart.of_views (by rw [keyViews, keyViews, hsame])) (hsame ▸ hr) hrt hrk
    cases hcheck : checkDraft draft ((nonEmpty (some policy.timezone)).getD defaultZone) with
    | error e =>
      rw [hcheck] at hins
      simp only [hcheck]
      apply run_eq_error
      simp only [book, wp_bind, wp_of_run_ok hdraft, wp_of_run_error hins, and_self]
    | ok v =>
      rw [hcheck] at hins
      simp only [hcheck]
      apply run_eq_ok
      simp only [book, wp_bind, wp_of_run_ok hdraft, wp_of_run_ok hins, Bool.false_eq_true,
        ↓reduceIte, wp_pure, and_self]

/-- The empty key is stored but never looked up: once a reservation of the tenant carries
it, a second write with it in that tenant never succeeds. -/
theorem insertOrReplay_empty_key_fails {db : Database} {ctx : Context} {d : Draft}
    (timezone : Option String) (hkey : d.idempotencyKey = some "") {r : Reservation}
    (hr : r ∈ db.reservations) (hrt : r.tenant = ctx.tenant) (hrk : r.idempotencyKey = some "") :
    ∃ e db', (insertOrReplay ctx d timezone).run db = .error e db' := by
  have hends := wp_and (insertOrReplay_wp ctx d timezone db) (insertOrReplay_creates ctx d timezone db)
  cases hrun : (insertOrReplay ctx d timezone).run db with
  | error e db' => exact ⟨e, db', rfl⟩
  | ok res db' =>
    rw [wp_of_run_ok hrun] at hends
    obtain ⟨hwrote, hcreates⟩ := hends
    rcases hwrote with ⟨hcreated, -⟩ | ⟨-, hreplay, -⟩
    · -- a created row passed the storage check, which `r` fails
      obtain ⟨-, -, -, -, -, -, -, -, -, hfree, -⟩ := hcreates hcreated
      exact absurd hrk (hfree "" hkey r hr hrt)
    · -- the empty key is never looked up
      rw [hkey] at hreplay
      cases hreplay

end Reservations

theorem Reachable.keysApart {db : Database} (h : Reachable db) : KeysApart db :=
  Reachable.holds keysApart_keeps (fun _ hempty a ha => by simp [hempty] at ha) h

/-- A reservation that carries a key still carries it, under its id and tenant, after
any call. -/
theorem Reachable.key_kept {db : Database} (h : Reachable db) (c : Call) {r : Reservation}
    (hr : r ∈ db.reservations) :
    ∃ r' ∈ (c.after db).reservations, r'.keyView = r.keyView := by
  have hafter := Call.after_keeps (keyViews_keeps (keyViews db)) c ⟨h.consistent, List.prefix_refl _⟩
  exact mem_keyViews.mp (hafter.2.subset (mem_keyViews.mpr ⟨r, hr, rfl⟩))

/-- What idempotency keys promise in a database. At most one reservation of a tenant
carries each key, and every call keeps each reservation's id, tenant and key. A write
or a booking with a non-empty key that a reservation `r` of the tenant carries answers
`r`, not created, once its draft passes the checks of a new reservation, and otherwise
fails as those checks do, never in storage; either way it writes nothing, and a booking
adds no audit entry. -/
structure KeyedReplays (db : Database) : Prop where
  apart : KeysApart db
  kept : ∀ (c : Call) (r : Reservation), r ∈ db.reservations →
    ∃ r' ∈ (c.after db).reservations, r'.keyView = r.keyView
  writes : ∀ (ctx : Context) (k : String) (r : Reservation) (d : Draft)
    (timezone : Option String), k ≠ "" → r ∈ db.reservations → r.tenant = ctx.tenant →
    r.idempotencyKey = some k → d.idempotencyKey = some k →
    Fails (checkDraft d ((nonEmpty timezone).getD defaultZone)) NotIntegrity ∧
    (insertOrReplay ctx d timezone).run db =
      match checkDraft d ((nonEmpty timezone).getD defaultZone) with
      | .ok _ => .ok (r, false) db
      | .error e => .error e db
  books : ∀ (ctx : Context) (k : String) (r : Reservation) (req : BookingRequest) (actor : Actor)
    (enforcePolicy includeInactive : Bool) (now : Option Stamp), k ≠ "" →
    r ∈ db.reservations → r.tenant = ctx.tenant → r.idempotencyKey = some k →
    req.idempotencyKey = some k →
    ReadsOnly (bookingDraft ctx req enforcePolicy includeInactive now) ∧
    (book ctx req actor enforcePolicy includeInactive now).run db =
      match (bookingDraft ctx req enforcePolicy includeInactive now).run db with
      | .ok (_, policy, draft) db₁ =>
        match checkDraft draft ((nonEmpty (some policy.timezone)).getD defaultZone) with
        | .ok _ => .ok r db₁
        | .error e => .error e db₁
      | .error e db₁ => .error e db₁

/-- Every reachable database keeps the promise of idempotency keys. -/
theorem Reachable.idempotent_writes {db : Database} (h : Reachable db) : KeyedReplays db := by
  have hc := h.consistent
  have hapart := h.keysApart
  refine ⟨hapart, fun c _ hr => h.key_kept c hr, ?_, ?_⟩
  · intro ctx k r d timezone hk hr hrt hrk hkey
    exact ⟨fails_checkDraft _ _, insertOrReplay_replays ctx timezone hk hkey hc hapart hr hrt hrk⟩
  · intro ctx k r req actor enforcePolicy includeInactive now hk hr hrt hrk hkey
    exact ⟨readsOnly_bookingDraft _ _ _ _ _,
      book_replays actor enforcePolicy includeInactive now hk hkey hc hapart hr hrt hrk⟩

private def keyedDay : Date := ⟨epochDayNumber + 20002, by decide, by decide⟩
private def keyedNine : TimeOfDay := ⟨32400000000, by decide⟩
private def keyedHalfPastTen : TimeOfDay := ⟨37800000000, by decide⟩
private def keyedCtx : Context := ⟨⟨1⟩, none⟩
private def keyedDraft : Draft :=
  { practitioner := ⟨3⟩, customer := some ⟨4⟩, date := keyedDay, start := keyedNine,
    stop := keyedHalfPastTen, items := some ⟨[⟨⟨2⟩, "Cut", 5000, 60, 0, true⟩], []⟩,
    idempotencyKey := some "abc" }

/-- The table a keyed write leaves on an empty one. -/
private def keyedTable : Database :=
  (Call.create keyedCtx keyedDraft (some "UTC")).after { clock := ⟨⟨keyedDay, keyedNine⟩, 0⟩ }

theorem keyed_table_replays : Reachable keyedTable ∧ KeyedReplays keyedTable :=
  ⟨.step _ (.init _ rfl), Reachable.idempotent_writes (.step _ (.init _ rfl))⟩

end SalonBooking
