import SalonBooking.Proofs.AuditTrail
import SalonBooking.Proofs.SlotEnds

/-!
What a change of a reservation keeps. A booking and a change copy the chosen menus in
the order chosen, numbered from zero with the first as the main one, and always name a
store. A change of such a reservation keeps its identity, its lifecycle, its source,
its idempotency key and its stamps; every party, store, note and reference the request
leaves unset stays as it was; with no menus and no options asked for, the same menus and
options are copied again in the same order. The price is taken again: the nomination
fee is the practitioner's current one, applied as before unless the request says, and
the discount is the request's own.
-/

namespace SalonBooking

open SalonBooking.Calendar Op Database Reservations Booking

/-- Menu lines numbered in order: the `i`-th has sort order `i`, and only the first is
the main one. -/
def Numbered (ms : List MenuLine) : Prop :=
  ms.map (fun m => (m.sortOrder, m.isMain)) = (List.range ms.length).map fun i : Nat => ((i : Int), i == 0)

namespace Numbered

variable {ms ms' : List MenuLine}

/-- Numbered lines are in the order of their sort orders. -/
theorem sorted (h : Numbered ms) :
    ms.Pairwise fun a b => decide (a.sortOrder ≤ b.sortOrder) = true := by
  have hsort : ms.map (·.sortOrder) = (List.range ms.length).map fun i : Nat => (i : Int) := by
    have := congrArg (List.map Prod.fst) h
    simpa only [List.map_map, Function.comp_def] using this
  have hrange : ((List.range ms.length).map fun i : Nat => (i : Int)).Pairwise (· ≤ ·) := by
    rw [List.pairwise_map]
    exact List.pairwise_lt_range.imp fun hlt => by omega
  rw [← hsort, List.pairwise_map] at hrange
  exact hrange.imp fun hle => decide_eq_true hle

/-- Two numbered lists of one length have the same main flags. -/
theorem isMain_eq (h : Numbered ms) (h' : Numbered ms') (hlen : ms.length = ms'.length) :
    ms.map (·.isMain) = ms'.map (·.isMain) := by
  have hmain := congrArg (List.map Prod.snd) h
  have hmain' := congrArg (List.map Prod.snd) h'
  simp only [List.map_map, Function.comp_def] at hmain hmain'
  rw [hmain, hmain', hlen]

end Numbered

/-- A reservation's numbered menus are already in their order. -/
theorem Reservation.sortedMenus_of_numbered {r : Reservation} (h : Numbered r.menuItems) :
    r.sortedMenus = r.menuItems :=
  List.mergeSort_of_pairwise h.sorted

/-- A row found by its tenant and id has that id. -/
theorem find?_id {α : Type} {tenantOf idOf : α → Uuid} {l : List α} {t id : Uuid} {x : α}
    (h : l.find? (fun y => tenantOf y == t && idOf y == id) = some x) : idOf x = id := by
  have hsat := List.find?_some h
  simp only [Bool.and_eq_true, beq_iff_eq] at hsat
  exact hsat.2

namespace Op

variable {α β γ δ : Type} {P Q : α → Prop}

theorem Returns.imp {x : Op α} (h : Returns x P) (hPQ : ∀ a, P a → Q a) : Returns x Q :=
  fun db => wp_mono (h db) (fun a _ => hPQ a) fun _ _ h => h

/-- A run over a list answers one value per element, in order, each with its element's
image under `proj`. -/
theorem returns_mapM {f : β → Op γ} (proj : γ → δ) (g : β → δ) (l : List β)
    (hf : ∀ b ∈ l, Returns (f b) fun c => proj c = g b) :
    Returns (l.mapM f) fun cs => cs.map proj = l.map g := by
  induction l with
  | nil =>
    rw [List.mapM_nil]
    exact returns_pure rfl
  | cons b l ih =>
    rw [List.mapM_cons]
    refine (hf b List.mem_cons_self).bind fun c hc =>
      (ih fun b' hb' => hf b' (List.mem_cons_of_mem _ hb')).bind fun cs hcs => returns_pure ?_
    rw [List.map_cons, List.map_cons, hc, hcs]

/-- `x` only reads, and every answer it gives from a database with the rows of `db`
satisfies `P`: the facts `P` states of `db` hold wherever in a read `x` runs. -/
def Finds (x : Op α) (db : Database) (P : α → Prop) : Prop :=
  ∀ db₁, SameRows db db₁ →
    wp x (fun a db₂ => SameRows db db₂ ∧ P a) (fun _ db₂ => SameRows db db₂) db₁

variable {db : Database} {x : Op α} {f : α → Op β} {R : β → Prop}

theorem Finds.bind (hx : Finds x db P) (hf : ∀ a, P a → Finds (f a) db R) : Finds (x >>= f) db R := by
  intro db₁ h₁
  rw [wp_bind]
  exact wp_mono (hx db₁ h₁) (fun a db₂ ⟨h₂, ha⟩ => hf a ha db₂ h₂) fun _ _ h => h

theorem finds_pure {a : α} (h : P a) : Finds (pure a) db P := fun _ h₁ => ⟨h₁, h⟩

theorem finds_throw_bind (e : Fault) (f : α → Op β) : Finds (throw e >>= f) db R :=
  fun _ h₁ => h₁

/-- A read whose every answer satisfies `P` finds `P`. -/
theorem finds_of_returns (hx : ReadsOnly x) (h : Returns x P) : Finds x db P :=
  fun db₁ h₁ => wp_mono (wp_and (hx db₁) (h db₁)) (fun _ _ h₂ => ⟨h₁.trans h₂.1, h₂.2⟩)
    fun _ _ h₂ => h₁.trans h₂.1

end Op

namespace Booking

/-- The menus chosen are copied in the order chosen, numbered from zero. -/
theorem returns_menuLines_numbered (ctx : Context) (ids : List Uuid) (includeInactive : Bool) :
    Returns (menuLines ctx ids includeInactive) fun ms => ms.map (·.menu) = ids ∧ Numbered ms := by
  unfold menuLines
  refine (returns_any get).bind fun db _ => ?_
  refine (returns_mapM (fun m => (m.menu, m.sortOrder, m.isMain))
    (fun p => (p.1, (p.2 : Int), p.2 == 0)) _ ?_).imp ?_
  · rintro ⟨id, i⟩ -
    dsimp only
    split
    · next m hm =>
      split
      · exact returns_pure (by rw [find?_id hm])
      · exact fun _ => trivial
    · exact fun _ => trivial
  · intro ms hms
    have hlen : ms.length = ids.length := by simpa using congrArg List.length hms
    have hids := congrArg (List.map Prod.fst) hms
    have hnums := congrArg (List.map Prod.snd) hms
    simp only [List.map_map, Function.comp_def] at hids hnums
    refine ⟨?_, ?_⟩
    · rw [hids]
      exact List.zipIdx_map_fst 0 ids
    · unfold Numbered
      rw [hnums, hlen, List.range_eq_range', ← List.zipIdx_map_snd 0 ids, List.map_map]
      rfl

/-- The options chosen are copied in the order chosen. -/
theorem returns_optionLines_ids (ctx : Context) (ids : List Uuid) (includeInactive : Bool) :
    Returns (optionLines ctx ids includeInactive) fun os => os.map (·.option) = ids := by
  unfold optionLines
  refine (returns_any get).bind fun db _ => ?_
  refine (returns_mapM (·.option) id _ ?_).imp fun os hos => by
    rwa [List.map_id] at hos
  intro oid _
  split
  · next o ho =>
    split
    · exact returns_pure (find?_id ho : o.id = oid)
    · exact fun _ => trivial
  · exact fun _ => trivial

/-- The chosen menus and options are copied in the order chosen, the menus numbered. -/
theorem returns_resolveSelection_lines (ctx : Context) (menus options : List Uuid)
    (includeInactive : Bool) :
    Returns (resolveSelection ctx menus options includeInactive) fun s =>
      s.menus.map (·.menu) = menus ∧ Numbered s.menus ∧ s.options.map (·.option) = options :=
  (returns_menuLines_numbered ctx menus includeInactive).bind fun _ hms =>
    (returns_optionLines_ids ctx options includeInactive).bind fun _ hos =>
      returns_pure ⟨hms.1, hms.2, hos⟩

/-- A store asked for by id is the store with that id. -/
theorem returns_resolveStore_named (ctx : Context) (store : Option Uuid) :
    Returns (resolveStore ctx store) fun sp => ∀ sid, store = some sid → sp.1.id = sid := by
  intro db
  cases store with
  | none => exact wp_mono (returns_any _ db) (fun _ _ _ _ h => nomatch h) fun _ _ h => h
  | some sid =>
    simp only [resolveStore, wp_bind, wp_get, Option.orElse_some]
    split
    · next s hs =>
      rintro _ ⟨⟩
      exact find?_id hs
    · trivial

/-- A practitioner that passes the checks is the tenant's practitioner with the id asked
for. -/
theorem loadPractitioner_finds (ctx : Context) (pid : Uuid) (store : Store) (db : Database) :
    wp (loadPractitioner ctx pid store) (fun p _ => db.practitioner? ctx.tenant pid = some p)
      (fun _ _ => True) db := by
  simp only [loadPractitioner, wp_bind, wp_get]
  split
  · next p hp =>
    -- every check that follows answers the practitioner read
    refine wp_mono ((?_ : Returns _ (· = p)) db) (fun _ _ h => h ▸ hp) fun _ _ _ => trivial
    split
    · exact fun _ => trivial
    · refine (returns_any _).bind fun _ _ => ?_
      split
      · exact fun _ => trivial
      · exact returns_pure rfl
  · trivial

/-- A customer found is the tenant's customer with the id asked for. -/
theorem loadCustomer_finds (ctx : Context) (cid : Uuid) (db : Database) :
    wp (loadCustomer ctx (some cid)) (fun c _ => db.customer? ctx.tenant cid = some c)
      (fun _ _ => True) db := by
  simp only [loadCustomer, wp_bind, wp_get]
  split
  · next c hc => exact hc
  · trivial

end Booking

namespace Database.SameRows

variable {db db₁ : Database}

theorem customer?_eq (h : SameRows db db₁) (t id : Uuid) : db₁.customer? t id = db.customer? t id := by
  obtain ⟨-, n, c, rfl⟩ := h
  rfl

theorem practitioner?_eq (h : SameRows db db₁) (t id : Uuid) :
    db₁.practitioner? t id = db.practitioner? t id := by
  obtain ⟨-, n, c, rfl⟩ := h
  rfl

end Database.SameRows

namespace Booking

variable {db : Database}

theorem finds_fetch (ctx : Context) (id : Uuid) :
    Finds (fetch ctx id) db fun r => db.reservation? ctx.tenant id = some r := by
  intro db₁ h₁
  rw [wp_fetch, reservation?_of_rows db h₁.reservations_eq]
  split
  · next r hr => exact ⟨h₁, hr⟩
  · exact h₁

theorem finds_loadPractitioner (ctx : Context) (pid : Uuid) (store : Store) :
    Finds (loadPractitioner ctx pid store) db fun p => db.practitioner? ctx.tenant pid = some p :=
  fun db₁ h₁ => wp_mono (wp_and (readsOnly_loadPractitioner ctx pid store db₁)
    (loadPractitioner_finds ctx pid store db₁))
    (fun _ _ h₂ => ⟨h₁.trans h₂.1, by rw [← h₁.practitioner?_eq]; exact h₂.2⟩)
    fun _ _ h₂ => h₁.trans h₂.1

theorem finds_loadCustomer (ctx : Context) (cid : Uuid) :
    Finds (loadCustomer ctx (some cid)) db fun c => db.customer? ctx.tenant cid = some c :=
  fun db₁ h₁ => wp_mono (wp_and (readsOnly_loadCustomer ctx (some cid) db₁)
    (loadCustomer_finds ctx cid db₁))
    (fun _ _ h₂ => ⟨h₁.trans h₂.1, by rw [← h₁.customer?_eq]; exact h₂.2⟩)
    fun _ _ h₂ => h₁.trans h₂.1

/-- What the draft of a change of reservation `r` into store `store` takes from the
request, from `r`, and from the catalog of `db`. -/
structure Redrafted (db : Database) (ctx : Context) (req : BookingRequest) (r : Reservation)
    (store : Store) (d : Draft) : Prop where
  store : d.store = some store.id ∧
    ∀ sid, (req.store.orElse fun _ => r.store) = some sid → store.id = sid
  practitioner : ∃ p, db.practitioner? ctx.tenant (req.practitioner.getD r.practitioner) = some p ∧
    d.practitioner = p.id ∧
    d.nominationFee =
      if req.isNomination.getD (decide (r.nominationFee > 0)) then p.nominationFee.getD 0 else 0
  customer : ∃ c, db.customer? ctx.tenant (req.customer.getD r.customer) = some c ∧
    d.customer = some c.id ∧
    d.customerName = firstText req.customerName (firstText r.customerName (some c.name)) ∧
    d.customerPhone = firstText req.customerPhone (firstText r.customerPhone c.phone)
  items : ∃ items, d.items = some items ∧ Numbered items.menus ∧
    items.menus.map (·.menu) =
      (if req.menuIds.isEmpty then r.sortedMenus.map (·.menu) else req.menuIds) ∧
    items.options.map (·.option) = req.optionIds.getD (r.optionItems.map (·.option))
  discount : d.discount = req.discount
  source : d.source = r.source
  notes : d.customerNote = req.customerNote.orElse (fun _ => r.customerNote) ∧
    d.staffNote = req.staffNote.orElse (fun _ => r.staffNote)
  references : d.googleCalendarId = firstText req.googleCalendarId r.googleCalendarId ∧
    d.googleCalendarEventId = firstText req.googleCalendarEventId r.googleCalendarEventId ∧
    d.externalReservationId = firstText req.externalReservationId r.externalReservationId

/-- A change drafts from the tenant's reservation `id` as it is stored. -/
theorem finds_reschedulingDraft (ctx : Context) (id : Uuid) (req : BookingRequest)
    (enforcePolicy : Bool) (customer : Option Uuid) (includeInactive : Bool) (now : Option Stamp) :
    Finds (reschedulingDraft ctx id req enforcePolicy customer includeInactive now) db fun res =>
      db.reservation? ctx.tenant id = some res.1 ∧ Redrafted db ctx req res.1 res.2.1 res.2.2.2 := by
  unfold reschedulingDraft
  refine (finds_fetch ctx id).bind fun r hr =>
    (finds_of_returns (readsOnly_lift _) (returns_any _)).bind fun _ _ => ?_
  dsimp only
  split
  · exact finds_throw_bind _ _
  · cases enforcePolicy <;> simp only [Bool.false_eq_true, ↓reduceIte]
    -- with the policy enforced, the old slot's cancellation deadline is checked first, and
    -- the new date's booking window once the store is found
    all_goals try refine
      (finds_of_returns (readsOnly_resolveStore ctx r.store) (returns_any _)).bind fun _ _ =>
        (finds_of_returns (readsOnly_instant now) (returns_any _)).bind fun _ _ =>
        (finds_of_returns (readsOnly_lift _) (returns_any _)).bind fun _ _ => ?_
    all_goals refine (finds_of_returns (readsOnly_resolveStore ctx _)
      (returns_resolveStore_named ctx _)).bind fun ⟨store, policy⟩ hstore => ?_
    all_goals dsimp only
    all_goals try refine (finds_of_returns (readsOnly_instant now) (returns_any _)).bind fun _ _ =>
      (finds_of_returns (readsOnly_lift _) (returns_any _)).bind fun _ _ => ?_
    all_goals
      exact (finds_loadPractitioner ctx _ store).bind fun p hp =>
        (finds_loadCustomer ctx _).bind fun c hc =>
        (finds_of_returns (readsOnly_resolveSelection ctx _ _ includeInactive)
          (returns_resolveSelection_lines ctx _ _ includeInactive)).bind fun items hitems =>
        (finds_of_returns (readsOnly_lift _) (returns_any _)).bind fun _ _ =>
          finds_pure ⟨hr, ⟨⟨rfl, hstore⟩, ⟨p, hp, rfl, rfl⟩, ⟨c, hc, rfl, rfl, rfl⟩,
            ⟨items, rfl, hitems.2.1, hitems.1, hitems.2.2⟩, rfl, rfl, ⟨rfl, rfl⟩, ⟨rfl, rfl, rfl⟩⟩⟩

end Booking

namespace Reservations

/-- A draft applied to `r` writes the draft's slot, parties, notes and references and
its checked price over `r`, and keeps the rest of `r`. -/
theorem applyDraft_ok_eq {r r₁ : Reservation} {d : Draft} {customer : Uuid} {zone : String}
    {a b : DateTime} (h : applyDraft r d customer zone a b = .ok r₁) :
    r₁ = { r with
      store := d.store, customer := customer, customerName := d.customerName
      customerPhone := d.customerPhone, practitioner := d.practitioner
      practitionerName := d.practitionerName, date := d.date, start := d.start, stop := d.stop
      periodStart := a, periodEnd := b, timezone := zone
      subtotal := r₁.subtotal, optionTotal := r₁.optionTotal, nominationFee := d.nominationFee
      discount := d.discount, totalPrice := r₁.totalPrice, duration := r₁.duration
      source := d.source, customerNote := d.customerNote, staffNote := d.staffNote
      googleCalendarId := d.googleCalendarId, googleCalendarEventId := d.googleCalendarEventId
      externalReservationId := d.externalReservationId } := by
  unfold applyDraft at h
  simp only [bind, Except.bind] at h
  split at h
  · cases h
  · next p hp =>
    simp only [pure, Except.pure, Except.ok.injEq] at h
    subst h
    -- the checked breakdown carries the draft's fee and discount
    obtain ⟨rfl, -, -⟩ := Pricing.breakdown_ok (mapError_eq_ok.mp hp)
    rfl

/-- A write of a draft adds at most one row, in the draft's store. -/
theorem insertOrReplay_newRows_store (ctx : Context) (d : Draft) (timezone : Option String)
    (db : Database) :
    wp (insertOrReplay ctx d timezone) (fun _ db' => NewRows db db' (·.store = d.store))
      (fun _ db' => NewRows db db' (·.store = d.store)) db := by
  refine wp_mono (wp_and (insertOrReplay_wp ctx d timezone db) (insertOrReplay_creates ctx d timezone db))
    ?_ fun _ _ h => NewRows.of_sameRows h.1
  rintro ⟨r, created⟩ db' ⟨⟨rfl, -, -⟩ | ⟨-, -, hrows⟩, hnew⟩
  · obtain ⟨_, _, _, _, drafted, _, -, hdraft, rfl, -, hrows⟩ := hnew rfl
    exact NewRows.append hrows (congrArg (·.store) (applyDraft_ok_eq hdraft))
  · exact NewRows.of_sameRows hrows

/-- An update that replaces the items puts back one row, in the draft's store. -/
theorem replace_newRows_store (ctx : Context) (id : Uuid) (d : Draft) (timezone : Option String)
    (db : Database) :
    wp (replace ctx id d timezone true) (fun _ db' => NewRows db db' (·.store = d.store))
      (fun _ db' => NewRows db db' (·.store = d.store)) db := by
  refine wp_mono (wp_and (replace_wp ctx id d timezone true db) (replace_rewrites ctx id d timezone true db))
    ?_ fun _ _ h => NewRows.of_sameRows h.1
  rintro r' db' ⟨-, r, a, b, r₁, stamp, -, -, -, -, hdraft, rfl, hrows⟩
  rw [if_pos rfl] at hdraft
  exact NewRows.put hrows (congrArg (·.store) (applyDraft_ok_eq hdraft))

end Reservations

theorem NewRows.and {db db' : Database} {P Q : Reservation → Prop} (hP : NewRows db db' P)
    (hQ : NewRows db db' Q) : NewRows db db' fun r => P r ∧ Q r :=
  fun r hr hnot => ⟨hP r hr hnot, hQ r hr hnot⟩

/-- A reservation as a booking or a change writes it: in a store, with its menus numbered
in order. -/
structure Reservation.Booked (r : Reservation) : Prop where
  store : r.store.isSome
  numbered : Numbered r.menuItems

/-- A draft as a booking or a change makes it: for a store, with numbered menus. -/
def Draft.Booked (d : Draft) : Prop :=
  d.store.isSome ∧ ∃ items, d.items = some items ∧ Numbered items.menus

/-- A row stored from a booked draft, in the draft's store, is booked. -/
theorem Reservation.WrittenFrom.booked {r : Reservation} {d : Draft} (hw : r.WrittenFrom d)
    (hs : r.store = d.store) (hd : d.Booked) : r.Booked := by
  obtain ⟨hstore, items, hitems, hnum⟩ := hd
  obtain rfl : items = ⟨r.menuItems, r.optionItems⟩ := Option.some.inj (hitems.symm.trans hw.lines)
  exact ⟨hs ▸ hstore, hnum⟩

namespace Reservations

/-- The rows a write of a booked draft adds are booked. -/
theorem insertOrReplay_newRows_booked {d : Draft} (hd : d.Booked) (ctx : Context)
    (timezone : Option String) (db : Database) :
    wp (insertOrReplay ctx d timezone) (fun _ db' => NewRows db db' (·.Booked))
      (fun _ db' => NewRows db db' (·.Booked)) db := by
  have hrow : ∀ r : Reservation, r.WrittenFrom d ∧ r.store = d.store → r.Booked :=
    fun _ h => h.1.booked h.2 hd
  refine wp_mono (wp_and (insertOrReplay_newRows_written ctx d timezone db)
    (insertOrReplay_newRows_store ctx d timezone db)) ?_ ?_
  · exact fun _ _ h => (h.1.and h.2).imp hrow
  · exact fun _ _ h => (h.1.and h.2).imp hrow

/-- The row an update with a booked draft puts back is booked. -/
theorem replace_newRows_booked {d : Draft} (hd : d.Booked) (ctx : Context) (id : Uuid)
    (timezone : Option String) (db : Database) :
    wp (replace ctx id d timezone true) (fun _ db' => NewRows db db' (·.Booked))
      (fun _ db' => NewRows db db' (·.Booked)) db := by
  have hrow : ∀ r : Reservation, r.WrittenFrom d ∧ r.store = d.store → r.Booked :=
    fun _ h => h.1.booked h.2 hd
  refine wp_mono (wp_and (replace_newRows_written ctx id d timezone db)
    (replace_newRows_store ctx id d timezone db)) ?_ ?_
  · exact fun _ _ h => (h.1.and h.2).imp hrow
  · exact fun _ _ h => (h.1.and h.2).imp hrow

end Reservations

namespace Booking

variable {ctx : Context} {req : BookingRequest} {actor : Actor} {enforcePolicy includeInactive : Bool}
  {now : Option Stamp}

/-- A booking request's draft is for the store resolved, with the chosen menus numbered. -/
theorem returns_bookingDraft_booked (ctx : Context) (req : BookingRequest) (enforcePolicy : Bool)
    (includeInactive : Bool) (now : Option Stamp) :
    Returns (bookingDraft ctx req enforcePolicy includeInactive now) (·.2.2.Booked) := by
  unfold bookingDraft
  split
  · dsimp only
    split
    · exact fun _ => trivial
    · refine (returns_any _).bind fun ⟨store, policy⟩ _ => ?_
      dsimp only
      split
      -- with the policy enforced, the clock is read and the booking window checked first
      all_goals try refine (returns_any (instant now)).bind fun _ _ =>
        (returns_any _).bind fun _ _ => ?_
      all_goals
        exact (returns_any _).bind fun _ _ => (returns_any _).bind fun _ _ =>
          (returns_resolveSelection_lines ctx _ _ includeInactive).bind fun items hitems =>
          (returns_any _).bind fun _ _ => returns_pure ⟨rfl, items, rfl, hitems.2.1⟩
  · exact fun _ => trivial

/-- A rescheduling request's draft is for the store resolved, with the chosen menus
numbered. -/
theorem returns_reschedulingDraft_booked (ctx : Context) (id : Uuid) (req : BookingRequest)
    (enforcePolicy : Bool) (customer : Option Uuid) (includeInactive : Bool) (now : Option Stamp) :
    Returns (reschedulingDraft ctx id req enforcePolicy customer includeInactive now)
      (·.2.2.2.Booked) := by
  intro db
  refine wp_mono (finds_reschedulingDraft ctx id req enforcePolicy customer includeInactive now db
    (SameRows.refl db)) (fun res _ ⟨_, _, hd⟩ => ?_) fun _ _ _ => trivial
  obtain ⟨items, hitems, hnum, -⟩ := hd.items
  exact ⟨by rw [hd.store.1]; rfl, items, hitems, hnum⟩

/-- Every row a booking adds is booked. -/
theorem book_newRows_booked (db : Database) :
    wp (book ctx req actor enforcePolicy includeInactive now) (fun _ db' => NewRows db db' (·.Booked))
      (fun _ db' => NewRows db db' (·.Booked)) db :=
  book_newRows_of (returns_bookingDraft_booked ctx req enforcePolicy includeInactive now)
    (fun _ hd => insertOrReplay_newRows_booked hd) db

/-- The row a change puts back is booked. -/
theorem reschedule_newRows_booked (id : Uuid) (customer : Option Uuid) (db : Database) :
    wp (reschedule ctx id req actor enforcePolicy customer includeInactive now)
      (fun _ db' => NewRows db db' (·.Booked)) (fun _ db' => NewRows db db' (·.Booked)) db :=
  reschedule_newRows_of
    (returns_reschedulingDraft_booked ctx id req enforcePolicy customer includeInactive now)
    (fun _ hd ctx' timezone => replace_newRows_booked hd ctx' id timezone) db

/-- What a change of reservation `r` by request `req` answers, read in `db`: `r` with its
identity, lifecycle, source, key and stamps kept, each party, store, note and reference
the request leaves unset kept, its menus and options copied again when none are asked
for, the nomination fee priced anew and the request's discount. -/
structure Rescheduled (db : Database) (ctx : Context) (req : BookingRequest) (r r' : Reservation) :
    Prop where
  id : r'.id = r.id
  tenant : r'.tenant = r.tenant
  status : r'.status = r.status
  source : r'.source = r.source
  key : r'.idempotencyKey = r.idempotencyKey
  createdAt : r'.createdAt = r.createdAt
  canceled : r'.canceledAt = r.canceledAt ∧ r'.cancelReason = r.cancelReason
  reminded : r'.reminderSentAt = r.reminderSentAt
  practitioner : r'.practitioner = req.practitioner.getD r.practitioner
  customer : r'.customer = req.customer.getD r.customer
  store : r'.store = req.store.orElse fun _ => r.store
  menus : req.menuIds = [] → r'.menuItems.map (·.menu) = r.menuItems.map (·.menu) ∧
    r'.menuItems.map (·.isMain) = r.menuItems.map (·.isMain)
  options : req.optionIds = none → r'.optionItems.map (·.option) = r.optionItems.map (·.option)
  contact : ∃ c, db.customer? ctx.tenant r'.customer = some c ∧
    r'.customerName = firstText req.customerName (firstText r.customerName (some c.name)) ∧
    r'.customerPhone = firstText req.customerPhone (firstText r.customerPhone c.phone)
  notes : r'.customerNote = req.customerNote.orElse (fun _ => r.customerNote) ∧
    r'.staffNote = req.staffNote.orElse (fun _ => r.staffNote)
  references : r'.googleCalendarId = firstText req.googleCalendarId r.googleCalendarId ∧
    r'.googleCalendarEventId = firstText req.googleCalendarEventId r.googleCalendarEventId ∧
    r'.externalReservationId = firstText req.externalReservationId r.externalReservationId
  nomination : ∃ p, db.practitioner? ctx.tenant r'.practitioner = some p ∧
    r'.nominationFee =
      if req.isNomination.getD (decide (0 < r.nominationFee)) then p.nominationFee.getD 0 else 0
  discount : r'.discount = req.discount

/-- A change of a booked reservation answers it rescheduled. -/
theorem reschedule_rescheduled {db : Database} {id : Uuid} {r : Reservation}
    (hfetch : db.reservation? ctx.tenant id = some r) (hbooked : r.Booked) (customer : Option Uuid) :
    wp (reschedule ctx id req actor enforcePolicy customer includeInactive now)
      (fun r' _ => Rescheduled db ctx req r r') (fun _ _ => True) db := by
  unfold reschedule
  rw [wp_bind]
  refine wp_mono (finds_reschedulingDraft ctx id req enforcePolicy customer includeInactive now db
    (SameRows.refl db)) (fun ⟨r₀, store, policy, d⟩ db₁ ⟨h₁, hfetch₀, hd⟩ => ?_) fun _ _ _ => trivial
  dsimp only at hfetch₀ hd
  obtain rfl : r = r₀ := Option.some.inj (hfetch.symm.trans hfetch₀)
  rw [wp_bind]
  refine wp_mono (replace_rewrites _ id d _ true db₁) (fun r' db₂ h₂ => ?_) fun _ _ _ => trivial
  obtain ⟨r₂, a, b, r₁, stamp, hfetch₂, -, -, -, hdraft, rfl, -⟩ := h₂
  obtain rfl : r = r₂ := by
    rw [reservation?_of_rows db h₁.reservations_eq] at hfetch₂
    exact Option.some.inj (hfetch.symm.trans hfetch₂)
  -- the audit entry does not change the answer
  rw [wp_bind]
  refine wp_mono (returns_any _ db₂) (fun _ _ _ => ?_) fun _ _ _ => trivial
  rw [if_pos rfl] at hdraft
  have hr₁ := applyDraft_ok_eq hdraft
  obtain ⟨⟨hstore, hstoreId⟩, ⟨p, hp, hpd, hfee⟩, ⟨c, hc, hcd, hname, hphone⟩,
    ⟨items, hitems, hnum, hmenus, hoptions⟩, hdisc, hsrc, ⟨hcn, hsn⟩, ⟨hg₁, hg₂, hg₃⟩⟩ := hd
  -- a booked reservation names its store, so the store asked for is named
  obtain ⟨sid, hsid⟩ : ∃ sid, (req.store.orElse fun _ => r.store) = some sid := by
    cases req.store with
    | some sid => exact ⟨sid, rfl⟩
    | none => exact Option.isSome_iff_exists.mp hbooked.store
  have hpractitioner : r₁.practitioner = req.practitioner.getD r.practitioner :=
    (congrArg (·.practitioner) hr₁).trans (hpd.trans (find?_id hp))
  have hcustomer : r₁.customer = req.customer.getD r.customer :=
    (congrArg (·.customer) hr₁).trans (by simp only [hcd, Option.getD_some]; exact find?_id hc)
  simp only [wp_pure, ↓reduceIte, hitems, Option.map_some, Option.getD_some]
  refine ⟨congrArg (·.id) hr₁, congrArg (·.tenant) hr₁, congrArg (·.status) hr₁,
    (congrArg (·.source) hr₁).trans hsrc, congrArg (·.idempotencyKey) hr₁,
    congrArg (·.createdAt) hr₁, ⟨congrArg (·.canceledAt) hr₁, congrArg (·.cancelReason) hr₁⟩,
    congrArg (·.reminderSentAt) hr₁, hpractitioner, hcustomer, ?_, ?_, ?_,
    ⟨c, by rw [hcustomer]; exact hc, (congrArg (·.customerName) hr₁).trans hname,
      (congrArg (·.customerPhone) hr₁).trans hphone⟩,
    ⟨(congrArg (·.customerNote) hr₁).trans hcn, (congrArg (·.staffNote) hr₁).trans hsn⟩,
    ⟨(congrArg (·.googleCalendarId) hr₁).trans hg₁, (congrArg (·.googleCalendarEventId) hr₁).trans hg₂,
      (congrArg (·.externalReservationId) hr₁).trans hg₃⟩,
    ⟨p, by rw [hpractitioner]; exact hp, (congrArg (·.nominationFee) hr₁).trans hfee⟩,
    (congrArg (·.discount) hr₁).trans hdisc⟩
  · calc r₁.store = d.store := congrArg (·.store) hr₁
      _ = some store.id := hstore
      _ = some sid := by rw [hstoreId sid hsid]
      _ = req.store.orElse fun _ => r.store := hsid.symm
  · -- with no menus asked for, those of the booked reservation are copied in their order
    intro hnone
    rw [show req.menuIds.isEmpty = true from List.isEmpty_iff.mpr hnone, if_pos rfl,
      Reservation.sortedMenus_of_numbered hbooked.numbered] at hmenus
    exact ⟨hmenus, hnum.isMain_eq hbooked.numbered (by simpa using congrArg List.length hmenus)⟩
  · intro hnone
    rwa [hnone, Option.getD_none] at hoptions

end Booking

/-- A booking and a change write booked rows; a change of a booked reservation keeps its
identity, lifecycle, source, key and stamps and whatever the request leaves unset, copies
its menus and options again in the same order when none are asked for, and prices the
nomination fee and the discount anew. -/
theorem reschedule_keeps_unset_fields :
    (∀ (ctx : Context) (req : BookingRequest) (actor : Actor) (enforcePolicy includeInactive : Bool)
      (now : Option Stamp) (db : Database),
      wp (book ctx req actor enforcePolicy includeInactive now)
        (fun _ db' => NewRows db db' (·.Booked)) (fun _ db' => NewRows db db' (·.Booked)) db) ∧
    (∀ (ctx : Context) (id : Uuid) (req : BookingRequest) (actor : Actor) (enforcePolicy : Bool)
      (customer : Option Uuid) (includeInactive : Bool) (now : Option Stamp) (db : Database),
      wp (reschedule ctx id req actor enforcePolicy customer includeInactive now)
        (fun _ db' => NewRows db db' (·.Booked)) (fun _ db' => NewRows db db' (·.Booked)) db) ∧
    (∀ (db : Database) (ctx : Context) (id : Uuid) (r : Reservation),
      db.reservation? ctx.tenant id = some r → r.Booked →
      ∀ (req : BookingRequest) (actor : Actor) (enforcePolicy : Bool) (customer : Option Uuid)
        (includeInactive : Bool) (now : Option Stamp),
        wp (reschedule ctx id req actor enforcePolicy customer includeInactive now)
          (fun r' _ => Booking.Rescheduled db ctx req r r') (fun _ _ => True) db) :=
  ⟨fun _ _ _ _ _ _ db => Booking.book_newRows_booked db,
    fun _ id _ _ _ customer _ _ db => Booking.reschedule_newRows_booked id customer db,
    fun _ _ _ _ hfetch hbooked _ _ _ customer _ _ => Booking.reschedule_rescheduled hfetch hbooked customer⟩

private def bookedDay : Date := ⟨epochDayNumber + 20701, by decide, by decide⟩
private def movedDay : Date := ⟨epochDayNumber + 20702, by decide, by decide⟩
private def halfPastEleven : TimeOfDay := ⟨41400000000, by decide⟩
private def halfPastTwelve : TimeOfDay := ⟨45000000000, by decide⟩
private def salonCtx : Context := ⟨⟨1⟩, none⟩
private def salonStaff : Actor := { kind := "admin" }

/-- A salon in UTC with one stylist, one customer and one menu, and no reservation yet. -/
private def salonCatalog : Database :=
  { stores := [⟨⟨2⟩, ⟨1⟩, "Main", some "active", some "UTC", none, none, none, .obj []⟩]
    practitioners := [⟨⟨3⟩, ⟨1⟩, "Sato", true, some 0, .arr [], .obj []⟩]
    customers := [⟨⟨4⟩, ⟨1⟩, "Tanaka", some "09000000000"⟩]
    menus := [⟨⟨5⟩, ⟨1⟩, "Cut", none, 5500, 60, true, some 0⟩]
    issued := 5, clock := ⟨⟨bookedDay, halfPastEleven⟩, 0⟩ }

/-- A cut at half past eleven, booked with a discount of 500. -/
private def discountRequest : BookingRequest :=
  { date := bookedDay, start := halfPastEleven, practitioner := some ⟨3⟩, menuIds := [⟨5⟩],
    store := some ⟨2⟩, customer := some ⟨4⟩, discount := 500 }

/-- The same cut a day later, with nothing else asked. -/
private def laterRequest : BookingRequest :=
  { date := movedDay, start := halfPastEleven, menuIds := [⟨5⟩] }

private def discountTable : Database :=
  (Call.book salonCtx discountRequest salonStaff false false none).after salonCatalog

private def discountRow : Reservation :=
  { id := ⟨6⟩, tenant := ⟨1⟩, store := some ⟨2⟩, customer := ⟨4⟩, customerName := some "Tanaka"
    customerPhone := some "09000000000", practitioner := ⟨3⟩, practitionerName := some "Sato"
    date := bookedDay, start := halfPastEleven, stop := halfPastTwelve
    periodStart := ⟨bookedDay, halfPastEleven⟩, periodEnd := ⟨bookedDay, halfPastTwelve⟩
    timezone := "UTC", subtotal := 5500, optionTotal := 0, nominationFee := 0, discount := 500
    totalPrice := 5000, duration := 60, status := .pending, source := some "line"
    customerNote := none, staffNote := none, canceledAt := none, cancelReason := none
    reminderSentAt := none, googleCalendarId := none, googleCalendarEventId := none
    externalReservationId := none, idempotencyKey := none
    createdAt := ⟨bookedDay, ⟨41400000001, by decide⟩⟩, updatedAt := ⟨bookedDay, ⟨41400000001, by decide⟩⟩
    menuItems := [⟨⟨5⟩, "Cut", 5500, 60, 0, true⟩], optionItems := [] }

set_option maxRecDepth 10000 in
private theorem discountTable_fetch : discountTable.reservation? salonCtx.tenant ⟨6⟩ = some discountRow := by
  rfl

private theorem discountRow_booked : discountRow.Booked := ⟨rfl, rfl⟩

set_option maxRecDepth 10000 in
/-- The reservation booked with a discount of 500, moved a day later by a request that
names its menu and nothing else, is rescheduled. -/
theorem discounted_booking_rescheduled :
    discountTable.reservation? salonCtx.tenant ⟨6⟩ = some discountRow ∧ discountRow.Booked ∧
      wp (reschedule salonCtx ⟨6⟩ laterRequest salonStaff false none false none)
        (fun r' _ => Booking.Rescheduled discountTable salonCtx laterRequest discountRow r')
        (fun _ _ => True) discountTable :=
  ⟨discountTable_fetch, discountRow_booked,
    reschedule_keeps_unset_fields.2.2 discountTable salonCtx ⟨6⟩ discountRow discountTable_fetch
      discountRow_booked laterRequest salonStaff false none false none⟩

set_option maxRecDepth 10000 in
/-- The reservation booked with a discount of 500 loses it when moved a day later by a
request that names its menu and no discount: the change succeeds with the request's
discount of 0. -/
theorem reschedule_drops_discount :
    discountTable.reservation? salonCtx.tenant ⟨6⟩ = some discountRow ∧ discountRow.discount = 500 ∧
      ∃ r' db', (reschedule salonCtx ⟨6⟩ laterRequest salonStaff false none false none).run
        discountTable = .ok r' db' ∧ r'.discount = 0 := by
  obtain ⟨r', db', hrun⟩ : ∃ r' db', (reschedule salonCtx ⟨6⟩ laterRequest salonStaff false none
      false none).run discountTable = .ok r' db' := ⟨_, _, rfl⟩
  have h : wp (reschedule salonCtx ⟨6⟩ laterRequest salonStaff false none false none)
      (fun r' _ => Booking.Rescheduled discountTable salonCtx laterRequest discountRow r')
      (fun _ _ => True) discountTable :=
    Booking.reschedule_rescheduled discountTable_fetch discountRow_booked none
  rw [wp_of_run_ok hrun] at h
  exact ⟨discountTable_fetch, rfl, r', db', hrun, h.discount⟩

end SalonBooking
