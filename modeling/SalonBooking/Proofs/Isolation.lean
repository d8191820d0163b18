import SalonBooking.Proofs.Confinement

/-!
Tenant isolation. Every call made for a tenant `A` is confined to `A`: the store's reads
and writes, the store and selection look-ups, the booking flows and the link service's
list, issue and revoke. Run from two databases whose ids are keys and that agree for
`A`, a call answers the same, or fails with the same fault, and leaves databases that
agree for `A` again; each run keeps every row of every other tenant; and the rows it
answers are `A`'s.

So an id that exists only under another tenant reads as a missing one, an overlap is
looked for among `A`'s reservations only, and counts and totals are over `A`'s rows.
What two runs may still share is drawn from every tenant at once: the ids given out,
the clock, and the link tokens held.
-/

namespace SalonBooking

open SalonBooking.Calendar Op Database Reservations

namespace Booking

section Reads

variable {P : Database → Prop} (ctx : Context)

theorem confined_resolveStore (store : Option Uuid) :
    Confined ctx.tenant P (fun x => x.1.tenant = ctx.tenant) (resolveStore ctx store) := by
  unfold resolveStore
  refine confined_get (fun db₁ db₂ _ _ h => by simp only [h.shares.store?, h.shares.firstStore])
    fun db _ => ?_
  split
  · split
    · next s hs =>
      have hsat := List.find?_some hs
      simp only [Bool.and_eq_true, beq_iff_eq] at hsat
      exact confined_pure _ hsat.1
    · exact confined_throw _
  · split
    · next s hs => exact confined_pure _ (by simpa using List.find?_some hs)
    · exact confined_throw _

theorem confined_instant {A : Uuid} (now : Option Stamp) :
    Confined A P (fun _ => True) (instant now) := by
  unfold instant
  split
  · exact confined_pure _ trivial
  · exact confined_now.seq fun _ _ => confined_pure _ trivial

theorem confined_loadPractitioner (id : Uuid) (store : Store) :
    Confined ctx.tenant P (fun _ => True) (loadPractitioner ctx id store) := by
  unfold loadPractitioner
  refine confined_get (fun db₁ db₂ _ _ h => by rw [h.shares.practitioner? id]) fun db _ => ?_
  split
  · refine Confined.ite (confined_throw_bind _ _) ?_
    refine (confined_check _).seq fun _ _ => ?_
    exact Confined.ite (confined_throw_bind _ _) (confined_pure _ trivial)
  · exact confined_throw _

theorem confined_loadCustomer (id : Option Uuid) :
    Confined ctx.tenant P (fun _ => True) (loadCustomer ctx id) := by
  unfold loadCustomer
  split
  · next id =>
    refine confined_get (fun db₁ db₂ _ _ h => by rw [h.shares.customer? id]) fun db _ => ?_
    split
    · exact confined_pure _ trivial
    · exact confined_throw _
  · exact confined_throw _

theorem confined_menuLines (ids : List Uuid) (includeInactive : Bool) :
    Confined ctx.tenant P (fun _ => True) (menuLines ctx ids includeInactive) := by
  unfold menuLines
  refine confined_get (fun db₁ db₂ _ _ h => by simp only [h.shares.menu?]) fun db _ =>
    Confined.mapM (fun v => ?_) _
  obtain ⟨id, i⟩ := v
  dsimp only
  split
  · exact Confined.ite (confined_pure _ trivial) (confined_throw _)
  · exact confined_throw _

theorem confined_optionLines (ids : List Uuid) (includeInactive : Bool) :
    Confined ctx.tenant P (fun _ => True) (optionLines ctx ids includeInactive) := by
  unfold optionLines
  refine confined_get (fun db₁ db₂ _ _ h => by simp only [h.shares.option?]) fun db _ =>
    Confined.mapM (fun id => ?_) _
  split
  · exact Confined.ite (confined_pure _ trivial) (confined_throw _)
  · exact confined_throw _

theorem confined_resolveSelection (menus options : List Uuid) (includeInactive : Bool) :
    Confined ctx.tenant P (fun _ => True) (resolveSelection ctx menus options includeInactive) :=
  (confined_menuLines ctx menus includeInactive).seq fun _ _ =>
    (confined_optionLines ctx options includeInactive).seq fun _ _ => confined_pure _ trivial

theorem confined_bookingDraft (req : BookingRequest) (enforcePolicy includeInactive : Bool)
    (now : Option Stamp) :
    Confined ctx.tenant P (fun _ => True) (bookingDraft ctx req enforcePolicy includeInactive now) := by
  unfold bookingDraft
  split
  · dsimp only
    refine Confined.ite (confined_throw_bind _ _) ?_
    refine (confined_resolveStore ctx _).seq fun v _ => ?_
    obtain ⟨store, policy⟩ := v
    dsimp only
    refine Confined.ite_of_rest ?_ fun hrest => (confined_instant _).seq fun _ _ =>
      (confined_check _).seq fun _ _ => hrest
    refine (confined_loadPractitioner ctx _ _).seq fun p _ => ?_
    refine (confined_loadCustomer ctx _).seq fun c _ => ?_
    refine (confined_resolveSelection ctx _ _ _).seq fun items _ => ?_
    exact (confined_check _).seq fun _ _ => confined_pure _ trivial
  · exact confined_throw _

theorem confined_reschedulingDraft (id : Uuid) (req : BookingRequest) (enforcePolicy : Bool)
    (customer : Option Uuid) (includeInactive : Bool) (now : Option Stamp) :
    Confined ctx.tenant P (fun _ => True)
      (reschedulingDraft ctx id req enforcePolicy customer includeInactive now) := by
  unfold reschedulingDraft
  refine (confined_fetch ctx id).seq fun r _ => ?_
  refine (confined_check _).seq fun _ _ => ?_
  dsimp only
  refine Confined.ite (confined_throw_bind _ _) ?_
  refine Confined.ite_of_rest ?_ fun hrest => (confined_resolveStore ctx _).seq fun _ _ =>
    (confined_instant _).seq fun _ _ => (confined_check _).seq
      fun _ _ => hrest
  refine (confined_resolveStore ctx _).seq fun v _ => ?_
  refine Confined.ite_of_rest ?_ fun hrest => (confined_instant _).seq fun _ _ =>
    (confined_check _).seq fun _ _ => hrest
  refine (confined_loadPractitioner ctx _ _).seq fun p _ => ?_
  refine (confined_loadCustomer ctx _).seq fun c _ => ?_
  refine (confined_resolveSelection ctx _ _ _).seq fun items _ => ?_
  exact (confined_check _).seq fun _ _ => confined_pure _ trivial

theorem confined_cancellation (id : Uuid) (enforcePolicy : Bool) (customer : Option Uuid)
    (now : Option Stamp) :
    Confined ctx.tenant P (fun _ => True) (cancellation ctx id enforcePolicy customer now) := by
  unfold cancellation
  refine (confined_fetch ctx id).seq fun r _ => ?_
  refine (confined_check _).seq fun _ _ => ?_
  dsimp only
  refine Confined.ite ?_ (confined_pure _ trivial)
  refine Confined.ite (confined_throw_bind _ _) ?_
  refine (confined_resolveStore ctx _).seq fun v _ => ?_
  obtain ⟨-, policy⟩ := v
  dsimp only
  exact (confined_instant _).seq fun _ _ => (confined_check _).seq
    fun _ _ => confined_pure _ trivial

end Reads

section Flows

variable {P : Database → Prop} (ctx : Context) (actor : Actor)

theorem confined_record (action resourceType : String) (resource : Option Uuid)
    (before after : Json) :
    Confined ctx.tenant P (fun _ => True)
      (Database.record ctx.tenant actor action resourceType resource before after) := by
  unfold Database.record
  exact Confined.attempt (confined_freshId.seq fun _ _ => confined_now.seq fun _ _ =>
    confined_modify (fun _ _ _ _ h => ⟨h.shares.addAudit _, h.issued, h.clock⟩)
      fun _ _ => Others.addAudit rfl)

theorem confined_book (req : BookingRequest) (enforcePolicy includeInactive : Bool)
    (now : Option Stamp) :
    Confined ctx.tenant P (fun r => r.tenant = ctx.tenant)
      (book ctx req actor enforcePolicy includeInactive now) := by
  unfold book
  refine (confined_bookingDraft ctx req enforcePolicy includeInactive now).seq fun v _ => ?_
  obtain ⟨store, policy, draft⟩ := v
  dsimp only
  refine (confined_insertOrReplay { ctx with store := some store.id } draft _).seq fun v hv => ?_
  obtain ⟨r, created⟩ := v
  dsimp only
  exact Confined.ite_of_rest (confined_pure _ hv) fun hrest =>
    (confined_record ctx actor _ _ _ _ _).seq fun _ _ => hrest

theorem confined_reschedule (id : Uuid) (req : BookingRequest) (enforcePolicy : Bool)
    (customer : Option Uuid) (includeInactive : Bool) (now : Option Stamp) :
    Confined ctx.tenant Distinct (fun r => r.tenant = ctx.tenant)
      (reschedule ctx id req actor enforcePolicy customer includeInactive now) := by
  unfold reschedule
  refine (confined_reschedulingDraft ctx id req enforcePolicy customer includeInactive now).bind_reads
    (readsOnly_reschedulingDraft ctx id req enforcePolicy customer includeInactive now) stable_distinct fun v _ => ?_
  obtain ⟨r, store, policy, draft⟩ := v
  dsimp only
  refine (confined_replace { ctx with store := some store.id } id draft _ true).seq fun r' hr' => ?_
  exact (confined_record ctx actor _ _ _ _ _).seq fun _ _ => confined_pure _ hr'

theorem confined_changeStatus (id : Uuid) (status : String) (reason : Option String) :
    Confined ctx.tenant Distinct (fun r => r.tenant = ctx.tenant)
      (changeStatus ctx id status actor reason) := by
  unfold changeStatus
  refine (confined_fetch ctx id).bind_reads (readsOnly_fetch ctx id) stable_distinct fun r _ => ?_
  refine (confined_updateStatus ctx id status reason).seq fun r' hr' => ?_
  exact (confined_record ctx actor _ _ _ _ _).seq fun _ _ => confined_pure _ hr'

theorem confined_cancel (id : Uuid) (reason : Option String) (enforcePolicy : Bool)
    (customer : Option Uuid) (now : Option Stamp) :
    Confined ctx.tenant Distinct (fun r => r.tenant = ctx.tenant)
      (cancel ctx id actor reason enforcePolicy customer now) := by
  unfold cancel
  refine (confined_cancellation ctx id enforcePolicy customer now).bind_reads
    (readsOnly_cancellation ctx id enforcePolicy customer now) stable_distinct fun r _ => ?_
  refine (confined_updateStatus ctx id "canceled" reason).seq fun r' hr' => ?_
  exact (confined_record ctx actor _ _ _ _ _).seq fun _ _ => confined_pure _ hr'

end Flows

end Booking

namespace Link

section Links

variable {P : Database → Prop} (ctx : Context)

theorem confined_checkExpiry {A : Uuid} (expiresAt : Option Stamp) :
    Confined A P (fun _ => True) (checkExpiry expiresAt) := by
  unfold checkExpiry
  split
  · refine confined_now.seq fun _ _ => ?_
    dsimp only
    exact Confined.ite (confined_throw_bind _ _)
      (Confined.ite (confined_throw _) (confined_pure _ trivial))
  · exact confined_pure _ trivial

theorem confined_issuer (practitioner : Uuid) (store : Option Uuid) :
    Confined ctx.tenant P (fun _ => True) (issuer ctx practitioner store) := by
  unfold issuer
  refine confined_get (fun db₁ db₂ _ _ h => by
    simp only [h.shares.practitioner?, h.shares.store?]) fun db _ => ?_
  split
  · dsimp only
    refine Confined.ite (confined_throw_bind _ _) ?_
    split
    · split
      · refine Confined.ite (confined_throw_bind _ _) ?_
        exact (confined_check _).seq fun _ _ =>
          Confined.ite (confined_throw_bind _ _) (confined_pure _ trivial)
      · exact confined_throw_bind _ _
    · exact confined_pure _ trivial
  · exact confined_throw _

theorem confined_uniqueToken {A : Uuid} (id : Uuid) (src : ByteSource) :
    Confined A P (fun _ => True) (uniqueToken id src) := by
  unfold uniqueToken
  refine confined_get (fun db₁ db₂ _ _ h => by simp only [h.shares.tokens]) fun db _ => ?_
  split
  · exact confined_pure _ trivial
  · exact confined_throw _

theorem confined_addLink (practitioner : Uuid) (createdBy : String) (store : Option Uuid)
    (expiresAt : Option Stamp) (src : ByteSource) :
    Confined ctx.tenant P (fun l => l.tenant = ctx.tenant)
      (addLink ctx practitioner createdBy store expiresAt src) := by
  unfold addLink
  refine confined_freshId.seq fun id _ => confined_now.seq fun now _ =>
    (confined_uniqueToken id src).seq fun token _ => ?_
  dsimp only
  exact Confined.seq (confined_modify (fun _ _ _ _ h => ⟨h.shares.addLink _, h.issued, h.clock⟩)
    fun _ _ => Others.addLink rfl) fun _ _ => confined_pure _ rfl

theorem confined_issue (practitioner : Uuid) (createdBy : String) (store : Option Uuid)
    (expiresAt : Option Stamp) (reissue allowMultiple : Bool) (src : ByteSource) :
    Confined ctx.tenant P (fun l => l.tenant = ctx.tenant)
      (issue ctx practitioner createdBy store expiresAt reissue allowMultiple src) := by
  unfold issue
  refine (confined_checkExpiry _).seq fun _ _ => Confined.transaction ?_
  refine (confined_issuer ctx _ _).seq fun _ _ => confined_get (fun db₁ db₂ _ _ h => ?_) fun db _ => ?_
  · have hlive : db₁.links.any (fun l => l.inScope ctx.tenant practitioner store && l.isActive) =
        db₂.links.any (fun l => l.inScope ctx.tenant practitioner store && l.isActive) :=
      h.shares.liveAny practitioner store
    dsimp only
    rw [hlive]
  · dsimp only
    refine Confined.ite ?_ (Confined.ite (confined_throw_bind _ _) (confined_addLink ctx _ _ _ _ _))
    exact Confined.seq (confined_modify
      (fun _ _ _ _ h => ⟨h.shares.revokeScope practitioner store, h.issued, h.clock⟩)
      fun _ _ => Others.revokeScope practitioner store) fun _ _ => confined_addLink ctx _ _ _ _ _

theorem confined_revoke (id : Uuid) :
    Confined ctx.tenant Distinct (fun l => l.tenant = ctx.tenant) (revoke ctx id) := by
  unfold revoke
  refine confined_get (fun db₁ db₂ _ _ h => by rw [h.shares.link? id]) fun db _ => ?_
  split
  · next l hl =>
    have hsat := List.find?_some hl
    simp only [Bool.and_eq_true, beq_iff_eq] at hsat
    -- the revoked link keeps the id, tenant and token of `l`, the one link with its id
    have hown : ∀ d, Distinct d ∧ Shares ctx.tenant d db →
        OwnsLink d { l with status := "revoked" } := fun d hd =>
      hd.1.ownsLink (hd.2.mem_links (List.mem_of_find?_eq_some hl) hsat.1) rfl rfl rfl
    dsimp only
    exact Confined.seq (confined_modify
      (fun d₁ d₂ h₁ h₂ h => ⟨h.shares.putLink (hown d₁ h₁) (hown d₂ h₂), h.issued, h.clock⟩)
      fun d hd => Others.putLink hsat.1 (hown d hd)) fun _ _ => confined_pure _ hsat.1
  · exact confined_throw _

end Links

end Link

namespace Reservations

theorem list_rows {db : Database} {ctx : Context} {f : Filters} {rs : List Reservation}
    (h : list db ctx f = .ok rs) : ∀ r ∈ rs, r.tenant = ctx.tenant := by
  unfold list at h
  simp only [bind, Except.bind] at h
  split at h
  · cases h
  · simp only [pure, Except.pure, Except.ok.injEq] at h
    subst h
    intro r hr
    rw [sortBy, List.mem_mergeSort] at hr
    exact tenant_of_mem_reservationsOf (List.mem_filter.mp hr).1

/-- A page holds rows of the listing it is cut from, in either order. -/
theorem mem_of_mem_page {key : Reservation → List Int} {xs : List Reservation} {c : Prop}
    [Decidable c] {m n : Nat} {r : Reservation}
    (h : r ∈ ((if c then (sortBy key xs).reverse else sortBy key xs).drop m).take n) : r ∈ xs := by
  have h' := List.mem_of_mem_drop (List.mem_of_mem_take h)
  split at h' <;> simpa [sortBy, List.mem_mergeSort] using h'

theorem listPaginated_rows {db : Database} {ctx : Context} {f : Filters} {page limit : Int}
    {sortField sortOrder : String} {p : Page}
    (h : listPaginated db ctx f page limit sortField sortOrder = .ok p) :
    ∀ r ∈ p.rows, r.tenant = ctx.tenant := by
  unfold listPaginated at h
  simp only [bind, Except.bind] at h
  split at h
  · cases h
  · split at h
    -- a sort field that names no key refuses the page
    case h_3 => cases h
    all_goals
      simp only [pure, Except.pure] at h
      split at h
      · cases h
      · simp only [Except.ok.injEq] at h
        subst h
        exact fun r hr => tenant_of_mem_reservationsOf (List.mem_filter.mp (mem_of_mem_page hr)).1

theorem dueReminders_rows (db : Database) (ctx : Context) (d : Date) :
    ∀ r ∈ dueReminders db ctx d, r.tenant = ctx.tenant := fun r hr => by
  rw [dueReminders, sortBy, List.mem_mergeSort] at hr
  exact tenant_of_mem_reservationsOf (List.mem_filter.mp hr).1

end Reservations

theorem Link.listOf_rows (db : Database) (ctx : Context) (status : Option String) :
    ∀ l ∈ Link.listOf db ctx status, l.tenant = ctx.tenant := fun l hl => by
  rw [Link.listOf, List.mem_reverse, List.mem_filter] at hl
  simpa using ((Bool.and_eq_true _ _).mp hl.2).1

/-! ## Calls made for a tenant -/

/-- What a call made for a tenant answers. -/
inductive Reply where
  | reservation (r : Reservation)
  | created (r : Reservation) (isNew : Bool)
  | found (r : Option Reservation)
  | reservations (rs : List Reservation)
  | page (p : Page)
  | stats (s : Stats)
  | slots (ss : List (TimeOfDay × TimeOfDay))
  | conflict (b : Bool)
  | policy (s : Store) (p : StorePolicy)
  | selection (s : Selection)
  | link (l : BookingLink)
  | links (ls : List BookingLink)

/-- The tenants of the rows a reply holds. -/
def Reply.tenants : Reply → List Uuid
  | reservation r | created r _ => [r.tenant]
  | found r => r.toList.map (·.tenant)
  | reservations rs => rs.map (·.tenant)
  | page p => p.rows.map (·.tenant)
  | policy s _ => [s.tenant]
  | link l => [l.tenant]
  | links ls => ls.map (·.tenant)
  | stats _ | slots _ | conflict _ | selection _ => []

/-- Every row the reply holds is tenant `A`'s. -/
def Reply.OfTenant (A : Uuid) (a : Reply) : Prop := ∀ t ∈ a.tenants, t = A

theorem Reply.ofTenant_found {A : Uuid} {o : Option Reservation}
    (h : ∀ r, o = some r → r.tenant = A) : (Reply.found o).OfTenant A := by
  cases o with
  | none => simp [OfTenant, tenants]
  | some r => simpa [OfTenant, tenants] using h r rfl

namespace Call

/-- The context a call is made with. -/
def context : Call → Context
  | create ctx .. | update ctx .. | setStatus ctx .. | remind ctx .. | book ctx .. | reschedule ctx ..
  | changeStatus ctx .. | cancel ctx .. | issueLink ctx .. | revokeLink ctx .. => ctx

/-- The operation a call runs, with its answer. -/
def reply : Call → Op Reply
  | create ctx d timezone => insertOrReplay ctx d timezone >>= fun res => pure (.created res.1 res.2)
  | update ctx id d timezone replaceItems =>
    replace ctx id d timezone replaceItems >>= fun r => pure (.reservation r)
  | setStatus ctx id target reason => updateStatus ctx id target reason >>= fun r => pure (.reservation r)
  | remind ctx id => markReminderSent ctx id >>= fun r => pure (.reservation r)
  | book ctx req actor enforcePolicy includeInactive now =>
    Booking.book ctx req actor enforcePolicy includeInactive now >>= fun r => pure (.reservation r)
  | reschedule ctx id req actor enforcePolicy customer includeInactive now =>
    Booking.reschedule ctx id req actor enforcePolicy customer includeInactive now >>=
      fun r => pure (.reservation r)
  | changeStatus ctx id status actor reason =>
    Booking.changeStatus ctx id status actor reason >>= fun r => pure (.reservation r)
  | cancel ctx id actor reason enforcePolicy customer now =>
    Booking.cancel ctx id actor reason enforcePolicy customer now >>= fun r => pure (.reservation r)
  | issueLink ctx practitioner createdBy store expiresAt reissue allowMultiple src =>
    Link.issue ctx practitioner createdBy store expiresAt reissue allowMultiple src >>=
      fun l => pure (.link l)
  | revokeLink ctx id => Link.revoke ctx id >>= fun l => pure (.link l)

/-- Every call that may write is confined to the tenant it is made for, and answers that
tenant's rows. -/
theorem reply_confined (c : Call) :
    Confined c.context.tenant Distinct (Reply.OfTenant c.context.tenant) c.reply := by
  have hrow : ∀ {A : Uuid} (r : Reservation), r.tenant = A → (Reply.reservation r).OfTenant A :=
    fun r hr => by simp [Reply.OfTenant, Reply.tenants, hr]
  cases c with
  | create ctx d timezone =>
    exact (confined_insertOrReplay ctx d timezone).seq fun res hres =>
      confined_pure _ (by simp [Reply.OfTenant, Reply.tenants, context, hres])
  | update ctx id d timezone replaceItems =>
    exact (confined_replace ctx id d timezone replaceItems).seq fun r hr => confined_pure _ (hrow r hr)
  | setStatus ctx id target reason =>
    exact (confined_updateStatus ctx id target reason).seq fun r hr => confined_pure _ (hrow r hr)
  | remind ctx id =>
    exact (confined_markReminderSent ctx id).seq fun r hr => confined_pure _ (hrow r hr)
  | book ctx req actor enforcePolicy includeInactive now =>
    exact (Booking.confined_book ctx actor req enforcePolicy includeInactive now).seq fun r hr =>
      confined_pure _ (hrow r hr)
  | reschedule ctx id req actor enforcePolicy customer includeInactive now =>
    exact (Booking.confined_reschedule ctx actor id req enforcePolicy customer includeInactive now).seq
      fun r hr => confined_pure _ (hrow r hr)
  | changeStatus ctx id status actor reason =>
    exact (Booking.confined_changeStatus ctx actor id status reason).seq fun r hr =>
      confined_pure _ (hrow r hr)
  | cancel ctx id actor reason enforcePolicy customer now =>
    exact (Booking.confined_cancel ctx actor id reason enforcePolicy customer now).seq fun r hr =>
      confined_pure _ (hrow r hr)
  | issueLink ctx practitioner createdBy store expiresAt reissue allowMultiple src =>
    exact (Link.confined_issue ctx practitioner createdBy store expiresAt reissue allowMultiple
      src).seq
      fun l hl => confined_pure _ (by simp [Reply.OfTenant, Reply.tenants, context, hl])
  | revokeLink ctx id =>
    exact (Link.confined_revoke ctx id).seq fun l hl =>
      confined_pure _ (by simp [Reply.OfTenant, Reply.tenants, context, hl])

end Call

/-- A call made for a tenant: a read of the reservation store, the store's policy, a
selection of menus and options, the list of booking links, or a call that may write. -/
inductive TenantCall where
  | find (ctx : Context) (id : Uuid)
  | fetch (ctx : Context) (id : Uuid)
  | list (ctx : Context) (f : Filters)
  | listPage (ctx : Context) (f : Filters) (page limit : Int) (sortField sortOrder : String)
  | byKey (ctx : Context) (key : String)
  | stats (ctx : Context) (a b : Date)
  | bookedSlots (ctx : Context) (p : Uuid) (d : Date)
  | dueReminders (ctx : Context) (d : Date)
  | conflict (ctx : Context) (p : Uuid) (d : Date) (start stop : ClockReading)
      (exclude : Option Uuid) (timezone : Option String)
  | storePolicy (ctx : Context) (store : Option Uuid)
  | selection (ctx : Context) (menus options : List Uuid) (includeInactive : Bool)
  | links (ctx : Context) (status : Option String)
  | write (c : Call)

namespace TenantCall

/-- The context a call is made with. -/
def context : TenantCall → Context
  | find ctx .. | fetch ctx .. | list ctx .. | listPage ctx .. | byKey ctx .. | stats ctx ..
  | bookedSlots ctx .. | dueReminders ctx .. | conflict ctx .. | storePolicy ctx ..
  | selection ctx .. | links ctx .. => ctx
  | write c => c.context

/-- The operation a call runs, with its answer. -/
def reply : TenantCall → Op Reply
  | find ctx id => get >>= fun db => pure (.found (db.reservation? ctx.tenant id))
  | fetch ctx id => Reservations.fetch ctx id >>= fun r => pure (.reservation r)
  | list ctx f => get >>= fun db => liftM (Reservations.list db ctx f) >>= fun rs =>
    pure (.reservations rs)
  | listPage ctx f page limit sortField sortOrder => get >>= fun db =>
    liftM (listPaginated db ctx f page limit sortField sortOrder) >>= fun p => pure (.page p)
  | byKey ctx key => get >>= fun db => pure (.found (findByKey db ctx key))
  | stats ctx a b => get >>= fun db => liftM (Reservations.stats db ctx a b) >>= fun s =>
    pure (.stats s)
  | bookedSlots ctx p d => get >>= fun db => pure (.slots (Reservations.bookedSlots db ctx p d))
  | dueReminders ctx d => get >>= fun db =>
    pure (.reservations (Reservations.dueReminders db ctx d))
  | conflict ctx p d start stop exclude timezone => get >>= fun db =>
    liftM (hasConflict db ctx p d start stop exclude timezone) >>= fun b => pure (.conflict b)
  | storePolicy ctx store => Booking.resolveStore ctx store >>= fun sp => pure (.policy sp.1 sp.2)
  | selection ctx menus options includeInactive =>
    Booking.resolveSelection ctx menus options includeInactive >>= fun s => pure (.selection s)
  | links ctx status => get >>= fun db => pure (.links (Link.listOf db ctx status))
  | write c => c.reply

end TenantCall

/-- Tenant isolation. A call made for tenant `A`, run from two databases whose ids are keys
and that agree for `A` (the same rows of `A`, link tokens, ids given out and clock),
answers the same or fails with the same fault, and the databases it leaves agree for `A`
again. Each run keeps the tenants, and every row of every other tenant, as it found them,
and every row the call answers is `A`'s. -/
theorem tenant_calls_confined (c : TenantCall) :
    Confined c.context.tenant Distinct (Reply.OfTenant c.context.tenant) c.reply := by
  cases c <;> dsimp only [TenantCall.context, TenantCall.reply]
  case find ctx id =>
    refine confined_get (fun db₁ db₂ _ _ h => by rw [h.shares.reservation? id]) fun db _ => ?_
    refine confined_pure _ (Reply.ofTenant_found fun r hr => (reservation?_some hr).2.1)
  case fetch ctx id =>
    exact (confined_fetch ctx id).seq fun r hr =>
      confined_pure _ (by simp [Reply.OfTenant, Reply.tenants, hr])
  case list ctx f =>
    refine confined_get (fun db₁ db₂ _ _ h => by unfold Reservations.list; rw [h.shares.reservationsOf])
      fun db _ => ?_
    exact (confined_lift _ fun _ h => list_rows h).seq fun rs hrs =>
      confined_pure _ (by simpa [Reply.OfTenant, Reply.tenants] using hrs)
  case listPage ctx f page limit sortField sortOrder =>
    refine confined_get (fun db₁ db₂ _ _ h => by unfold listPaginated; rw [h.shares.reservationsOf])
      fun db _ => ?_
    exact (confined_lift _ fun _ h => listPaginated_rows h).seq fun p hp =>
      confined_pure _ (by simpa [Reply.OfTenant, Reply.tenants] using hp)
  case byKey ctx key =>
    refine confined_get (fun db₁ db₂ _ _ h => by unfold findByKey; rw [h.shares.reservationsOf])
      fun db _ => ?_
    exact confined_pure _ (Reply.ofTenant_found fun r hr => findByKey_tenant ctx hr)
  case stats ctx a b =>
    refine confined_get (fun db₁ db₂ _ _ h => by unfold Reservations.stats; rw [h.shares.reservationsOf])
      fun db _ => ?_
    exact (confined_check _).seq fun _ _ =>
      confined_pure _ (by simp [Reply.OfTenant, Reply.tenants])
  case bookedSlots ctx p d =>
    refine confined_get (fun db₁ db₂ _ _ h => by
      unfold Reservations.bookedSlots; rw [h.shares.reservationsOf]) fun db _ => ?_
    exact confined_pure _ (by simp [Reply.OfTenant, Reply.tenants])
  case dueReminders ctx d =>
    refine confined_get (fun db₁ db₂ _ _ h => by
      unfold Reservations.dueReminders; rw [h.shares.reservationsOf]) fun db _ => ?_
    exact confined_pure _ (by simpa [Reply.OfTenant, Reply.tenants] using dueReminders_rows db ctx d)
  case conflict ctx p d start stop exclude timezone =>
    refine confined_get (fun db₁ db₂ _ _ h => by
      unfold hasConflict findOverlap; rw [h.shares.reservationsOf]) fun db _ => ?_
    exact (confined_check _).seq fun _ _ =>
      confined_pure _ (by simp [Reply.OfTenant, Reply.tenants])
  case storePolicy ctx store =>
    exact (Booking.confined_resolveStore ctx store).seq fun sp hsp =>
      confined_pure _ (by simp [Reply.OfTenant, Reply.tenants, hsp])
  case selection ctx menus options includeInactive =>
    exact (Booking.confined_resolveSelection ctx menus options includeInactive).seq fun _ _ =>
      confined_pure _ (by simp [Reply.OfTenant, Reply.tenants])
  case links ctx status =>
    refine confined_get (fun db₁ db₂ _ _ h => by rw [h.shares.listOf rfl status]) fun db _ => ?_
    exact confined_pure _ (by simpa [Reply.OfTenant, Reply.tenants] using Link.listOf_rows db ctx status)
  case write c => exact c.reply_confined

end SalonBooking
