import SalonBooking.Proofs.TenantRows

/-!
Operations confined to one tenant. An operation is confined to tenant `A` when two runs
of it, from databases that agree for `A`, end alike: they return the same value or fail
with the same fault, the databases they leave agree for `A` again, and each run keeps
every row of every other tenant. What the operation returns is then a function of `A`'s
rows, the tokens held, the ids given out and the clock, and nothing it does reaches
another tenant's rows.

Confinement is built the way the operations are: the steps that read nothing, the clock
and the id counter, each lookup scoped to `A` and each write of `A`'s rows are confined,
and sequencing, transactions and dropped writes keep it. A step may need what the steps
before it established of the database (that ids are keys, that a row it puts back was
read from it); `Confined A P` asks for that as `P` of both starting databases.
-/

namespace SalonBooking

open SalonBooking.Calendar Op Database

namespace Op

/-- Two ends of runs from `db₁` and `db₂` are alike for tenant `A`: the same value, which
`T` accepts, or the same fault; databases that agree for `A`; and each run keeps every
other tenant's rows of the database it started from. -/
def Alike {α : Type} (A : Uuid) (T : α → Prop) (db₁ db₂ : Database) :
    EStateM.Result Fault Database α → EStateM.Result Fault Database α → Prop
  | .ok a d₁, .ok b d₂ => a = b ∧ T a ∧ Agree A d₁ d₂ ∧ Others A db₁ d₁ ∧ Others A db₂ d₂
  | .error e d₁, .error f d₂ => e = f ∧ Agree A d₁ d₂ ∧ Others A db₁ d₁ ∧ Others A db₂ d₂
  | _, _ => False

/-- `x` is confined to tenant `A` on the databases `P` holds of, returning what `T`
accepts: two runs of it from such databases that agree for `A` end alike. -/
def Confined {α : Type} (A : Uuid) (P : Database → Prop) (T : α → Prop) (x : Op α) : Prop :=
  ∀ db₁ db₂, P db₁ → P db₂ → Agree A db₁ db₂ → Alike A T db₁ db₂ (x.run db₁) (x.run db₂)

/-- A property of the rows alone, which new ids and clock readings keep. -/
def Stable (P : Database → Prop) : Prop := ∀ db db', SameRows db db' → P db → P db'

theorem Alike.after {α : Type} {A : Uuid} {T : α → Prop} {db₁ db₂ d₁ d₂ : Database}
    {r₁ r₂ : EStateM.Result Fault Database α} (h₁ : Others A db₁ d₁) (h₂ : Others A db₂ d₂)
    (h : Alike A T d₁ d₂ r₁ r₂) : Alike A T db₁ db₂ r₁ r₂ := by
  cases r₁ <;> cases r₂
  · obtain ⟨he, hT, hd, ho₁, ho₂⟩ := h
    exact ⟨he, hT, hd, h₁.trans ho₁, h₂.trans ho₂⟩
  · exact h.elim
  · exact h.elim
  · obtain ⟨he, hd, ho₁, ho₂⟩ := h
    exact ⟨he, hd, h₁.trans ho₁, h₂.trans ho₂⟩

section Rules

variable {α β : Type} {A : Uuid} {P Q : Database → Prop} {T T' : α → Prop}

theorem Confined.mono {x : Op α} (h : Confined A P T x) (hP : ∀ db, Q db → P db)
    (hT : ∀ a, T a → T' a) : Confined A Q T' x := by
  intro db₁ db₂ hq₁ hq₂ hd
  have hx := h db₁ db₂ (hP db₁ hq₁) (hP db₂ hq₂) hd
  revert hx
  cases x.run db₁ <;> cases x.run db₂
  · rintro ⟨he, ha, hrest⟩
    exact ⟨he, hT _ ha, hrest⟩
  · exact False.elim
  · exact False.elim
  · exact id

theorem confined_pure (b : α) (hb : T b) : Confined A P T (pure b) :=
  fun db₁ db₂ _ _ h => ⟨rfl, hb, h, Others.refl A db₁, Others.refl A db₂⟩

theorem confined_throw (e : Fault) : Confined A P T (throw e : Op α) :=
  fun db₁ db₂ _ _ h => ⟨rfl, h, Others.refl A db₁, Others.refl A db₂⟩

/-- A refusal ends both runs where they stand, whatever was to follow. -/
theorem confined_throw_bind (e : Fault) {T : β → Prop} (f : α → Op β) :
    Confined A P T (throw e >>= f) :=
  fun db₁ db₂ _ _ h => ⟨rfl, h, Others.refl A db₁, Others.refl A db₂⟩

/-- A check that reads no row gives both runs the same answer. -/
theorem confined_lift (x : Except Fault α) (hx : ∀ a, x = .ok a → T a) :
    Confined A P T (liftM x : Op α) := by
  intro db₁ db₂ _ _ h
  cases x with
  | ok a => exact ⟨rfl, hx a rfl, h, Others.refl A db₁, Others.refl A db₂⟩
  | error e => exact ⟨rfl, h, Others.refl A db₁, Others.refl A db₂⟩

/-- A check that reads no row, whose answer the rest may use as it is. -/
theorem confined_check (x : Except Fault α) : Confined A P (fun _ => True) (liftM x : Op α) :=
  confined_lift x fun _ _ => trivial

theorem Confined.ite {x y : Op α} {c : Prop} [Decidable c] (hx : Confined A P T x)
    (hy : Confined A P T y) : Confined A P T (if c then x else y) := by
  split
  · exact hx
  · exact hy

/-- A branch that, after steps of its own, does what the other branch does. -/
theorem Confined.ite_of_rest {x y : Op α} {c : Prop} [Decidable c]
    (hy : ∀ {Q : Database → Prop}, Confined A Q T y)
    (hx : (∀ {Q : Database → Prop}, Confined A Q T y) → Confined A P T x) :
    Confined A P T (if c then x else y) :=
  Confined.ite (hx hy) hy

/-- Sequencing: the rest runs from databases that agree again, of which `Q` holds. -/
theorem Confined.bind {x : Op α} {f : α → Op β} {Q : α → Database → Prop} {T : β → Prop}
    (hx : Confined A P T' x) (hq : ∀ db, P db → wp x Q (fun _ _ => True) db)
    (hf : ∀ a, T' a → Confined A (Q a) T (f a)) : Confined A P T (x >>= f) := by
  intro db₁ db₂ hp₁ hp₂ h
  have hxy := hx db₁ db₂ hp₁ hp₂ h
  have hq₁ := hq db₁ hp₁
  have hq₂ := hq db₂ hp₂
  unfold wp at hq₁ hq₂
  rw [EStateM.run_bind, EStateM.run_bind]
  revert hxy hq₁ hq₂
  cases x.run db₁ <;> cases x.run db₂
  · rintro ⟨rfl, ha, hd, ho₁, ho₂⟩ hq₁ hq₂
    exact (hf _ ha _ _ hq₁ hq₂ hd).after ho₁ ho₂
  · exact False.elim
  · exact False.elim
  · exact fun hxy _ _ => hxy

theorem wp_true (x : Op α) (db : Database) : wp x (fun _ _ => True) (fun _ _ => True) db := by
  unfold wp
  split <;> trivial

/-- Sequencing into a rest that needs nothing of the database. -/
theorem Confined.seq {x : Op α} {f : α → Op β} {T : β → Prop} (hx : Confined A P T' x)
    (hf : ∀ a, T' a → Confined A (fun _ => True) T (f a)) : Confined A P T (x >>= f) :=
  hx.bind (fun _ _ => wp_true x _) hf

/-- Sequencing after a step that writes no row, when `P` is of the rows alone. -/
theorem Confined.bind_reads {x : Op α} {f : α → Op β} {T : β → Prop} (hx : Confined A P T' x)
    (hr : ReadsOnly x) (hP : Stable P) (hf : ∀ a, T' a → Confined A P T (f a)) :
    Confined A P T (x >>= f) :=
  hx.bind (fun db hp => show wp x (fun _ => P) (fun _ _ => True) db from
    hr.wp (fun _ _ hs => hP _ _ hs hp) fun _ _ _ => trivial) hf

/-- A read of the database: the rest, given what it read, must not tell the two apart,
and runs on databases sharing `A`'s view with the one it read. -/
theorem confined_get {k : Database → Op α}
    (hk : ∀ db₁ db₂, P db₁ → P db₂ → Agree A db₁ db₂ → k db₁ = k db₂)
    (hc : ∀ db, P db → Confined A (fun d => P d ∧ Shares A d db) T (k db)) :
    Confined A P T (get >>= k) := by
  intro db₁ db₂ hp₁ hp₂ h
  show Alike A T db₁ db₂ ((k db₁).run db₁) ((k db₂).run db₂)
  rw [hk db₁ db₂ hp₁ hp₂ h]
  exact hc db₂ hp₂ db₁ db₂ ⟨hp₁, h.shares⟩ ⟨hp₂, Shares.refl A db₂⟩ h

/-- A write that keeps agreement and other tenants' rows. -/
theorem confined_modify {g : Database → Database}
    (hg : ∀ db₁ db₂, P db₁ → P db₂ → Agree A db₁ db₂ → Agree A (g db₁) (g db₂))
    (ho : ∀ db, P db → Others A db (g db)) : Confined A P (fun _ => True) (modify g) :=
  fun db₁ db₂ hp₁ hp₂ h => ⟨rfl, trivial, hg db₁ db₂ hp₁ hp₂ h, ho db₁ hp₁, ho db₂ hp₂⟩

theorem now_run (db : Database) : Database.now.run db =
    match db.clock.base.shift ((db.clock.reads + 1 : Nat) : Int) with
    | .ok t => .ok t { db with clock := { db.clock with reads := db.clock.reads + 1 } }
    | .error e => .error (.range e) { db with clock := { db.clock with reads := db.clock.reads + 1 } } := by
  show (liftM (liftRange (db.clock.base.shift ((db.clock.reads + 1 : Nat) : Int))) : Op _).run
    { db with clock := { db.clock with reads := db.clock.reads + 1 } } = _
  cases db.clock.base.shift ((db.clock.reads + 1 : Nat) : Int) <;> rfl

/-- A clock reading is the same in two databases whose clocks agree. -/
theorem confined_now : Confined A P (fun _ => True) Database.now := by
  intro db₁ db₂ _ _ h
  have hd : Agree A { db₁ with clock := { db₁.clock with reads := db₁.clock.reads + 1 } }
      { db₂ with clock := { db₂.clock with reads := db₂.clock.reads + 1 } } :=
    ⟨h.shares.counters _ _ _ _, h.issued, by rw [h.clock]⟩
  have ho₁ := Others.counters A db₁ db₁.issued { db₁.clock with reads := db₁.clock.reads + 1 }
  have ho₂ := Others.counters A db₂ db₂.issued { db₂.clock with reads := db₂.clock.reads + 1 }
  rw [now_run, now_run]
  rw [← h.clock] at hd ho₂ ⊢
  cases db₁.clock.base.shift ((db₁.clock.reads + 1 : Nat) : Int)
  · exact ⟨rfl, hd, ho₁, ho₂⟩
  · exact ⟨rfl, trivial, hd, ho₁, ho₂⟩

/-- A new id is the same in two databases that have given out as many. -/
theorem confined_freshId : Confined A P (fun _ => True) Database.freshId := by
  intro db₁ db₂ _ _ h
  show Alike A _ db₁ db₂ (.ok (Uuid.mk (db₁.issued + 1)) { db₁ with issued := db₁.issued + 1 })
    (.ok (Uuid.mk (db₂.issued + 1)) { db₂ with issued := db₂.issued + 1 })
  rw [h.issued]
  exact ⟨rfl, trivial, ⟨h.shares.counters _ _ _ _, h.issued ▸ rfl, h.clock⟩,
    Others.counters A db₁ _ db₁.clock, Others.counters A db₂ _ db₂.clock⟩

/-- A failed transaction goes back to rows that agreed, keeping ids and clock readings that
agree too. -/
theorem Confined.transaction {x : Op α} (hx : Confined A P T x) :
    Confined A P T (Database.transaction x) := by
  intro db₁ db₂ hp₁ hp₂ h
  have hxy := hx db₁ db₂ hp₁ hp₂ h
  simp only [EStateM.run, Database.transaction] at hxy ⊢
  revert hxy
  cases x db₁ <;> cases x db₂
  · exact id
  · exact False.elim
  · exact False.elim
  · rintro ⟨rfl, hd, -, -⟩
    exact ⟨rfl, ⟨h.shares.counters _ _ _ _, hd.issued, hd.clock⟩, Others.counters A db₁ _ _,
      Others.counters A db₂ _ _⟩

/-- A dropped write either lands in both runs or in neither. -/
theorem Confined.attempt {x : Op Unit} {T : Unit → Prop} (hx : Confined A P T x) :
    Confined A P (fun _ => True) (Database.attempt x) := by
  intro db₁ db₂ hp₁ hp₂ h
  have hxy := hx db₁ db₂ hp₁ hp₂ h
  simp only [EStateM.run, Database.attempt] at hxy ⊢
  revert hxy
  cases x db₁ <;> cases x db₂
  · rintro ⟨-, -, hd, ho₁, ho₂⟩
    exact ⟨rfl, trivial, hd, ho₁, ho₂⟩
  · exact False.elim
  · exact False.elim
  · exact fun _ => ⟨rfl, trivial, h, Others.refl A db₁, Others.refl A db₂⟩

/-- One confined step for each element of a list. -/
theorem Confined.mapM {f : α → Op β} (hf : ∀ a, Confined A (fun _ => True) (fun _ => True) (f a))
    (xs : List α) : Confined A P (fun _ => True) (xs.mapM f) := by
  induction xs generalizing P with
  | nil => exact confined_pure [] trivial
  | cons x xs ih =>
    rw [List.mapM_cons]
    exact ((hf x).mono (fun _ _ => trivial) fun _ h => h).seq fun _ _ =>
      ih.seq fun _ _ => confined_pure _ trivial

end Rules

end Op

namespace Reservations

theorem readsOnly_checkColumns (ns : List Int) : ReadsOnly (checkColumns ns) := by
  intro db
  rw [wp_checkColumns]
  split <;> exact SameRows.refl db

theorem readsOnly_ensureNoOverlap (ctx : Context) (p : Uuid) (a b : DateTime)
    (exclude : Option Uuid) : ReadsOnly (ensureNoOverlap ctx p a b exclude) := by
  intro db
  rw [wp_ensureNoOverlap]
  split <;> exact SameRows.refl db

theorem readsOnly_checkRow (ctx : Context) (r : Reservation) (customer : Option Uuid)
    (key : Option String) (exclude : Option Uuid) : ReadsOnly (checkRow ctx r customer key exclude) :=
  fun db => checkRow_wp ctx r customer key exclude (SameRows.refl db) fun _ _ => SameRows.refl db

/-- `r` is stored in `db`, whose ids are keys. -/
def Holds (r : Reservation) (db : Database) : Prop := Distinct db ∧ r ∈ db.reservations

theorem stable_distinct : Stable Distinct := fun _ _ hs h => h.of_sameRows hs

theorem stable_holds (r : Reservation) : Stable (Holds r) :=
  fun _ _ hs h => ⟨h.1.of_sameRows hs, hs.reservations_eq ▸ h.2⟩

section Store

variable {α : Type} {P : Database → Prop} (ctx : Context)

theorem confined_checkColumns (ns : List Int) :
    Confined ctx.tenant P (fun _ => True) (checkColumns ns) := by
  unfold checkColumns
  exact Confined.ite (confined_pure () trivial) (confined_throw _)

theorem confined_fetch (id : Uuid) :
    Confined ctx.tenant P (fun r => r.tenant = ctx.tenant) (fetch ctx id) := by
  unfold fetch
  refine confined_get (fun db₁ db₂ _ _ h => by rw [h.shares.reservation? id]) fun db _ => ?_
  split
  · next r hr => exact confined_pure r (reservation?_some hr).2.1
  · exact confined_throw _

/-- A read of the reservation `id` of the tenant, and the rest on what it read. -/
theorem Confined.fetch_bind {T : α → Prop} {id : Uuid} {f : Reservation → Op α}
    (hf : ∀ r, r.tenant = ctx.tenant → Confined ctx.tenant (Holds r) T (f r)) :
    Confined ctx.tenant Distinct T (fetch ctx id >>= f) := by
  refine (confined_fetch ctx id).bind (fun db hd => ?_) hf
  rw [wp_fetch]
  split
  · next r hr => exact ⟨hd, (reservation?_some hr).1⟩
  · trivial

theorem confined_ensureNoOverlap (p : Uuid) (a b : DateTime) (exclude : Option Uuid) :
    Confined ctx.tenant P (fun _ => True) (ensureNoOverlap ctx p a b exclude) := by
  unfold ensureNoOverlap
  refine confined_get (fun db₁ db₂ _ _ h => by unfold findOverlap; rw [h.shares.reservationsOf])
    fun db _ => ?_
  exact Confined.ite (confined_throw _) (confined_pure () trivial)

theorem confined_checkRow (r : Reservation) (customer : Option Uuid) (key : Option String)
    (exclude : Option Uuid) :
    Confined ctx.tenant P (fun _ => True) (checkRow ctx r customer key exclude) := by
  unfold checkRow
  refine (confined_checkColumns ctx _).seq fun _ _ => ?_
  dsimp only
  refine Confined.ite (confined_throw_bind _ _) ?_
  split
  · refine confined_get (fun db₁ db₂ _ _ h => by rw [h.shares.reservationsOf]) fun db _ => ?_
    exact Confined.ite (confined_throw _) (confined_pure () trivial)
  · exact confined_pure () trivial

/-- A new row of the tenant joins the reservations in both runs. -/
theorem confined_addReservation (r : Reservation) (hr : r.tenant = ctx.tenant) :
    Confined ctx.tenant P (fun _ => True)
      (modify fun db => { db with reservations := db.reservations ++ [r] }) :=
  confined_modify (fun _ _ _ _ h => ⟨h.shares.addReservation r, h.issued, h.clock⟩)
    fun _ _ => Others.addReservation hr

/-- A row of the tenant read from the database is put back in both runs. -/
theorem confined_putReservation {r r' : Reservation} (hid : r'.id = r.id) (ht : r'.tenant = r.tenant)
    (hr : r.tenant = ctx.tenant) :
    Confined ctx.tenant (Holds r) (fun _ => True) (modify (·.putReservation r')) :=
  confined_modify
    (fun _ _ h₁ h₂ h => ⟨h.shares.putReservation (h₁.1.ownsReservation h₁.2 hid ht)
      (h₂.1.ownsReservation h₂.2 hid ht), h.issued, h.clock⟩)
    fun _ h => Others.putReservation (ht.trans hr) (h.1.ownsReservation h.2 hid ht)

theorem confined_insertRow (d : Draft) (items : Selection) (drafted : Reservation)
    (ht : drafted.tenant = ctx.tenant) :
    Confined ctx.tenant P (fun r => r.tenant = ctx.tenant) (insertRow ctx d items drafted) := by
  unfold insertRow
  refine (confined_ensureNoOverlap ctx _ _ _ _).seq fun _ _ => confined_now.seq fun stamp _ => ?_
  refine (confined_checkRow ctx _ _ _ _).seq fun _ _ => (confined_checkColumns ctx _).seq fun _ _ => ?_
  exact (confined_addReservation ctx { drafted with createdAt := stamp, updatedAt := stamp } ht).seq
    fun _ _ => confined_pure _ ht

theorem tenant_of_mem_reservationsOf {db : Database} {t : Uuid} {r : Reservation}
    (h : r ∈ db.reservationsOf t) : r.tenant = t := by
  simpa [Database.reservationsOf] using (List.mem_filter.mp h).2

theorem findByKey_tenant {db : Database} {key : String} {r : Reservation}
    (h : findByKey db ctx key = some r) : r.tenant = ctx.tenant :=
  tenant_of_mem_reservationsOf (List.mem_of_find?_eq_some h)

/-- The reservation a write with this key replays belongs to the tenant. -/
theorem replayOf_tenant {db : Database} {key : Option String} {r : Reservation}
    (h : replayOf db ctx key = some r) : r.tenant = ctx.tenant := by
  obtain ⟨k, -, hk⟩ := Option.bind_eq_some_iff.mp h
  exact findByKey_tenant ctx hk

theorem confined_insertOrReplay (d : Draft) (timezone : Option String) :
    Confined ctx.tenant P (fun res => res.1.tenant = ctx.tenant) (insertOrReplay ctx d timezone) := by
  unfold insertOrReplay
  dsimp only
  refine (confined_check _).seq fun v _ => ?_
  obtain ⟨items, status, a, b⟩ := v
  refine confined_get (fun db₁ db₂ _ _ h => by unfold replayOf findByKey; rw [h.shares.reservationsOf])
    fun db _ => ?_
  split
  · next r hr => exact confined_pure _ (replayOf_tenant ctx hr)
  · refine confined_freshId.seq fun id _ => ?_
    refine (confined_lift _ fun r hr => (applyDraft_ok hr).tenant).seq fun drafted hd => ?_
    exact (confined_insertRow ctx d items drafted hd).transaction.seq fun r hr => confined_pure _ hr

/-- A put of a row with `r`'s id and tenant, answering it. -/
theorem confined_put_pure {r r' : Reservation} (hid : r'.id = r.id) (ht : r'.tenant = r.tenant)
    (hr : r.tenant = ctx.tenant) :
    Confined ctx.tenant (Holds r) (fun x => x.tenant = ctx.tenant)
      (modify (·.putReservation r') >>= fun _ => pure r') :=
  (confined_putReservation ctx hid ht hr).seq fun _ _ => confined_pure _ (ht.trans hr)

theorem confined_rewriteRow {r : Reservation} (hr : r.tenant = ctx.tenant) (d : Draft)
    (zone : String) (a b : DateTime) :
    Confined ctx.tenant (Holds r) (fun x => x.tenant = ctx.tenant) (rewriteRow ctx r d zone a b) := by
  unfold rewriteRow
  refine (confined_lift _ fun _ h => applyDraft_ok h).bind_reads (readsOnly_lift _) (stable_holds r)
    fun r₁ hd => ?_
  refine (confined_checkRow ctx _ _ _ _).bind_reads (readsOnly_checkRow _ _ _ _ _) (stable_holds r)
    fun _ _ => confined_now.bind_reads readsOnly_now (stable_holds r) fun stamp _ => ?_
  -- the row put back is the draft stamped, with or without the draft's items
  cases d.items with
  | some s =>
    exact (confined_checkColumns ctx _).bind_reads (readsOnly_checkColumns _) (stable_holds r)
      fun _ _ => confined_put_pure ctx hd.id hd.tenant hr
  | none => exact confined_put_pure ctx hd.id hd.tenant hr

theorem confined_replace (id : Uuid) (d : Draft) (timezone : Option String) (replaceItems : Bool) :
    Confined ctx.tenant Distinct (fun x => x.tenant = ctx.tenant)
      (replace ctx id d timezone replaceItems) := by
  unfold replace
  dsimp only
  refine Confined.ite (confined_throw_bind _ _) (Confined.transaction ?_)
  refine Confined.fetch_bind ctx fun r hr => ?_
  refine Confined.ite (confined_throw_bind _ _) ?_
  refine (confined_check _).bind_reads (readsOnly_lift _) (stable_holds r)
    fun v _ => ?_
  obtain ⟨a, b⟩ := v
  exact (confined_ensureNoOverlap ctx _ _ _ _).bind_reads (readsOnly_ensureNoOverlap _ _ _ _ _)
    (stable_holds r) fun _ _ => confined_rewriteRow ctx hr _ _ _ _

theorem confined_updateStatus (id : Uuid) (target : String) (reason : Option String) :
    Confined ctx.tenant Distinct (fun x => x.tenant = ctx.tenant)
      (updateStatus ctx id target reason) := by
  unfold updateStatus
  refine (confined_check _).bind_reads (readsOnly_lift _) stable_distinct
    fun t _ => Confined.transaction (Confined.fetch_bind ctx fun r hr => ?_)
  dsimp only
  refine Confined.ite (confined_throw_bind _ _) (Confined.ite (confined_throw_bind _ _) ?_)
  exact confined_now.bind_reads readsOnly_now (stable_holds r) fun stamp _ =>
    confined_put_pure ctx (Reservation.moveTo_id ..) (Reservation.moveTo_tenant ..) hr

theorem confined_markReminderSent (id : Uuid) :
    Confined ctx.tenant Distinct (fun x => x.tenant = ctx.tenant) (markReminderSent ctx id) := by
  unfold markReminderSent
  exact Confined.transaction (Confined.fetch_bind ctx fun r hr =>
    confined_now.bind_reads readsOnly_now (stable_holds r) fun stamp _ => confined_put_pure ctx rfl rfl hr)

end Store

end Reservations

end SalonBooking
