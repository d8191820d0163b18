import SalonBooking.Proofs.LinkScopes

/-!
A tenant's rows, and what it means for two databases to agree on them. Every table but
the tenants carries a tenant column. `RowsMatch keep db db'` says that the rows of the
tenants `keep` picks are the same in both, table by table and in the same order.

Two databases share tenant `A`'s view (`Shares`) when they match on `A`'s rows and hold
the same link tokens, which every tenant's links draw from; they agree (`Agree`) when
they also have given out as many ids and read the clock alike. `Others A db db'` says
that `db'` keeps every row of every other tenant, and the tenants, of `db`.

The lookups scoped to `A` read the same in two databases that share `A`'s view, and the
writes made for `A` keep both relations. A row put back by id replaces every row with
that id, so a put keeps other tenants' rows only where ids are keys (`Distinct`).
-/

namespace SalonBooking

open SalonBooking.Calendar Op Database

section Filtered

variable {α : Type} {q p : α → Bool} {xs ys : List α}

/-- Two lists that agree on what `q` keeps agree on every narrower filter. -/
theorem filter_eq_of_filter (h : xs.filter q = ys.filter q) (hp : ∀ x, p x = true → q x = true) :
    xs.filter p = ys.filter p := by
  have hsub : ∀ l : List α, l.filter p = (l.filter q).filter p := fun l => by
    rw [List.filter_filter]
    exact List.filter_congr fun x _ => by cases hx : p x <;> simp [hx, hp x]
  rw [hsub xs, h, ← hsub ys]

theorem find?_eq_of_filter (h : xs.filter q = ys.filter q) (hp : ∀ x, p x = true → q x = true) :
    xs.find? p = ys.find? p := by
  rw [← List.head?_filter, ← List.head?_filter, filter_eq_of_filter h hp]

theorem any_eq_of_filter (h : xs.filter q = ys.filter q) (hp : ∀ x, p x = true → q x = true) :
    xs.any p = ys.any p := by
  have hany : ∀ l : List α, l.any p = (l.filter p).any fun _ => true := fun l => by
    simp [List.any_filter]
  rw [hany xs, hany ys, filter_eq_of_filter h hp]

/-- Rewriting rows with `g`, which keeps what `q` says of each, commutes with the filter. -/
theorem filter_map_comm {g : α → α} (hg : ∀ x ∈ xs, q (g x) = q x) :
    (xs.map g).filter q = (xs.filter q).map g := by
  rw [List.filter_map]
  exact congrArg _ (List.filter_congr hg)

/-- A rewrite that leaves alone the rows `q` keeps leaves the filter as it was. -/
theorem filter_map_eq_self {g : α → α} (hg : ∀ x ∈ xs, q (g x) = q x)
    (hfix : ∀ x ∈ xs, q x = true → g x = x) : (xs.map g).filter q = xs.filter q := by
  rw [filter_map_comm hg]
  conv_rhs => rw [← List.map_id (xs.filter q)]
  exact List.map_congr_left fun x hx => hfix x (List.mem_filter.mp hx).1 (List.mem_filter.mp hx).2

end Filtered

section Keyed

variable {α : Type} (key ten : α → Uuid) (keep : Uuid → Bool) {xs : List α} {y : α}

/-- The rows with `y`'s key replaced by `y`, as a row is put back by id. -/
def putByKey (y : α) (xs : List α) : List α := xs.map fun x => if key x == key y then y else x

/-- Where every row with `y`'s key has `y`'s tenant, a put keeps each row's tenant. -/
theorem tenant_put (hown : ∀ x ∈ xs, key x = key y → ten x = ten y) :
    ∀ x ∈ xs, keep (ten (if key x == key y then y else x)) = keep (ten x) := by
  intro x hx
  split
  · next he => rw [hown x hx (beq_iff_eq.mp he)]
  · rfl

theorem filter_put_comm (hown : ∀ x ∈ xs, key x = key y → ten x = ten y) :
    (putByKey key y xs).filter (fun x => keep (ten x)) =
      (xs.filter fun x => keep (ten x)).map fun x => if key x == key y then y else x :=
  filter_map_comm (tenant_put key ten keep hown)

/-- A put of a row of a tenant `keep` leaves out leaves the rows `keep` picks. -/
theorem filter_put_of_not_keep (hown : ∀ x ∈ xs, key x = key y → ten x = ten y)
    (hy : keep (ten y) = false) :
    (putByKey key y xs).filter (fun x => keep (ten x)) = xs.filter fun x => keep (ten x) := by
  refine filter_map_eq_self (tenant_put key ten keep hown) fun x hx hkeep => ?_
  split
  · next he =>
    rw [hown x hx (beq_iff_eq.mp he), hy] at hkeep
    cases hkeep
  · rfl

/-- A put keeps what `f` reads of each row where every row with `y`'s key agrees with `y`. -/
theorem map_put {β : Type} (f : α → β) (hown : ∀ x ∈ xs, key x = key y → f x = f y) :
    (putByKey key y xs).map f = xs.map f := by
  unfold putByKey
  rw [List.map_map]
  refine List.map_congr_left fun x hx => ?_
  simp only [Function.comp_apply]
  split
  · next he => exact (hown x hx (beq_iff_eq.mp he)).symm
  · rfl

/-- In a list whose keys are distinct, the rows with the key of a member are that member. -/
theorem owner_of_nodup (hnd : (xs.map key).Nodup) {x₀ : α} (h₀ : x₀ ∈ xs)
    (hy : key y = key x₀) (ht : ten y = ten x₀) : ∀ x ∈ xs, key x = key y → ten x = ten y :=
  fun x hx he => by rw [List.inj_on_of_nodup_map hnd hx h₀ (he.trans hy), ht]

end Keyed

theorem putReservation_eq (db : Database) (r : Reservation) :
    (db.putReservation r).reservations = putByKey (·.id) r db.reservations := rfl

theorem putLink_eq (db : Database) (l : BookingLink) :
    (db.putLink l).links = putByKey (·.id) l db.links := rfl

/-- The rows of `db` and `db'` of the tenants `keep` picks are the same, table by table. -/
structure RowsMatch (keep : Uuid → Bool) (db db' : Database) : Prop where
  stores : db.stores.filter (keep ·.tenant) = db'.stores.filter (keep ·.tenant)
  practitioners : db.practitioners.filter (keep ·.tenant) = db'.practitioners.filter (keep ·.tenant)
  customers : db.customers.filter (keep ·.tenant) = db'.customers.filter (keep ·.tenant)
  menus : db.menus.filter (keep ·.tenant) = db'.menus.filter (keep ·.tenant)
  options : db.options.filter (keep ·.tenant) = db'.options.filter (keep ·.tenant)
  reservations : db.reservations.filter (keep ·.tenant) = db'.reservations.filter (keep ·.tenant)
  links : db.links.filter (keep ·.tenant) = db'.links.filter (keep ·.tenant)
  audit : db.audit.filter (keep ·.tenant) = db'.audit.filter (keep ·.tenant)

namespace RowsMatch

variable {keep : Uuid → Bool} {db db₁ db₂ db₃ : Database}

theorem refl (keep : Uuid → Bool) (db : Database) : RowsMatch keep db db :=
  ⟨rfl, rfl, rfl, rfl, rfl, rfl, rfl, rfl⟩

theorem trans (h₁ : RowsMatch keep db₁ db₂) (h₂ : RowsMatch keep db₂ db₃) : RowsMatch keep db₁ db₃ :=
  ⟨h₁.stores.trans h₂.stores, h₁.practitioners.trans h₂.practitioners,
    h₁.customers.trans h₂.customers, h₁.menus.trans h₂.menus, h₁.options.trans h₂.options,
    h₁.reservations.trans h₂.reservations, h₁.links.trans h₂.links, h₁.audit.trans h₂.audit⟩

/-- Matching reads the rows only: new ids and clock readings on either side keep it. -/
theorem counters (h : RowsMatch keep db₁ db₂) (i₁ i₂ : Nat) (c₁ c₂ : Clock) :
    RowsMatch keep { db₁ with issued := i₁, clock := c₁ } { db₂ with issued := i₂, clock := c₂ } :=
  ⟨h.stores, h.practitioners, h.customers, h.menus, h.options, h.reservations, h.links, h.audit⟩

end RowsMatch

/-- Tenant `A` sees the same in `db₁` and `db₂`: its own rows, and the tokens held. -/
structure Shares (A : Uuid) (db₁ db₂ : Database) : Prop where
  rows : RowsMatch (· == A) db₁ db₂
  tokens : ∀ t, db₁.links.any (·.token == t) = db₂.links.any (·.token == t)

/-- Tenant `A`'s view, the ids given out and the clock are the same in `db₁` and `db₂`:
whatever `A` asks next reads and draws the same. -/
structure Agree (A : Uuid) (db₁ db₂ : Database) : Prop where
  shares : Shares A db₁ db₂
  issued : db₁.issued = db₂.issued
  clock : db₁.clock = db₂.clock

/-- `db'` keeps the tenants, and every row of a tenant other than `A`, of `db`. -/
structure Others (A : Uuid) (db db' : Database) : Prop where
  rows : RowsMatch (· != A) db db'
  tenants : db.tenants = db'.tenants

/-- Ids are keys: no two reservations and no two links share one. -/
structure Distinct (db : Database) : Prop where
  reservations : (db.reservations.map (·.id)).Nodup
  links : (db.links.map (·.id)).Nodup

theorem Shares.refl (A : Uuid) (db : Database) : Shares A db db := ⟨RowsMatch.refl _ db, fun _ => rfl⟩

theorem Others.refl (A : Uuid) (db : Database) : Others A db db := ⟨RowsMatch.refl _ db, rfl⟩

theorem Others.trans {A : Uuid} {db₁ db₂ db₃ : Database} (h₁ : Others A db₁ db₂)
    (h₂ : Others A db₂ db₃) : Others A db₁ db₃ :=
  ⟨h₁.rows.trans h₂.rows, h₁.tenants.trans h₂.tenants⟩

theorem Others.counters (A : Uuid) (db : Database) (i : Nat) (c : Clock) :
    Others A db { db with issued := i, clock := c } :=
  ⟨(RowsMatch.refl _ db).counters db.issued i db.clock c, rfl⟩

theorem Shares.counters {A : Uuid} {db₁ db₂ : Database} (h : Shares A db₁ db₂) (i₁ i₂ : Nat)
    (c₁ c₂ : Clock) : Shares A { db₁ with issued := i₁, clock := c₁ } { db₂ with issued := i₂, clock := c₂ } :=
  ⟨h.rows.counters i₁ i₂ c₁ c₂, h.tokens⟩

theorem Distinct.of_sameRows {db db' : Database} (h : Distinct db) (hs : SameRows db db') :
    Distinct db' :=
  ⟨hs.reservations_eq ▸ h.reservations, hs.links_eq ▸ h.links⟩

/-! ## Lookups scoped to a tenant -/

/-- A lookup by id of a row of tenant `A` reads only `A`'s rows. -/
theorem find?_and {β : Type} {A : Uuid} {xs ys : List β} (ten key : β → Uuid)
    (hxy : xs.filter (fun x => ten x == A) = ys.filter (fun x => ten x == A)) (id : Uuid) :
    xs.find? (fun x => ten x == A && key x == id) = ys.find? (fun x => ten x == A && key x == id) :=
  find?_eq_of_filter hxy fun _ hx => ((Bool.and_eq_true _ _).mp hx).1

namespace Shares

variable {A : Uuid} {db₁ db₂ : Database} (h : Shares A db₁ db₂)
include h

theorem reservationsOf : db₁.reservationsOf A = db₂.reservationsOf A := h.rows.reservations

theorem reservation? (id : Uuid) : db₁.reservation? A id = db₂.reservation? A id :=
  find?_and (fun x : Reservation => x.tenant) (·.id) h.rows.reservations id

theorem store? (id : Uuid) : db₁.store? A id = db₂.store? A id :=
  find?_and (fun x : Store => x.tenant) (·.id) h.rows.stores id

theorem practitioner? (id : Uuid) : db₁.practitioner? A id = db₂.practitioner? A id :=
  find?_and (fun x : Practitioner => x.tenant) (·.id) h.rows.practitioners id

theorem customer? (id : Uuid) : db₁.customer? A id = db₂.customer? A id :=
  find?_and (fun x : Customer => x.tenant) (·.id) h.rows.customers id

theorem menu? (id : Uuid) : db₁.menu? A id = db₂.menu? A id :=
  find?_and (fun x : Menu => x.tenant) (·.id) h.rows.menus id

theorem option? (id : Uuid) : db₁.option? A id = db₂.option? A id :=
  find?_and (fun x : MenuOption => x.tenant) (·.id) h.rows.options id

theorem link? (id : Uuid) :
    db₁.links.find? (fun l => l.tenant == A && l.id == id) =
      db₂.links.find? (fun l => l.tenant == A && l.id == id) :=
  find?_and (fun x : BookingLink => x.tenant) (·.id) h.rows.links id

theorem firstStore : db₁.stores.find? (·.tenant == A) = db₂.stores.find? (·.tenant == A) :=
  find?_eq_of_filter h.rows.stores fun _ hx => hx

theorem liveAny (p : Uuid) (s : Option Uuid) :
    db₁.links.any (Link.liveIn A p s) = db₂.links.any (Link.liveIn A p s) :=
  any_eq_of_filter h.rows.links fun _ hx => by
    simp only [Link.liveIn, BookingLink.inScope, Bool.and_eq_true] at hx
    exact hx.1.1.1

/-- A link of `A` in `db₂` is a link of `db₁` too. -/
theorem mem_links {l : BookingLink} (hl : l ∈ db₂.links) (ht : l.tenant = A) : l ∈ db₁.links := by
  have hmem : l ∈ db₂.links.filter (·.tenant == A) := List.mem_filter.mpr ⟨hl, by simp [ht]⟩
  rw [← h.rows.links] at hmem
  exact (List.mem_filter.mp hmem).1

theorem listOf {ctx : Context} (ht : ctx.tenant = A) (status : Option String) :
    Link.listOf db₁ ctx status = Link.listOf db₂ ctx status := by
  subst ht
  unfold Link.listOf
  rw [filter_eq_of_filter h.rows.links fun _ hx => ((Bool.and_eq_true _ _).mp hx).1]

end Shares

/-! ## Writes made for a tenant -/

section Writes

variable {A : Uuid} {db db₁ db₂ : Database}

/-- Every reservation with `r`'s id belongs to `r`'s tenant. -/
def OwnsReservation (db : Database) (r : Reservation) : Prop :=
  ∀ x ∈ db.reservations, x.id = r.id → x.tenant = r.tenant

/-- Every link with `l`'s id has `l`'s tenant and token. -/
def OwnsLink (db : Database) (l : BookingLink) : Prop :=
  ∀ x ∈ db.links, x.id = l.id → x.tenant = l.tenant ∧ x.token = l.token

theorem Distinct.ownsReservation (h : Distinct db) {r₀ r : Reservation} (h₀ : r₀ ∈ db.reservations)
    (hid : r.id = r₀.id) (ht : r.tenant = r₀.tenant) : OwnsReservation db r :=
  owner_of_nodup (fun x : Reservation => x.id) (·.tenant) h.reservations h₀ hid ht

theorem Distinct.ownsLink (h : Distinct db) {l₀ l : BookingLink} (h₀ : l₀ ∈ db.links)
    (hid : l.id = l₀.id) (ht : l.tenant = l₀.tenant) (htoken : l.token = l₀.token) :
    OwnsLink db l := fun x hx he => by
  rw [List.inj_on_of_nodup_map h.links hx h₀ (he.trans hid)]
  exact ⟨ht.symm, htoken.symm⟩

theorem Shares.putReservation (h : Shares A db₁ db₂) {r : Reservation}
    (h₁ : OwnsReservation db₁ r) (h₂ : OwnsReservation db₂ r) :
    Shares A (db₁.putReservation r) (db₂.putReservation r) := by
  refine ⟨{ h.rows with reservations := ?_ }, h.tokens⟩
  rw [putReservation_eq, putReservation_eq, filter_put_comm (fun x : Reservation => x.id) (·.tenant) (· == A) h₁,
    filter_put_comm (fun x : Reservation => x.id) (·.tenant) (· == A) h₂]
  exact congrArg _ h.rows.reservations

theorem Others.putReservation {r : Reservation} (hr : r.tenant = A) (hown : OwnsReservation db r) :
    Others A db (db.putReservation r) := by
  refine ⟨{ RowsMatch.refl (· != A) db with reservations := ?_ }, rfl⟩
  rw [putReservation_eq, filter_put_of_not_keep (fun x : Reservation => x.id) (·.tenant) (· != A) hown (by simp [hr])]

/-- The tokens a list of links holds. -/
theorem any_token (xs : List BookingLink) (t : String) :
    xs.any (·.token == t) = (xs.map (·.token)).any (· == t) := by
  rw [List.any_map]
  rfl

theorem Shares.putLink (h : Shares A db₁ db₂) {l : BookingLink} (h₁ : OwnsLink db₁ l)
    (h₂ : OwnsLink db₂ l) : Shares A (db₁.putLink l) (db₂.putLink l) := by
  refine ⟨{ h.rows with links := ?_ }, fun t => ?_⟩
  · rw [putLink_eq, putLink_eq, filter_put_comm (fun x : BookingLink => x.id) (·.tenant) (· == A)
      fun x hx he => (h₁ x hx he).1,
      filter_put_comm (fun x : BookingLink => x.id) (·.tenant) (· == A) fun x hx he => (h₂ x hx he).1]
    exact congrArg _ h.rows.links
  · rw [putLink_eq, putLink_eq, any_token, any_token, map_put (fun x : BookingLink => x.id) (·.token)
      fun x hx he => (h₁ x hx he).2, map_put (fun x : BookingLink => x.id) (·.token)
      fun x hx he => (h₂ x hx he).2, ← any_token, ← any_token]
    exact h.tokens t

theorem Others.putLink {l : BookingLink} (hl : l.tenant = A) (hown : OwnsLink db l) :
    Others A db (db.putLink l) := by
  refine ⟨{ RowsMatch.refl (· != A) db with links := ?_ }, rfl⟩
  rw [putLink_eq, filter_put_of_not_keep (fun x : BookingLink => x.id) (·.tenant) (· != A)
    (fun x hx he => (hown x hx he).1)
    (by simp [hl])]

theorem Shares.addReservation (h : Shares A db₁ db₂) (r : Reservation) :
    Shares A { db₁ with reservations := db₁.reservations ++ [r] }
      { db₂ with reservations := db₂.reservations ++ [r] } := by
  refine ⟨{ h.rows with reservations := ?_ }, h.tokens⟩
  show (db₁.reservations ++ [r]).filter _ = (db₂.reservations ++ [r]).filter _
  rw [List.filter_append, List.filter_append, h.rows.reservations]

theorem Others.addReservation {r : Reservation} (hr : r.tenant = A) :
    Others A db { db with reservations := db.reservations ++ [r] } := by
  refine ⟨{ RowsMatch.refl (· != A) db with reservations := ?_ }, rfl⟩
  show db.reservations.filter _ = (db.reservations ++ [r]).filter _
  simp [hr]

theorem Shares.addLink (h : Shares A db₁ db₂) (l : BookingLink) :
    Shares A { db₁ with links := db₁.links ++ [l] } { db₂ with links := db₂.links ++ [l] } := by
  refine ⟨{ h.rows with links := ?_ }, fun t => ?_⟩
  · show (db₁.links ++ [l]).filter _ = (db₂.links ++ [l]).filter _
    rw [List.filter_append, List.filter_append, h.rows.links]
  · show (db₁.links ++ [l]).any _ = (db₂.links ++ [l]).any _
    rw [List.any_append, List.any_append, h.tokens t]

theorem Others.addLink {l : BookingLink} (hl : l.tenant = A) :
    Others A db { db with links := db.links ++ [l] } := by
  refine ⟨{ RowsMatch.refl (· != A) db with links := ?_ }, rfl⟩
  show db.links.filter _ = (db.links ++ [l]).filter _
  simp [hl]

theorem Shares.addAudit (h : Shares A db₁ db₂) (e : AuditEntry) :
    Shares A { db₁ with audit := db₁.audit ++ [e] } { db₂ with audit := db₂.audit ++ [e] } := by
  refine ⟨{ h.rows with audit := ?_ }, h.tokens⟩
  show (db₁.audit ++ [e]).filter _ = (db₂.audit ++ [e]).filter _
  rw [List.filter_append, List.filter_append, h.rows.audit]

theorem Others.addAudit {e : AuditEntry} (he : e.tenant = A) :
    Others A db { db with audit := db.audit ++ [e] } := by
  refine ⟨{ RowsMatch.refl (· != A) db with audit := ?_ }, rfl⟩
  show db.audit.filter _ = (db.audit ++ [e]).filter _
  simp [he]

theorem revokeIf_tenant (r : BookingLink → Bool) (l : BookingLink) :
    (Link.revokeIf r l).tenant = l.tenant := by
  unfold Link.revokeIf
  split <;> rfl

/-- Revoking the active links of one of `A`'s scopes. -/
theorem Shares.revokeScope (h : Shares A db₁ db₂) (p : Uuid) (s : Option Uuid) :
    Shares A { db₁ with links := db₁.links.map (Link.revokeIf (Link.liveIn A p s)) }
      { db₂ with links := db₂.links.map (Link.revokeIf (Link.liveIn A p s)) } := by
  refine ⟨{ h.rows with links := ?_ }, fun t => ?_⟩
  · show (db₁.links.map _).filter _ = (db₂.links.map _).filter _
    rw [filter_map_comm fun x _ => by rw [revokeIf_tenant],
      filter_map_comm fun x _ => by rw [revokeIf_tenant], h.rows.links]
  · show (db₁.links.map _).any _ = (db₂.links.map _).any _
    simp only [List.any_map, Function.comp_def, Link.revokeIf_token]
    exact h.tokens t

theorem Others.revokeScope (p : Uuid) (s : Option Uuid) :
    Others A db { db with links := db.links.map (Link.revokeIf (Link.liveIn A p s)) } := by
  refine ⟨{ RowsMatch.refl (· != A) db with links := ?_ }, rfl⟩
  show db.links.filter _ = (db.links.map _).filter _
  refine (filter_map_eq_self (fun x _ => by rw [revokeIf_tenant]) fun x _ hx => ?_).symm
  have hne : x.tenant ≠ A := by simpa using hx
  unfold Link.revokeIf
  rw [if_neg]
  simp [Link.liveIn, BookingLink.inScope, hne]

end Writes

end SalonBooking
