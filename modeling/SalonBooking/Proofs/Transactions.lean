import SalonBooking.Database

/-!
How an operation ends. `Op.wp x ok err db` says that the run of `x` from `db` ends
well: in `ok a db'` when it returns `a` and leaves `db'`, in `err e db'` when it fails
with `e` and leaves `db'`. Its lemmas take an operation apart one statement at a time,
so what an operation does is read off its definition.

`Database.SameRows db db'` is what a failed write must leave: the rows of `db`, with at
most more ids given out and the clock read further. A transaction that fails leaves it,
whatever its body wrote, and a dropped audit write leaves the database untouched.
-/

namespace SalonBooking

open SalonBooking.Calendar

namespace Database

/-- `db'` stores exactly the rows of `db`; it may only have given out more ids and read
the clock further, and neither is stored. -/
def SameRows (db db' : Database) : Prop :=
  db.issued ≤ db'.issued ∧ ∃ (issued : Nat) (clock : Clock),
    db' = { db with issued := issued, clock := clock }

theorem SameRows.refl (db : Database) : SameRows db db :=
  ⟨Nat.le_refl _, db.issued, db.clock, rfl⟩

theorem SameRows.trans {db₁ db₂ db₃ : Database} (h₁ : SameRows db₁ db₂)
    (h₂ : SameRows db₂ db₃) : SameRows db₁ db₃ := by
  obtain ⟨hle₁, n₁, c₁, rfl⟩ := h₁
  obtain ⟨hle₂, n₂, c₂, rfl⟩ := h₂
  exact ⟨Nat.le_trans hle₁ hle₂, n₂, c₂, rfl⟩

/-- Taking ids and reading the clock writes no row. -/
theorem sameRows_counters (db : Database) {issued : Nat} (clock : Clock)
    (h : db.issued ≤ issued) : SameRows db { db with issued := issued, clock := clock } :=
  ⟨h, issued, clock, rfl⟩

theorem sameRows_clock (db : Database) (clock : Clock) :
    SameRows db { db with clock := clock } :=
  sameRows_counters db clock (Nat.le_refl _)

section SameRows

variable {db db' : Database}

theorem SameRows.reservations_eq (h : SameRows db db') : db'.reservations = db.reservations := by
  obtain ⟨-, n, c, rfl⟩ := h
  rfl

theorem SameRows.links_eq (h : SameRows db db') : db'.links = db.links := by
  obtain ⟨-, n, c, rfl⟩ := h
  rfl

theorem SameRows.audit_eq (h : SameRows db db') : db'.audit = db.audit := by
  obtain ⟨-, n, c, rfl⟩ := h
  rfl

end SameRows

end Database

namespace Op

/-- The run of `x` from `db` ends in `ok a db'` if it returns `a` leaving `db'`, and in
`err e db'` if it fails with `e` leaving `db'`. -/
def wp {α : Type} (x : Op α) (ok : α → Database → Prop) (err : Fault → Database → Prop)
    (db : Database) : Prop :=
  match x.run db with
  | .ok a db' => ok a db'
  | .error e db' => err e db'

/-- The database a run of `x` from `db` leaves, whether it returned or failed. -/
def leaves {α : Type} (x : Op α) (db : Database) : Database :=
  match x.run db with
  | .ok _ db' => db'
  | .error _ db' => db'

section Laws

variable {α β : Type} {ok : β → Database → Prop} {err : Fault → Database → Prop}
  {db : Database}

@[simp] theorem wp_pure (b : β) : wp (pure b) ok err db = ok b db := rfl

@[simp] theorem wp_throw (e : Fault) : wp (throw e : Op β) ok err db = err e db := rfl

@[simp] theorem wp_get {ok : Database → Database → Prop} :
    wp (get : Op Database) ok err db = ok db db := rfl

@[simp] theorem wp_set {ok : PUnit → Database → Prop} (db' : Database) :
    wp (set db' : Op PUnit) ok err db = ok () db' := rfl

@[simp] theorem wp_modify {ok : PUnit → Database → Prop} (f : Database → Database) :
    wp (modify f : Op PUnit) ok err db = ok () (f db) := rfl

/-- A statement followed by the rest: the rest runs from where the statement left off. -/
@[simp] theorem wp_bind (x : Op α) (f : α → Op β) :
    wp (x >>= f) ok err db = wp x (fun a => wp (f a) ok err) err db := by
  simp only [wp, EStateM.run_bind]
  cases x.run db <;> rfl

/-- A statement whose answer is dropped. -/
theorem wp_bind_unit {ok : Unit → Database → Prop} (x : Op α) :
    wp (x >>= fun _ => pure ()) ok err db = wp x (fun _ => ok ()) err db := by
  rw [wp_bind]
  rfl

/-- A check that reads no row passes or fails where it stands. -/
@[simp] theorem wp_lift (x : Except Fault β) :
    wp (liftM x : Op β) ok err db = match x with
      | .ok b => ok b db
      | .error e => err e db := by
  cases x <;> rfl

@[simp] theorem wp_ite (c : Prop) [Decidable c] (x y : Op β) :
    wp (if c then x else y) ok err db = if c then wp x ok err db else wp y ok err db := by
  by_cases h : c <;> simp [h]

/-- A failed transaction leaves the rows it started from. -/
@[simp] theorem wp_transaction (x : Op β) :
    wp (Database.transaction x) ok err db =
      wp x ok (fun e db' => err e { db with issued := db'.issued, clock := db'.clock }) db := by
  simp only [wp, Database.transaction, EStateM.run]
  cases x db <;> rfl

/-- A dropped write leaves the database it started from. -/
@[simp] theorem wp_attempt {ok : Unit → Database → Prop} (x : Op Unit) :
    wp (Database.attempt x) ok err db = wp x ok (fun _ _ => ok () db) db := by
  simp only [wp, Database.attempt, EStateM.run]
  cases x db <;> rfl

theorem wp_mono {x : Op β} {ok' : β → Database → Prop} {err' : Fault → Database → Prop}
    (h : wp x ok err db) (hok : ∀ b db', ok b db' → ok' b db')
    (herr : ∀ e db', err e db' → err' e db') : wp x ok' err' db := by
  unfold wp at h ⊢
  cases hrun : x.run db with
  | ok b db' => rw [hrun] at h; exact hok b db' h
  | error e db' => rw [hrun] at h; exact herr e db' h

/-- `wp` read back as a statement about the run. -/
theorem wp_iff_run {x : Op β} : wp x ok err db ↔
    (∀ b db', x.run db = .ok b db' → ok b db') ∧
      (∀ e db', x.run db = .error e db' → err e db') := by
  unfold wp
  constructor
  · intro h
    refine ⟨fun b db' hrun => ?_, fun e db' hrun => ?_⟩ <;> rw [hrun] at h <;> exact h
  · rintro ⟨hok, herr⟩
    cases hrun : x.run db with
    | ok b db' => exact hok b db' hrun
    | error e db' => exact herr e db' hrun

theorem wp_of_run_ok {x : Op β} {b : β} {db' : Database} (h : x.run db = .ok b db') :
    wp x ok err db = ok b db' := by
  unfold wp
  rw [h]

theorem wp_of_run_error {x : Op β} {e : Fault} {db' : Database} (h : x.run db = .error e db') :
    wp x ok err db = err e db' := by
  unfold wp
  rw [h]

/-- A run whose every end is the failure `e` leaving `db'` is that failure. -/
theorem run_eq_error {x : Op β} {e : Fault} {db' : Database}
    (h : wp x (fun _ _ => False) (fun e₁ db₁ => e₁ = e ∧ db₁ = db') db) :
    x.run db = .error e db' := by
  unfold wp at h
  split at h
  · exact h.elim
  · next e₁ db₁ hrun =>
    rw [hrun, h.1, h.2]

/-- What holds of every way a run can end holds of the database it leaves. -/
theorem leaves_of_wp {x : Op β} {P : Database → Prop}
    (h : wp x (fun _ => P) (fun _ => P) db) : P (leaves x db) := by
  unfold wp at h
  unfold leaves
  cases hrun : x.run db <;> rw [hrun] at h <;> exact h

end Laws

end Op

namespace Database

open Op

section Primitives

variable {α : Type} {err : Fault → Database → Prop} {db : Database}

/-- A reading of the clock is a microsecond after the one before; it fails only past
the end of the calendar. -/
theorem wp_now {ok : DateTime → Database → Prop} :
    wp now ok err db =
      match db.clock.base.shift ((db.clock.reads + 1 : Nat) : Int) with
      | .ok t => ok t { db with clock := { db.clock with reads := db.clock.reads + 1 } }
      | .error e => err (.range e) { db with clock := { db.clock with reads := db.clock.reads + 1 } } := by
  simp only [now, wp_bind, wp_get, wp_set, wp_lift]
  cases db.clock.base.shift ((db.clock.reads + 1 : Nat) : Int) <;> rfl

@[simp] theorem wp_freshId {ok : Uuid → Database → Prop} :
    wp freshId ok err db = ok ⟨db.issued + 1⟩ { db with issued := db.issued + 1 } := rfl

@[simp] theorem wp_checkColumns {ok : Unit → Database → Prop} (ns : List Int) :
    wp (checkColumns ns) ok err db = if ns.all fitsColumn then ok () db else err .integerTooLarge db := by
  unfold checkColumns
  split <;> simp_all

/-- The audit entry is written with the next id and clock reading, or not at all. -/
theorem wp_record {ok : Unit → Database → Prop} (tenant : Uuid) (actor : Actor)
    (action resourceType : String) (resource : Option Uuid) (before after : Json) :
    wp (record tenant actor action resourceType resource before after) ok err db =
      match db.clock.base.shift ((db.clock.reads + 1 : Nat) : Int) with
      | .ok t => ok () { db with
          audit := db.audit ++ [⟨⟨db.issued + 1⟩, tenant, actor, action, resourceType, resource,
            before, after, t⟩]
          issued := db.issued + 1, clock := { db.clock with reads := db.clock.reads + 1 } }
      | .error _ => ok () db := by
  simp only [record, wp_attempt, wp_bind, wp_freshId, wp_now]
  cases db.clock.base.shift ((db.clock.reads + 1 : Nat) : Int) <;> rfl

/-- An audit write never fails and touches nothing but the audit trail and the counters. -/
theorem record_keeps {ok : Unit → Database → Prop} (tenant : Uuid) (actor : Actor)
    (action resourceType : String) (resource : Option Uuid) (before after : Json)
    (h : ∀ db', db'.reservations = db.reservations → db'.links = db.links →
      db.issued ≤ db'.issued → ok () db') :
    wp (record tenant actor action resourceType resource before after) ok err db := by
  rw [wp_record]
  split
  · exact h _ rfl rfl (Nat.le_succ _)
  · exact h _ rfl rfl (Nat.le_refl _)

end Primitives

end Database

end SalonBooking
