import SalonBooking.Catalog
import SalonBooking.Reservation.Basic
import SalonBooking.Link.Basic
import SalonBooking.Audit

/-!
Everything the service stores: the catalog, the reservations, the booking links
and the audit trail, each table in the order its rows were written, with the
service's clock and the count of ids given out.

An operation reads and changes the database and may fail. A failed operation
leaves the database as it stood when it failed: what it wrote inside a
`transaction` is rolled back, while the ids it took and the clock readings it made
stay taken. Integers are stored in 64 bits, and writing a larger one is a fault.
-/

namespace SalonBooking

open SalonBooking.Calendar

/-- The service's clock: a base instant and a count of reads, so that every read
is a microsecond after the one before. -/
structure Clock where
  base : DateTime
  reads : Nat := 0

/-- The tenant a request acts for, and the store it is scoped to, if any. -/
structure Context where
  tenant : Uuid
  store : Option Uuid := none

/-- All stored rows. -/
structure Database where
  tenants : List Tenant := []
  stores : List Store := []
  practitioners : List Practitioner := []
  customers : List Customer := []
  menus : List Menu := []
  options : List MenuOption := []
  reservations : List Reservation := []
  links : List BookingLink := []
  audit : List AuditEntry := []
  /-- How many ids have been given out. -/
  issued : Nat := 0
  clock : Clock

/-- An operation on the database; a failure keeps the database it failed in. -/
abbrev Op := EStateM Fault Database

/-- A check that reads nothing fails or passes without touching the database. -/
instance : MonadLift (Except Fault) Op where
  monadLift x := fun db => match x with
    | .ok a => .ok a db
    | .error e => .error e db

/-- Whether an integer fits a 64-bit column. -/
def fitsColumn (n : Int) : Bool := -Int.pow 2 63 ≤ n && n < Int.pow 2 63

/-- Whether storage can add up `xs` after `acc`: it adds them in order in 64 bits, and an
integer sum fails as soon as a running total leaves them, even if later terms would bring
it back. -/
def runningSumFits (acc : Int) : List Int → Bool
  | [] => true
  | x :: xs => fitsColumn (acc + x) && runningSumFits (acc + x) xs

namespace Database

/-- Reads the clock. -/
def now : Op DateTime := do
  let db ← get
  let reads := db.clock.reads + 1
  set { db with clock := { db.clock with reads := reads } }
  liftRange (db.clock.base.shift reads)

/-- A new id; ids are given out in increasing order. -/
def freshId : Op Uuid := do
  let db ← get
  set { db with issued := db.issued + 1 }
  pure ⟨db.issued + 1⟩

/-- Refuses to store an integer that does not fit its column. -/
def checkColumns (ns : List Int) : Op Unit :=
  if ns.all fitsColumn then pure () else throw .integerTooLarge

def tenant? (db : Database) (id : Uuid) : Option Tenant := db.tenants.find? (·.id == id)

def store? (db : Database) (tenant id : Uuid) : Option Store :=
  db.stores.find? fun s => s.tenant == tenant && s.id == id

def practitioner? (db : Database) (tenant id : Uuid) : Option Practitioner :=
  db.practitioners.find? fun p => p.tenant == tenant && p.id == id

def customer? (db : Database) (tenant id : Uuid) : Option Customer :=
  db.customers.find? fun c => c.tenant == tenant && c.id == id

def menu? (db : Database) (tenant id : Uuid) : Option Menu :=
  db.menus.find? fun m => m.tenant == tenant && m.id == id

def option? (db : Database) (tenant id : Uuid) : Option MenuOption :=
  db.options.find? fun o => o.tenant == tenant && o.id == id

/-- The tenant's reservation with id `id`. -/
def reservation? (db : Database) (tenant id : Uuid) : Option Reservation :=
  db.reservations.find? fun r => r.tenant == tenant && r.id == id

/-- The tenant's reservations, in the order they were written. -/
def reservationsOf (db : Database) (tenant : Uuid) : List Reservation :=
  db.reservations.filter (·.tenant == tenant)

/-- Replaces the stored reservation with the same id. -/
def putReservation (db : Database) (r : Reservation) : Database :=
  { db with reservations := db.reservations.map fun x => if x.id == r.id then r else x }

/-- Replaces the stored link with the same id. -/
def putLink (db : Database) (l : BookingLink) : Database :=
  { db with links := db.links.map fun x => if x.id == l.id then l else x }

/-- Runs `x` as one transaction: if it fails, the rows it wrote are rolled back,
while the ids it took and the clock readings it made stay taken. -/
def transaction {α : Type} (x : Op α) : Op α := fun db =>
  match x db with
  | .ok a db' => .ok a db'
  | .error e db' => .error e { db with issued := db'.issued, clock := db'.clock }

/-- Runs `x` for its effect alone: a failure never reaches the caller, and
whatever `x` wrote before it failed is dropped. -/
def attempt (x : Op Unit) : Op Unit := fun db =>
  match x db with
  | .ok _ db' => .ok () db'
  | .error _ _ => .ok () db

/-- Adds an entry to the audit trail. The entry is written on its own, after the
change it records was committed, and a failure to write it is dropped. -/
def record (tenant : Uuid) (actor : Actor) (action resourceType : String)
    (resource : Option Uuid) (before after : Json) : Op Unit := attempt do
  let id ← freshId
  let stamp ← now
  modify fun db => { db with audit := db.audit ++
    [⟨id, tenant, actor, action, resourceType, resource, before, after, stamp⟩] }

end Database

end SalonBooking
