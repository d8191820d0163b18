import SalonBooking.Link.Service
import SalonBooking.Api.Message

/-!
A demo salon for development: one tenant with a store, two practitioners, four
menus, two options, a customer and a booking link for the first practitioner, with
a report that gives the link's address and development tokens for an owner and the
customer. Seeding a database that already has the demo tenant changes nothing.
-/

namespace SalonBooking

open SalonBooking.Calendar

/-- What seeding the demo salon created. -/
structure DemoSalon where
  tenant : Tenant
  store : Store
  practitioners : List Practitioner
  menus : List Menu
  customer : Customer
  link : BookingLink

namespace Demo

/-- The demo tenant's public key. -/
def slug : String := "demo-salon"

/-- The demo menus: name, category, price and minutes. -/
def menuRows : List (String × String × Int × Int) :=
  [("Cut", "Cut", 5500, 60), ("Color", "Color", 8800, 90), ("Perm", "Perm", 11000, 120),
   ("Head Spa", "Spa", 4400, 30)]

/-- The demo options: name, price and minutes. -/
def optionRows : List (String × Int × Int) := [("Treatment", 2200, 15), ("Shampoo", 1100, 10)]

/-- Creates the demo salon, unless its tenant exists. -/
def seed : Op (Option DemoSalon) := do
  if (← get).tenants.any (·.slug == slug) then return none
  let tid ← Database.freshId
  let tenant : Tenant := ⟨tid, "Demo Hair Salon", slug, some "active",
    .obj [("mode", .str "store"), ("liff_id", .str "0000000000-demo"),
      ("channel_id", .str "1650000000")]⟩
  let sid ← Database.freshId
  let store : Store := ⟨sid, tid, "Shibuya", some "active", some "Asia/Tokyo", some 30, some 60,
    some 24, .obj [("liff_id", .str "0000000000-shibuya")]⟩
  let sato : Practitioner := ⟨← Database.freshId, tid, "Sato", true, some 550,
    .arr [.str sid.text], .obj []⟩
  let suzuki : Practitioner := ⟨← Database.freshId, tid, "Suzuki", true, some 0, .arr [], .obj []⟩
  let menus ← menuRows.zipIdx.mapM fun ((name, category, price, minutes), i) => do
    return (⟨← Database.freshId, tid, name, some category, price, minutes, true, some i⟩ : Menu)
  let options ← optionRows.mapM fun (name, price, minutes) => do
    return (⟨← Database.freshId, tid, name, price, some minutes, true⟩ : MenuOption)
  let customer : Customer := ⟨← Database.freshId, tid, "Tanaka Hanako", some "09000000000"⟩
  modify fun db => { db with
    tenants := db.tenants ++ [tenant], stores := db.stores ++ [store]
    practitioners := db.practitioners ++ [sato, suzuki], menus := db.menus ++ menus
    options := db.options ++ options, customers := db.customers ++ [customer] }
  let link ← Link.issue ⟨tid, none⟩ sato.id "seed" (some sid) none true false Link.mixedSource
  return some ⟨tenant, store, [sato, suzuki], menus, customer, link⟩

end Demo

namespace DemoSalon

/-- The development token of the tenant's owner. -/
def ownerClaims (s : DemoSalon) : Api.Claims :=
  { sub := "demo-owner", role := "owner", tenant := some s.tenant.id.text, name := some "Owner" }

/-- The development token of the demo customer. -/
def customerClaims (s : DemoSalon) : Api.Claims :=
  { sub := s.customer.id.text, role := "customer", tenant := some s.tenant.id.text }

/-- The report of a seeding, with tokens written by `showToken`. -/
def report (s : DemoSalon) (showToken : Api.Claims → String) : String :=
  let lead := (s.practitioners.head?.map (·.name)).getD ""
  "Creating demo tenant...\n" ++
  "Created tenant: " ++ s.tenant.name ++ " (ID: " ++ s.tenant.id.text ++ ")\n" ++
  "\nDemo data created successfully!\n\n" ++
  "Tenant: " ++ s.tenant.name ++ "\n" ++
  "  ID: " ++ s.tenant.id.text ++ "\n" ++
  "  Store: " ++ s.store.name ++ " (" ++ s.store.id.text ++ ")\n\n" ++
  "Practitioners: " ++ ", ".intercalate (s.practitioners.map (·.name)) ++ "\n" ++
  "Menus: " ++ toString s.menus.length ++ " items created\n\n" ++
  "Booking link for " ++ lead ++ ":\n" ++
  "  " ++ Link.url s.link.token ++ "\n\n" ++
  "Development tokens:\n" ++
  "  Owner:    " ++ showToken s.ownerClaims ++ "\n" ++
  "  Customer: " ++ showToken s.customerClaims ++ "\n\n"

end DemoSalon

/-- Seeds the demo salon and reports what was done. -/
def Demo.run (showToken : Api.Claims → String) : Op String := do
  match ← Demo.seed with
  | some s => pure (s.report showToken)
  | none => pure "Demo data already exists. Skipping...\n"

end SalonBooking
