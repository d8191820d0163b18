import SalonBooking.Api.Field
import SalonBooking.Database

/-!
Who may call what. A caller is known by the token it presents; roles are ranked
customer, staff, manager, owner, super admin, and an endpoint open to a role is open
to every role above it. A caller acts for the tenant its token names, except a super
admin, who acts for any tenant and for no store in particular.

Checking a request runs its requirements in a fixed order. A refused credential or
role stops the request at once, with 401 or 403; a path or query field that does not
read is recorded, the requirements that need it are skipped, and the request goes on
so that every such field is reported together, with 422.
-/

namespace SalonBooking.Api

/-- The roles a token can carry, lowest first. -/
inductive Role where
  | customer
  | staff
  | manager
  | owner
  | superAdmin
  deriving DecidableEq, Repr

namespace Role

def ofName? : String → Option Role
  | "customer" => some .customer
  | "staff" => some .staff
  | "manager" => some .manager
  | "owner" => some .owner
  | "super_admin" => some .superAdmin
  | _ => none

/-- The rank of a role. -/
def level : Role → Nat
  | .customer => 0
  | .staff => 1
  | .manager => 2
  | .owner => 3
  | .superAdmin => 4

/-- Whether a caller with role `r` may do what role `required` may. -/
def covers (r required : Role) : Bool := required.level ≤ r.level

end Role

/-- A caller whose token was accepted. -/
structure Caller where
  sub : String
  role : Role
  tenant : Option Uuid
  store : Option Uuid
  name : Option String

/-- The caller a credential proves, if it proves one: an unexpired token whose role is
known and whose tenant and store, when given, are ids. -/
def Credential.caller? : Credential → Option Caller
  | .token c false => do
    let role ← Role.ofName? c.role
    let tenant ← match c.tenant with
      | some t => some <$> (Uuid.parse t).toOption
      | none => pure none
    let store ← match c.store with
      | some s => some <$> (Uuid.parse s).toOption
      | none => pure none
    pure ⟨c.sub, role, tenant, store, c.name⟩
  | _ => none

namespace Caller

def isCustomer (c : Caller) : Bool := c.role == .customer

/-- Whether the caller may act for tenant `t`. -/
def mayActFor (c : Caller) (t : Uuid) : Bool := c.role == .superAdmin || c.tenant == some t

/-- The context the caller acts in for tenant `t`: its token's store, unless it is a
super admin. -/
def contextFor (c : Caller) (t : Uuid) : Context :=
  ⟨t, if c.role == .superAdmin then none else c.store⟩

/-- The caller as the audit trail names it. -/
def actor (c : Caller) (req : Request) : Actor :=
  { kind := if c.isCustomer then "customer" else "admin", id := some c.sub, name := c.name,
    ipAddress := some req.clientHost, userAgent := req.header? "user-agent" }

end Caller

/-- The refusal of a credential. -/
def unauthenticated : Response := .detail 401 "Could not validate credentials"

/-- The refusal of a role or tenant. -/
def forbidden (why : String) : Response := .detail 403 why

/-- Checking a request's requirements: fields that failed so far, or the response that
stopped it. -/
abbrev Admission := StateT (List FieldError) (Except Response)

namespace Admission

/-- Runs a field check, keeping its failures. -/
def check {α : Type} (c : Checking α) : Admission α := fun errs => .ok (c.run errs)

/-- Stops the request with `r`. -/
def refuse {α : Type} (r : Response) : Admission α := fun _ => .error r

/-- The caller behind the request's credential. -/
def caller (req : Request) : Admission Caller :=
  match req.credential.caller? with
  | some c => pure c
  | none => refuse unauthenticated

/-- The tenant named in the path. -/
def tenantParam (tenant : String) : Admission (Option Uuid) :=
  check (Failure.at (Field.uuid (.str tenant)) [.key "path", .key "tenant_id"] (.str tenant))

/-- A caller allowed to act for the tenant in the path; none when that tenant does not
read. -/
def tenantAccess (req : Request) (tenant : String) : Admission (Option Caller) := do
  let c ← caller req
  match ← tenantParam tenant with
  | none => pure none
  | some t => if c.mayActFor t then pure (some c) else refuse (forbidden "Access denied to this tenant")

/-- The context a request acts in. -/
def context (req : Request) (tenant : String) : Admission (Option Context) := do
  let c ← tenantAccess req tenant
  let t ← tenantParam tenant
  pure (match c, t with
    | some c, some t => some (c.contextFor t)
    | _, _ => none)

/-- A caller holding at least role `r`. -/
def atLeast (req : Request) (r : Role) : Admission Caller := do
  let c ← caller req
  if c.role.covers r then pure c else refuse (forbidden "Insufficient permissions")

/-- A customer of the tenant in the path, whose subject is its customer id. -/
def customer (req : Request) (tenant : String) : Admission (Option (Caller × Uuid)) := do
  match ← tenantAccess req tenant with
  | none => pure none
  | some c =>
    if !c.isCustomer then refuse (forbidden "Customer token required")
    else match Uuid.ofLenient? c.sub with
      | some id => pure (some (c, id))
      | none => refuse unauthenticated

end Admission

end SalonBooking.Api
