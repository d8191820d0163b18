import SalonBooking.Database
import SalonBooking.Line
import SalonBooking.Link.Token

/-!
Issuing, revoking, listing and resolving booking links. A link's scope is its
tenant, practitioner and store, where no store is a scope of its own. Issuing with
`reissue` revokes the scope's active links, so the new one is the only active one;
without it, an active link in the scope refuses the issue unless several are
allowed. A token resolves while its link is active and unexpired and the tenant,
practitioner and store behind it are open for booking; every other token is
reported as not found, in the same words.
-/

namespace SalonBooking

open SalonBooking.Calendar

namespace Link

/-- What a resolved token leads to. -/
structure Resolution where
  tenant : Uuid
  tenantKey : String
  store : Option Uuid
  practitioner : Uuid
  lineMode : Line.Mode
  lineSource : Line.Source

/-- The tenant statuses open for booking. -/
def bookableStatuses : List String := ["active", "trial"]

/-- How many candidate tokens an issue tries before it gives up. -/
def tokenAttempts : Nat := 10

/-- Where the random bytes of new tokens come from: for the link with id `id`, the bytes
drawn at attempt `attempt`, `tokenBytes` of them each time. -/
structure ByteSource where
  draw : Uuid → Nat → List UInt8
  length_draw : ∀ id attempt, (draw id attempt).length = tokenBytes

/-- The bytes the console draws for attempt `attempt` at the link with id `id`: a fixed
mix of the two, standing in for the system's random source. -/
def tokenEntropy (id : Uuid) (attempt : Nat) : List UInt8 :=
  let seed := (id.value + attempt * Nat.pow 2 64) * 0x9e3779b97f4a7c15 + 0x5bd1e995
  (List.range tokenBytes).map fun i => UInt8.ofNat (seed / Nat.pow 256 i)

theorem tokenEntropy_length (id : Uuid) (attempt : Nat) :
    (tokenEntropy id attempt).length = tokenBytes := by
  simp [tokenEntropy]

/-- The byte source of the console. -/
def mixedSource : ByteSource := ⟨tokenEntropy, tokenEntropy_length⟩

/-- The candidate token of attempt `attempt` for the link with id `id`: the URL-safe text
of the bytes `src` draws for it. -/
def tokenFor (id : Uuid) (attempt : Nat) (src : ByteSource) : String :=
  urlsafeText (src.draw id attempt)

/-- The first candidate token for the link with id `id` that no stored link holds. -/
def uniqueToken (id : Uuid) (src : ByteSource) : Op String := do
  let db ← get
  match (List.range tokenAttempts).find? (fun k => !db.links.any (·.token == tokenFor id k src)) with
  | some k => pure (tokenFor id k src)
  | none => throw .tokensExhausted

/-- The tenant's links, newest first, only those with status `status` when one is
given. -/
def listOf (db : Database) (ctx : Context) (status : Option String) : List BookingLink :=
  let ls := db.links.filter fun l =>
    l.tenant == ctx.tenant && match status with
      | some s => s.isEmpty || l.status == s
      | none => true
  ls.reverse

/-- The refusal for a practitioner that is missing or inactive. -/
def missingPractitioner (id : Uuid) : Fault := .refused (.notFound .practitioner (some id))

/-- Revokes a link that `p` holds of. -/
def revokeIf (p : BookingLink → Bool) (l : BookingLink) : BookingLink :=
  if p l then { l with status := "revoked" } else l

/-- Refuses an expiry that is not a wall-clock instant after now. -/
def checkExpiry (expiresAt : Option Stamp) : Op Unit := do
  if let some e := expiresAt then
    let now ← Database.now
    if e.offset.isSome then throw .offsetMismatch
    if e.wall ≤ now then throw (.invalid (.expiryNotInFuture e.wall))

/-- The practitioner a link is issued for: active, and working at the link's store
when it names an open one. -/
def issuer (ctx : Context) (practitioner : Uuid) (store : Option Uuid) : Op Practitioner := do
  let db ← get
  let some p := db.practitioner? ctx.tenant practitioner | throw (missingPractitioner practitioner)
  if !p.isActive then throw (missingPractitioner practitioner)
  if let some sid := store then
    match db.store? ctx.tenant sid with
    | some s => if !s.isOpen then throw (.refused (.notFound .store (some sid)))
    | none => throw (.refused (.notFound .store (some sid)))
    if !(← worksAt p.storeIds sid) then
      throw (.refused (.conflict (.linkStoreNotAssigned practitioner sid)))
  pure p

/-- Adds a new active link for the scope, its token made of bytes drawn from `src`. -/
def addLink (ctx : Context) (practitioner : Uuid) (createdBy : String) (store : Option Uuid)
    (expiresAt : Option Stamp) (src : ByteSource) : Op BookingLink := do
  let id ← Database.freshId
  let now ← Database.now
  let token ← uniqueToken id src
  let link : BookingLink := ⟨id, ctx.tenant, store, practitioner, token, "active",
    createdBy, now, none, expiresAt.map (·.wall)⟩
  modify fun db => { db with links := db.links ++ [link] }
  pure link

/-- Issues a link for a practitioner, optionally for one store, drawing its token's bytes
from `src`. -/
def issue (ctx : Context) (practitioner : Uuid) (createdBy : String) (store : Option Uuid)
    (expiresAt : Option Stamp) (reissue allowMultiple : Bool) (src : ByteSource) :
    Op BookingLink := do
  checkExpiry expiresAt
  -- the revoking update and the insert commit together, or neither does
  Database.transaction do
    let _ ← issuer ctx practitioner store
    let db ← get
    let live (l : BookingLink) : Bool := l.inScope ctx.tenant practitioner store && l.isActive
    if reissue then
      modify fun db => { db with links := db.links.map (revokeIf live) }
    else if !allowMultiple && db.links.any live then
      throw (.refused (.conflict (.activeLinkExists practitioner)))
    addLink ctx practitioner createdBy store expiresAt src

/-- Revokes one of the tenant's links. -/
def revoke (ctx : Context) (id : Uuid) : Op BookingLink := do
  let some l := (← get).links.find? (fun l => l.tenant == ctx.tenant && l.id == id)
    | throw (.refused (.notFound .bookingLink (some id)))
  let l := { l with status := "revoked" }
  modify (·.putLink l)
  pure l

/-- The refusal for a token that leads nowhere. -/
def unusable : Fault := .refused (.notFound .bookingLink none)

/-- The link a presented token leads to, and what it resolves to. -/
def resolution (presented : String) : Op (BookingLink × Resolution) := do
  let token := strip presented
  if !wellFormed token then throw unusable
  let now ← Database.now
  let db ← get
  let some l := db.links.find? (fun l =>
      l.token == token && l.isActive && l.expiresAt.all (now < ·)) | throw unusable
  let some t := db.tenant? l.tenant | throw unusable
  if !(t.status.any bookableStatuses.contains) then throw unusable
  let some p := db.practitioner? t.id l.practitioner | throw unusable
  if !p.isActive then throw unusable
  let store ← match l.store with
    | some sid =>
      match db.store? t.id sid with
      | some s => if s.isOpen then pure (some s) else throw unusable
      | none => throw unusable
    | none => pure none
  let line ← Line.resolve t.lineConfig (store.map fun s => (s.id, s.lineConfig))
    (some (p.id, p.lineConfig))
  pure (l, ⟨t.id, t.slug, store.map (·.id), p.id, line.mode, line.source⟩)

/-- Resolves a presented token, and records that its link was used. -/
def resolve (presented : String) : Op Resolution := do
  let (l, found) ← resolution presented
  let used ← Database.now
  modify (·.putLink { l with lastUsedAt := some used })
  pure found

end Link

end SalonBooking
