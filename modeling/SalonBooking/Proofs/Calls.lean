import SalonBooking.Proofs.Flows

/-!
The calls of the service that write, and the states they reach. A call is a store
write, a booking flow or a change to the booking links; `Reachable` holds of the
databases a run of calls leaves, from any database whose reservation table is empty.

Every call ends as its one write allows (`run_stepped`): returning, it leaves the
reservations changed as one `RowChange`; failing, it leaves every stored row as it
was. The ids it took and the clock readings it made are not stored.
-/

namespace SalonBooking

open SalonBooking.Calendar Op Database Reservations

/-- A call of the service that may write. -/
inductive Call where
  /-- A new reservation, or the replay of an earlier one with its idempotency key. -/
  | create (ctx : Context) (d : Draft) (timezone : Option String)
  /-- An update of a reservation, with or without its menus and options. -/
  | update (ctx : Context) (id : Uuid) (d : Draft) (timezone : Option String)
      (replaceItems : Bool)
  /-- A status change, as confirming, completing, canceling or marking a no-show make. -/
  | setStatus (ctx : Context) (id : Uuid) (target : String) (reason : Option String)
  | remind (ctx : Context) (id : Uuid)
  | book (ctx : Context) (req : BookingRequest) (actor : Actor) (enforcePolicy : Bool)
      (includeInactive : Bool) (now : Option Stamp)
  | reschedule (ctx : Context) (id : Uuid) (req : BookingRequest) (actor : Actor)
      (enforcePolicy : Bool) (customer : Option Uuid) (includeInactive : Bool)
      (now : Option Stamp)
  | changeStatus (ctx : Context) (id : Uuid) (status : String) (actor : Actor)
      (reason : Option String)
  | cancel (ctx : Context) (id : Uuid) (actor : Actor) (reason : Option String)
      (enforcePolicy : Bool) (customer : Option Uuid) (now : Option Stamp)
  /-- An issue of a booking link, its token's bytes drawn from `src`. -/
  | issueLink (ctx : Context) (practitioner : Uuid) (createdBy : String) (store : Option Uuid)
      (expiresAt : Option Stamp) (reissue allowMultiple : Bool) (src : Link.ByteSource)
  | revokeLink (ctx : Context) (id : Uuid)

namespace Call

/-- The operation a call runs; its answer is dropped. -/
def run : Call → Op Unit
  | create ctx d timezone => insertOrReplay ctx d timezone >>= fun _ => pure ()
  | update ctx id d timezone replaceItems =>
    replace ctx id d timezone replaceItems >>= fun _ => pure ()
  | setStatus ctx id target reason => updateStatus ctx id target reason >>= fun _ => pure ()
  | remind ctx id => markReminderSent ctx id >>= fun _ => pure ()
  | book ctx req actor enforcePolicy includeInactive now =>
    Booking.book ctx req actor enforcePolicy includeInactive now >>= fun _ => pure ()
  | reschedule ctx id req actor enforcePolicy customer includeInactive now =>
    Booking.reschedule ctx id req actor enforcePolicy customer includeInactive now >>=
      fun _ => pure ()
  | changeStatus ctx id status actor reason =>
    Booking.changeStatus ctx id status actor reason >>= fun _ => pure ()
  | cancel ctx id actor reason enforcePolicy customer now =>
    Booking.cancel ctx id actor reason enforcePolicy customer now >>= fun _ => pure ()
  | issueLink ctx practitioner createdBy store expiresAt reissue allowMultiple src =>
    Link.issue ctx practitioner createdBy store expiresAt reissue allowMultiple src >>=
      fun _ => pure ()
  | revokeLink ctx id => Link.revoke ctx id >>= fun _ => pure ()

/-- What a call may do to the reservations. -/
def effect : Call → Effect
  | create .. | book .. => .adds
  | update .. | reschedule .. => .rewrites
  | setStatus .. | changeStatus .. | cancel .. => .moves
  | remind .. => .reminds
  | issueLink .. | revokeLink .. => .keeps

/-- One call: returning, it changes the reservations as its one write does; failing,
it leaves the rows it started from. -/
theorem run_stepped (c : Call) (db : Database) :
    wp c.run (fun _ => Stepped c.effect db) (fun _ => SameRows db) db := by
  cases c with
  | create ctx d timezone =>
    simpa only [run, effect, wp_bind_unit] using insertOrReplay_stepped ctx db d timezone
  | update ctx id d timezone replaceItems =>
    simpa only [run, effect, wp_bind_unit] using replace_stepped ctx db id d timezone replaceItems
  | setStatus ctx id target reason =>
    simpa only [run, effect, wp_bind_unit] using updateStatus_stepped ctx db id target reason
  | remind ctx id =>
    simpa only [run, effect, wp_bind_unit] using markReminderSent_stepped ctx db id
  | book ctx req actor enforcePolicy includeInactive now =>
    simpa only [run, effect, wp_bind_unit] using
      Booking.book_stepped ctx actor db req enforcePolicy includeInactive now
  | reschedule ctx id req actor enforcePolicy customer includeInactive now =>
    simpa only [run, effect, wp_bind_unit] using
      Booking.reschedule_stepped ctx actor db id req enforcePolicy customer includeInactive now
  | changeStatus ctx id status actor reason =>
    simpa only [run, effect, wp_bind_unit] using
      Booking.changeStatus_stepped ctx actor db id status reason
  | cancel ctx id actor reason enforcePolicy customer now =>
    simpa only [run, effect, wp_bind_unit] using
      Booking.cancel_stepped ctx actor db id reason enforcePolicy customer now
  | issueLink ctx practitioner createdBy store expiresAt reissue allowMultiple src =>
    simpa only [run, effect, wp_bind_unit] using
      Link.issue_stepped ctx practitioner createdBy store expiresAt reissue allowMultiple src db
  | revokeLink ctx id =>
    simpa only [run, effect, wp_bind_unit] using Link.revoke_stepped ctx id db

/-- The database a call leaves, whether it returned or failed. -/
def after (c : Call) (db : Database) : Database := leaves c.run db

theorem after_stepped (c : Call) (db : Database) : Stepped c.effect db (c.after db) :=
  leaves_of_wp (wp_mono (run_stepped c db) (fun _ _ h => h) fun _ _ h => Stepped.of_sameRows h)

end Call

/-- The databases a run of calls leaves, from one whose reservation table is empty. -/
inductive Reachable : Database → Prop
  | init (db : Database) (empty : db.reservations = []) : Reachable db
  | step (c : Call) {db : Database} (h : Reachable db) : Reachable (c.after db)

/-- A call that fails leaves every stored row as it was: the catalog, the reservations
with their menus and options, the booking links and the audit trail. -/
theorem failed_call_keeps_rows (c : Call) {db db' : Database} {e : Fault}
    (h : c.run.run db = .error e db') : SameRows db db' := by
  have hc := c.run_stepped db
  unfold wp at hc
  rw [h] at hc
  exact hc

/-- A source that draws twenty-four zero bytes at every attempt. -/
private def zeroSource : Link.ByteSource :=
  ⟨fun _ _ => List.replicate Link.tokenBytes 0, fun _ _ => List.length_replicate⟩

/-- The midnight the held link was written at, and the clock's base. -/
private def heldStamp : DateTime := ⟨⟨epochDayNumber + 20950, by decide, by decide⟩, .midnight⟩

/-- A table with one active link of a practitioner, its token the text of twenty-four zero
bytes, the one token `zeroSource` can make. -/
private def heldTable : Database :=
  { practitioners := [⟨⟨2⟩, ⟨1⟩, "Mio", true, none, .arr [], .null⟩],
    links := [⟨⟨3⟩, ⟨1⟩, none, ⟨2⟩, "AAAAAAAAAAAAAAAAAAAAAAAAAAAAAAAA", "active", "owner",
      heldStamp, none, none⟩],
    issued := 3, clock := ⟨heldStamp, 0⟩ }

/-- A reissue into a scope with an active link revokes that link, takes an id, reads the
clock and then finds every candidate token held: it fails, and the revoked link is active
again. -/
theorem exhausted_reissue_keeps_rows :
    (∃ l ∈ heldTable.links, l.inScope ⟨1⟩ ⟨2⟩ none = true ∧ l.isActive = true) ∧
      (Call.issueLink ⟨⟨1⟩, none⟩ ⟨2⟩ "owner" none none true false zeroSource).run.run heldTable =
        .error .tokensExhausted { heldTable with issued := 4, clock := ⟨heldTable.clock.base, 1⟩ } ∧
      SameRows heldTable { heldTable with issued := 4, clock := ⟨heldTable.clock.base, 1⟩ } := by
  have hrun : (Call.issueLink ⟨⟨1⟩, none⟩ ⟨2⟩ "owner" none none true false zeroSource).run.run
      heldTable =
        .error .tokensExhausted { heldTable with issued := 4, clock := ⟨heldTable.clock.base, 1⟩ } :=
    rfl
  exact ⟨⟨_, List.mem_singleton_self _, rfl, rfl⟩, hrun, failed_call_keeps_rows _ hrun⟩

end SalonBooking
