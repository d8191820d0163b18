import SalonBooking.Proofs.Consistency

/-!
The lifecycle of a reservation. A reservation is created pending or confirmed, and
from then on its status changes only by an allowed transition out of a live status.
What one call may do to the status stored under one id is a `StatusMove` of the
call's effect: updates, reschedules, reminders and the booking links keep it. Along
any run of calls the statuses stored under one id therefore form a `StatusHistory`,
each entry reached from the one before by a move of the call between them
(`Reachable.status_history`).

A reservation that is completed, canceled or a no-show keeps every field from then
on, except that its reminder may still be marked sent (`Reachable.terminal_kept`).
The calls that would change it refuse with a terminal-state error and leave the
database as it was, once the checks they make before reading the row pass: an update
of the items checks for a menu first, a status change reads its target first, and
the customer's flows look the reservation up among the customer's own.
-/

namespace SalonBooking

open SalonBooking.Calendar Op Database Reservations Booking

namespace Database

/-- The reservation stored under id `x`, the first one if several are. -/
def row (db : Database) (x : Uuid) : Option Reservation := db.reservations.find? (·.id == x)

/-- The status stored under id `x`. -/
def statusOf (db : Database) (x : Uuid) : Option Status := (db.row x).map (·.status)

theorem row_id {db : Database} {x : Uuid} {y : Reservation} (h : db.row x = some y) :
    y.id = x := by
  simpa using List.find?_some h

theorem row_of_rows {db db' : Database} (h : db'.reservations = db.reservations) (x : Uuid) :
    db'.row x = db.row x := by
  rw [row, row, h]

/-- A row added at the end is found only under an id that no earlier row has. -/
theorem row_append {db db' : Database} {r : Reservation}
    (h : db'.reservations = db.reservations ++ [r]) (x : Uuid) :
    db'.row x = (db.row x).or (if r.id = x then some r else none) := by
  rw [row, row, h, List.find?_append]
  by_cases hx : r.id = x <;> simp [hx]

/-- Putting `r'` back changes only what is found under its own id. -/
theorem row_putReservation (db : Database) (r' : Reservation) (x : Uuid) :
    (db.putReservation r').row x = (db.row x).map fun y => if y.id == r'.id then r' else y := by
  unfold row putReservation
  rw [List.find?_map]
  congr 2
  funext y
  by_cases hy : y.id = r'.id <;> simp [hy]

end Database

namespace Reservations

private theorem find?_id_of_mem {rows : List Reservation} {r : Reservation}
    (hids : (rows.map (·.id)).Nodup) (hr : r ∈ rows) : rows.find? (·.id == r.id) = some r := by
  induction rows with
  | nil => cases hr
  | cons y ys ih =>
    rw [List.map_cons, List.nodup_cons] at hids
    rcases List.mem_cons.mp hr with rfl | hr
    · simp
    · have hne : y.id ≠ r.id := fun heq => hids.1 (heq ▸ List.mem_map_of_mem hr)
      simp [hne, ih hids.2 hr]

section Rows

variable {db db' : Database}

/-- In a consistent database a stored reservation is what its id finds. -/
theorem Consistent.row_of_mem (h : Consistent db) {r : Reservation} (hr : r ∈ db.reservations) :
    db.row r.id = some r :=
  find?_id_of_mem h.ids hr

theorem Consistent.eq_of_id_eq (h : Consistent db) {a b : Reservation} (ha : a ∈ db.reservations)
    (hb : b ∈ db.reservations) (hid : a.id = b.id) : a = b := by
  have hfound := h.row_of_mem ha
  rw [hid, h.row_of_mem hb] at hfound
  exact (Option.some.inj hfound).symm

/-- After `r'` is put back in place of `r`, the id of `r` finds `r'` and every other id
finds what it found before. -/
theorem Consistent.row_put (h : Consistent db) {r r' : Reservation} (hr : r ∈ db.reservations)
    (hrows : db'.reservations = (db.putReservation r').reservations) (hid : r'.id = r.id)
    (x : Uuid) : db'.row x = if x = r.id then some r' else db.row x := by
  rw [row_of_rows hrows, row_putReservation]
  split
  · next hx =>
    subst hx
    rw [h.row_of_mem hr]
    simp [hid]
  · next hx =>
    cases hfound : db.row x with
    | none => rfl
    | some y =>
      -- what `x` finds has id `x`, not the id put back
      have hy : y.id ≠ r'.id := by
        rw [row_id hfound, hid]
        exact hx
      simp [hy]

theorem Consistent.statusOf_put (h : Consistent db) {r r' : Reservation}
    (hr : r ∈ db.reservations) (hrows : db'.reservations = (db.putReservation r').reservations)
    (hid : r'.id = r.id) (x : Uuid) :
    db'.statusOf x = if x = r.id then some r'.status else db.statusOf x := by
  rw [statusOf, h.row_put hr hrows hid x]
  split <;> rfl

end Rows

/-! ## What a call does to a status -/

/-- What one call with effect `e` may do to the status stored under one id: keep it,
store a new reservation in an initial status, or move a live status along an allowed
transition. -/
inductive StatusMove : Effect → Option Status → Option Status → Prop
  | stay (e : Effect) (s : Option Status) : StatusMove e s s
  | start (t : Status) (initial : t.isInitial = true) : StatusMove .adds none (some t)
  | step (s t : Status) (live : s.isTerminal = false) (allowed : s.allows t = true) :
      StatusMove .moves (some s) (some t)

section Moves

variable {db db' : Database} {e : Effect}

/-- Putting `r'` in place of `r` moves the status under each id as `r`'s status may
move to `r'`'s. -/
theorem Consistent.statusMove_put (h : Consistent db) {r r' : Reservation}
    (hr : r ∈ db.reservations) (hrows : db'.reservations = (db.putReservation r').reservations)
    (hid : r'.id = r.id) (hmove : StatusMove e (some r.status) (some r'.status)) (x : Uuid) :
    StatusMove e (db.statusOf x) (db'.statusOf x) := by
  rw [h.statusOf_put hr hrows hid x]
  split
  · next hx =>
    rw [hx, statusOf, h.row_of_mem hr]
    exact hmove
  · exact .stay e _

/-- Every change a call may make moves the status under each id as its effect allows. -/
theorem Consistent.statusMove (h : Consistent db) (hc : RowChange db db' e) (x : Uuid) :
    StatusMove e (db.statusOf x) (db'.statusOf x) := by
  cases hc with
  | keep e rows =>
    rw [statusOf, statusOf, row_of_rows rows]
    exact .stay e _
  | insert ctx d r hi rows given =>
    -- an id stored before finds what it found; only the new id finds the new row
    rw [statusOf, statusOf, row_append rows]
    cases db.row x with
    | some y => exact .stay _ _
    | none =>
      by_cases hid : r.id = x
      · simpa [hid] using StatusMove.start r.status hi.initial
      · simpa [hid] using StatusMove.stay .adds none
  | rewrite d r r' hw rows =>
    refine h.statusMove_put hw.mem rows hw.id ?_ x
    rw [hw.status]
    exact .stay _ _
  | move r t reason stamp mem live allowed rows =>
    refine h.statusMove_put mem rows (Reservation.moveTo_id r t reason stamp) ?_ x
    rw [Reservation.moveTo_status]
    exact .step _ _ live allowed
  | remind r stamp mem rows => exact h.statusMove_put mem rows rfl (.stay _ _) x

/-- Every change a call may make keeps a terminal reservation as it is, except that
a reminder may mark it sent. -/
theorem Consistent.terminal_kept (h : Consistent db) (hc : RowChange db db' e)
    {r : Reservation} (hr : r ∈ db.reservations) (hterm : r.status.isTerminal = true) :
    db'.row r.id = some r ∨
      (e = .reminds ∧
        ∃ stamp,
          db'.row r.id = some { r with reminderSentAt := some stamp, updatedAt := stamp }) := by
  have hfound := h.row_of_mem hr
  -- a live row put back is another row than `r`
  have hother : ∀ {r₀ r₀' : Reservation}, r₀ ∈ db.reservations → r₀.status.isTerminal = false →
      db'.reservations = (db.putReservation r₀').reservations → r₀'.id = r₀.id →
      db'.row r.id = some r := by
    intro r₀ r₀' hr₀ hlive hrows hid
    have hne : r.id ≠ r₀.id := by
      intro heq
      rw [h.eq_of_id_eq hr hr₀ heq, hlive] at hterm
      cases hterm
    rw [h.row_put hr₀ hrows hid, if_neg hne, hfound]
  cases hc with
  | keep e rows => exact .inl (by rw [row_of_rows rows, hfound])
  | insert ctx d n hi rows given =>
    left
    rw [row_append rows, hfound]
    rfl
  | rewrite d r₀ r₀' hw rows => exact .inl (hother hw.mem hw.live rows hw.id)
  | move r₀ t reason stamp mem live allowed rows =>
    exact .inl (hother mem live rows (Reservation.moveTo_id r₀ t reason stamp))
  | remind r₀ stamp mem rows =>
    rw [h.row_put mem rows rfl]
    by_cases hid : r.id = r₀.id
    · obtain rfl := h.eq_of_id_eq hr mem hid
      exact .inr ⟨rfl, stamp, if_pos rfl⟩
    · exact .inl (by rw [if_neg hid, hfound])

end Moves

end Reservations

/-! ## Runs of calls -/

/-- A history of the status stored under one id, oldest first, made by calls with the
effects `es` in order: each entry follows from the one before by a move of the call
between them. -/
inductive StatusHistory : List Effect → List (Option Status) → Prop
  | start (s : Option Status) : StatusHistory [] [s]
  | move {e : Effect} {es : List Effect} {s s' : Option Status} {rest : List (Option Status)}
      (h : StatusMove e s s') (tail : StatusHistory es (s' :: rest)) :
      StatusHistory (e :: es) (s :: s' :: rest)

/-- The databases a run of calls passes through from `db`: `db`, then what each call
leaves. -/
def Call.trace (db : Database) : List Call → List Database
  | [] => [db]
  | c :: cs => db :: Call.trace (c.after db) cs

namespace Reachable

variable {db : Database}

theorem statusMove (h : Reachable db) (c : Call) (x : Uuid) :
    StatusMove c.effect (db.statusOf x) ((c.after db).statusOf x) :=
  h.consistent.statusMove (c.after_stepped db).2 x

/-- Along any run from a reachable database, the statuses stored under one id form a
history whose moves are those of the calls of the run, in order. -/
theorem status_history (h : Reachable db) (x : Uuid) (cs : List Call) :
    StatusHistory (cs.map Call.effect) ((Call.trace db cs).map (·.statusOf x)) := by
  induction cs generalizing db with
  | nil => exact .start _
  | cons c cs ih =>
    -- the rest of the run starts from the database the first call leaves
    have hrest := ih (.step c h)
    cases cs with
    | nil => exact .move (h.statusMove c x) (.start _)
    | cons c' cs' => exact .move (h.statusMove c x) hrest

theorem terminal_kept (h : Reachable db) (c : Call) {r : Reservation}
    (hr : r ∈ db.reservations) (hterm : r.status.isTerminal = true) :
    (c.after db).row r.id = some r ∨
      (c.effect = .reminds ∧ ∃ stamp,
        (c.after db).row r.id = some { r with reminderSentAt := some stamp, updatedAt := stamp }) :=
  h.consistent.terminal_kept (c.after_stepped db).2 hr hterm

end Reachable

/-! ## Refusals -/

namespace Op

/-- Every answer of `x`, from any database, satisfies `P`. -/
def Returns {α : Type} (x : Op α) (P : α → Prop) : Prop :=
  ∀ db, wp x (fun a _ => P a) (fun _ _ => True) db

variable {α β : Type} {P : α → Prop} {Q : β → Prop}

theorem returns_any (x : Op α) : Returns x fun _ => True := by
  intro db
  unfold wp
  split <;> trivial

theorem returns_pure {a : α} (h : P a) : Returns (pure a) P := fun _ => h

theorem Returns.bind {x : Op α} {f : α → Op β} (hx : Returns x P)
    (hf : ∀ a, P a → Returns (f a) Q) : Returns (x >>= f) Q := by
  intro db
  rw [wp_bind]
  exact wp_mono (hx db) (fun a db' ha => hf a ha db') (fun _ _ h => h)

end Op

namespace Reservations

section Refusals

variable {ctx : Context} {db : Database}

/-- A draft with a menu whose status is unknown, or not one a reservation starts in,
is refused as invalid. -/
theorem checkDraft_refuses_status {d : Draft} (zone : String) (hmenus : hasMenus d.items = true)
    (hstatus : ∀ s, parseStatus d.status = .ok s → s.isInitial = false) :
    ∃ v, checkDraft d zone = .error (.invalid v) := by
  cases hitems : d.items with
  | none =>
    rw [hitems] at hmenus
    cases hmenus
  | some items =>
    have hne : items.menus.isEmpty = false := by simpa [hasMenus, hitems] using hmenus
    cases hname : Status.ofName? d.status with
    | none =>
      -- a text that names no status
      refine ⟨.unknownStatus d.status, ?_⟩
      simp only [checkDraft, parseStatus, hitems, hne, hname, Bool.false_eq_true, ↓reduceIte, bind,
        Except.bind]
    | some s =>
      -- a status that a reservation does not start in
      have hparse : parseStatus d.status = .ok s := by simp [parseStatus, hname]
      refine ⟨.cannotCreateAs s, ?_⟩
      simp only [checkDraft, hitems, hne, hparse, bind, Except.bind, hstatus s hparse,
        Bool.not_false, Bool.false_eq_true, ↓reduceIte]
      rfl

/-- Creating a reservation with a menu in a status it may not start in is refused as
invalid before anything is read or written. -/
theorem insertOrReplay_refuses_status (ctx : Context) {d : Draft} (timezone : Option String)
    (hmenus : hasMenus d.items = true)
    (hstatus : ∀ s, parseStatus d.status = .ok s → s.isInitial = false) :
    ∃ v, (insertOrReplay ctx d timezone).run db = .error (.invalid v) db := by
  obtain ⟨v, hv⟩ := checkDraft_refuses_status ((nonEmpty timezone).getD defaultZone) hmenus hstatus
  refine ⟨v, run_eq_error ?_⟩
  simp only [insertOrReplay, wp_bind, wp_lift, hv, and_self]

/-- An update that replaces the items but names no menu is refused before the
reservation is read, whatever its status. -/
theorem replace_refuses_missing_menus (id : Uuid) {d : Draft} (timezone : Option String)
    (hmenus : hasMenus d.items = false) :
    (replace ctx id d timezone true).run db = .error (.invalid .menuRequired) db := by
  apply run_eq_error
  simp only [replace, hmenus, Bool.not_false, Bool.and_self, ↓reduceIte, wp_bind, wp_throw,
    and_self]

variable {id : Uuid} {r : Reservation}

theorem replace_refuses_terminal (d : Draft) (timezone : Option String) {replaceItems : Bool}
    (hitems : replaceItems = true → hasMenus d.items = true)
    (hfetch : db.reservation? ctx.tenant id = some r) (hterm : r.status.isTerminal = true) :
    (replace ctx id d timezone replaceItems).run db =
      .error (.refused (.terminal r.status none)) db := by
  -- the menu check passes, so the row is read and found terminal
  have hguard : (replaceItems && !hasMenus d.items) = false := by
    cases replaceItems with
    | false => rfl
    | true => simp [hitems rfl]
  apply run_eq_error
  simp only [replace, hguard, Bool.false_eq_true, ↓reduceIte, wp_transaction, wp_bind, wp_fetch,
    hfetch, hterm, wp_throw, and_self]

theorem updateStatus_refuses_terminal {target : String} {t : Status} (reason : Option String)
    (hparse : parseStatus target = .ok t) (hfetch : db.reservation? ctx.tenant id = some r)
    (hterm : r.status.isTerminal = true) :
    (updateStatus ctx id target reason).run db =
      .error (.refused (.terminal r.status (some t))) db := by
  apply run_eq_error
  simp only [updateStatus, wp_bind, wp_lift, hparse, wp_transaction, wp_fetch, hfetch, hterm,
    ↓reduceIte, wp_throw, and_self]

end Refusals

end Reservations

namespace Booking

theorem returns_menuLines (ctx : Context) {ids : List Uuid} (includeInactive : Bool)
    (h : ids ≠ []) : Returns (menuLines ctx ids includeInactive) (· ≠ []) := by
  obtain ⟨id, rest, rfl⟩ := List.exists_cons_of_ne_nil h
  unfold menuLines
  refine (returns_any get).bind fun db _ => ?_
  rw [List.zipIdx_cons, List.mapM_cons]
  exact (returns_any _).bind fun _ _ => (returns_any _).bind fun _ _ =>
    returns_pure (List.cons_ne_nil _ _)

theorem returns_resolveSelection (ctx : Context) {menus : List Uuid} (options : List Uuid)
    (includeInactive : Bool) (h : menus ≠ []) :
    Returns (resolveSelection ctx menus options includeInactive) (·.menus ≠ []) :=
  (returns_menuLines ctx includeInactive h).bind fun _ hms =>
    (returns_any _).bind fun _ _ => returns_pure hms

/-- A customer is found under the id asked for. -/
theorem returns_loadCustomer (ctx : Context) (id : Option Uuid) :
    Returns (loadCustomer ctx id) fun c => id = some c.id := by
  intro db
  cases id with
  | none => trivial
  | some id =>
    simp only [loadCustomer, wp_bind, wp_get]
    split
    · next c hc =>
      have hsat := List.find?_some hc
      simp only [Bool.and_eq_true, beq_iff_eq] at hsat
      exact congrArg some hsat.2.symm
    · trivial

/-- What the draft of a booking request keeps of the request: its status, customer,
source and key; and it has a menu. -/
structure Drafts (req : BookingRequest) (d : Draft) : Prop where
  status : d.status = req.status
  menus : hasMenus d.items = true
  customer : d.customer = req.customer
  source : d.source = req.source
  key : d.idempotencyKey = req.idempotencyKey

theorem returns_bookingDraft (ctx : Context) (req : BookingRequest) (enforcePolicy : Bool)
    (includeInactive : Bool) (now : Option Stamp) :
    Returns (bookingDraft ctx req enforcePolicy includeInactive now) fun res => Drafts req res.2.2 := by
  unfold bookingDraft
  split
  · dsimp only
    split
    · exact fun _ => trivial
    · next hempty =>
      have hmenus : req.menuIds ≠ [] := by simpa using hempty
      refine (returns_any _).bind fun ⟨store, policy⟩ _ => ?_
      dsimp only
      split
      -- with the policy enforced, the clock is read and the booking window checked first
      all_goals try refine (returns_any (instant now)).bind fun _ _ =>
        (returns_any _).bind fun _ _ => ?_
      all_goals
        exact (returns_any _).bind fun _ _ => (returns_loadCustomer ctx _).bind fun _ hc =>
          (returns_resolveSelection ctx _ includeInactive hmenus).bind fun items hitems =>
          (returns_any _).bind fun _ _ =>
            returns_pure ⟨rfl, by simpa [hasMenus] using hitems, hc.symm, rfl, rfl⟩
  · exact fun _ => trivial

section Refusals

variable {ctx : Context} {db : Database} {id : Uuid} {r : Reservation}

/-- A booking that asks for a status a reservation may not start in never returns: it
fails where its draft fails, and otherwise with a validation error once the draft is
built, leaving what the draft read. -/
theorem book_refuses_status (ctx : Context) (req : BookingRequest) (actor : Actor)
    (enforcePolicy includeInactive : Bool) (now : Option Stamp) (db : Database)
    (hstatus : ∀ s, parseStatus req.status = .ok s → s.isInitial = false) :
    ∃ v, (book ctx req actor enforcePolicy includeInactive now).run db =
      match (bookingDraft ctx req enforcePolicy includeInactive now).run db with
      | .ok _ db₁ => .error (.invalid v) db₁
      | .error e db₁ => .error e db₁ := by
  cases hdraft : (bookingDraft ctx req enforcePolicy includeInactive now).run db with
  | error e db₁ =>
    refine ⟨.menuRequired, run_eq_error ?_⟩
    simp only [book, wp_bind, wp_of_run_error hdraft, and_self]
  | ok res db₁ =>
    obtain ⟨store, policy, draft⟩ := res
    -- the draft keeps the request's status and has a menu
    obtain ⟨hst, hmenus, -, -, -⟩ : Drafts req draft := by
      have hres := returns_bookingDraft ctx req enforcePolicy includeInactive now db
      rwa [wp_of_run_ok hdraft] at hres
    obtain ⟨v, hv⟩ : ∃ v, (insertOrReplay { ctx with store := some store.id } draft
        (some policy.timezone)).run db₁ = .error (.invalid v) db₁ :=
      insertOrReplay_refuses_status _ _ hmenus (hst ▸ hstatus)
    refine ⟨v, run_eq_error ?_⟩
    simp only [book, wp_bind, wp_of_run_ok hdraft, wp_of_run_error hv, and_self]

theorem changeStatus_refuses_terminal {status : String} {t : Status} (actor : Actor)
    (reason : Option String) (hparse : parseStatus status = .ok t)
    (hfetch : db.reservation? ctx.tenant id = some r) (hterm : r.status.isTerminal = true) :
    (changeStatus ctx id status actor reason).run db =
      .error (.refused (.terminal r.status (some t))) db := by
  apply run_eq_error
  simp only [changeStatus, wp_bind, wp_fetch, hfetch,
    wp_of_run_error (updateStatus_refuses_terminal reason hparse hfetch hterm), and_self]

theorem reschedule_refuses_terminal (req : BookingRequest) (actor : Actor) (enforcePolicy : Bool)
    {customer : Option Uuid} (includeInactive : Bool) (now : Option Stamp)
    (howned : ownedBy r customer = .ok ()) (hfetch : db.reservation? ctx.tenant id = some r)
    (hterm : r.status.isTerminal = true) :
    (reschedule ctx id req actor enforcePolicy customer includeInactive now).run db =
      .error (.refused (.terminal r.status none)) db := by
  apply run_eq_error
  simp only [reschedule, reschedulingDraft, wp_bind, wp_fetch, hfetch, wp_lift, howned, hterm,
    ↓reduceIte, wp_throw, and_self]

/-- A cancellation of a terminal reservation is refused: by the flow when it enforces
the policy, by the store otherwise, with the same error. -/
theorem cancel_refuses_terminal (actor : Actor) (reason : Option String) (enforcePolicy : Bool)
    {customer : Option Uuid} (now : Option Stamp) (howned : ownedBy r customer = .ok ())
    (hfetch : db.reservation? ctx.tenant id = some r) (hterm : r.status.isTerminal = true) :
    (cancel ctx id actor reason enforcePolicy customer now).run db =
      .error (.refused (.terminal r.status (some .canceled))) db := by
  apply run_eq_error
  cases enforcePolicy with
  | true =>
    simp only [cancel, cancellation, wp_bind, wp_fetch, hfetch, wp_lift, howned, hterm,
      ↓reduceIte, wp_throw, and_self]
  | false =>
    have hparse : parseStatus "canceled" = .ok .canceled := rfl
    simp only [cancel, cancellation, wp_bind, wp_fetch, hfetch, wp_lift, howned,
      Bool.false_eq_true, ↓reduceIte, wp_pure,
      wp_of_run_error (updateStatus_refuses_terminal reason hparse hfetch hterm), and_self]

end Refusals

end Booking

/-! ## The lifecycle -/

/-- The lifecycle of a reservation, over every run of calls. From an empty table the
status stored under an id starts absent and its history is made of `StatusMove`s, one
per call, as the call's effect allows: a reservation starts pending or confirmed, and
after that only takes allowed steps out of a live status. A terminal reservation keeps
every field, bar a reminder. Creating or booking one in another status is refused as
invalid. The writes that would change a terminal reservation refuse with a
terminal-state error and leave the database as it was, once the checks they make
before reading it pass. In every reachable database the cancellation fields agree with
the status. -/
theorem reservation_lifecycle :
    (∀ (db : Database), db.reservations = [] → ∀ (cs : List Call) (x : Uuid),
      db.statusOf x = none ∧
        StatusHistory (cs.map Call.effect) ((Call.trace db cs).map (·.statusOf x))) ∧
    (∀ (db : Database), Reachable db → ∀ (c : Call) (x : Uuid),
      StatusMove c.effect (db.statusOf x) ((c.after db).statusOf x)) ∧
    (∀ (db : Database), Reachable db → ∀ (c : Call) (r : Reservation), r ∈ db.reservations →
      r.status.isTerminal = true →
      (c.after db).row r.id = some r ∨
        (c.effect = .reminds ∧ ∃ stamp, (c.after db).row r.id =
          some { r with reminderSentAt := some stamp, updatedAt := stamp })) ∧
    (∀ (db : Database) (ctx : Context) (d : Draft) (timezone : Option String),
      hasMenus d.items = true → (∀ s, parseStatus d.status = .ok s → s.isInitial = false) →
      ∃ v, (insertOrReplay ctx d timezone).run db = .error (.invalid v) db) ∧
    (∀ (db : Database) (ctx : Context) (req : BookingRequest) (actor : Actor)
        (enforcePolicy includeInactive : Bool) (now : Option Stamp),
      (∀ s, parseStatus req.status = .ok s → s.isInitial = false) →
      ∃ v, (book ctx req actor enforcePolicy includeInactive now).run db =
        match (bookingDraft ctx req enforcePolicy includeInactive now).run db with
        | .ok _ db₁ => .error (.invalid v) db₁
        | .error e db₁ => .error e db₁) ∧
    (∀ (db : Database) (ctx : Context) (id : Uuid) (r : Reservation),
      db.reservation? ctx.tenant id = some r → r.status.isTerminal = true →
      (∀ (d : Draft) (timezone : Option String) (replaceItems : Bool),
        (replaceItems = true → hasMenus d.items = true) →
        (replace ctx id d timezone replaceItems).run db =
          .error (.refused (.terminal r.status none)) db) ∧
      (∀ (target : String) (t : Status) (reason : Option String), parseStatus target = .ok t →
        (updateStatus ctx id target reason).run db =
          .error (.refused (.terminal r.status (some t))) db) ∧
      (∀ (status : String) (t : Status) (actor : Actor) (reason : Option String),
        parseStatus status = .ok t →
        (changeStatus ctx id status actor reason).run db =
          .error (.refused (.terminal r.status (some t))) db) ∧
      (∀ (req : BookingRequest) (actor : Actor) (enforcePolicy : Bool) (customer : Option Uuid)
          (includeInactive : Bool) (now : Option Stamp), ownedBy r customer = .ok () →
        (reschedule ctx id req actor enforcePolicy customer includeInactive now).run db =
          .error (.refused (.terminal r.status none)) db) ∧
      (∀ (actor : Actor) (reason : Option String) (enforcePolicy : Bool) (customer : Option Uuid)
          (now : Option Stamp), ownedBy r customer = .ok () →
        (cancel ctx id actor reason enforcePolicy customer now).run db =
          .error (.refused (.terminal r.status (some .canceled))) db)) ∧
    (∀ (db : Database), Reachable db → ∀ r ∈ db.reservations, r.Coupled) := by
  refine ⟨?_, ?_, ?_, ?_, ?_, ?_, ?_⟩
  · intro db hempty cs x
    have hnone : db.statusOf x = none := by
      rw [statusOf, row, hempty]
      rfl
    exact ⟨hnone, (Reachable.init db hempty).status_history x cs⟩
  · intro db h c x
    exact h.statusMove c x
  · intro db h c r hr hterm
    exact h.terminal_kept c hr hterm
  · intro db ctx d timezone hmenus hstatus
    exact insertOrReplay_refuses_status ctx timezone hmenus hstatus
  · intro db ctx req actor enforcePolicy includeInactive now hstatus
    exact book_refuses_status ctx req actor enforcePolicy includeInactive now db hstatus
  · intro db ctx id r hfetch hterm
    refine ⟨?_, ?_, ?_, ?_, ?_⟩
    · intro d timezone replaceItems hitems
      exact replace_refuses_terminal d timezone hitems hfetch hterm
    · intro target t reason hparse
      exact updateStatus_refuses_terminal reason hparse hfetch hterm
    · intro status t actor reason hparse
      exact changeStatus_refuses_terminal actor reason hparse hfetch hterm
    · intro req actor enforcePolicy customer includeInactive now howned
      exact reschedule_refuses_terminal req actor enforcePolicy includeInactive now howned hfetch
        hterm
    · intro actor reason enforcePolicy customer now howned
      exact cancel_refuses_terminal actor reason enforcePolicy now howned hfetch hterm
  · intro db h r hr
    exact h.consistent.coupled r hr

private def lifecycleDay : Date := ⟨epochDayNumber + 20001, by decide, by decide⟩
private def lifecycleTwo : TimeOfDay := ⟨50400000000, by decide⟩
private def lifecycleThree : TimeOfDay := ⟨54000000000, by decide⟩
private def lifecycleCtx : Context := ⟨⟨1⟩, none⟩
private def lifecycleCut : Selection := ⟨[⟨⟨2⟩, "Cut", 5000, 60, 0, true⟩], []⟩
private def lifecycleDraft : Draft :=
  { practitioner := ⟨3⟩, customer := some ⟨4⟩, date := lifecycleDay, start := lifecycleTwo,
    stop := lifecycleThree, items := some lifecycleCut }
private def lifecycleStaff : Actor := { kind := "admin" }
private def emptyTable : Database := { clock := ⟨⟨lifecycleDay, lifecycleTwo⟩, 0⟩ }

/-- Reservation 1 booked at two in the afternoon on an empty table, then canceled. -/
private def bookThenCancel : List Call :=
  [.create lifecycleCtx lifecycleDraft (some "UTC"),
    .setStatus lifecycleCtx ⟨1⟩ "canceled" (some "no longer needed")]

/-- An update of reservation 1 with its menus replaced. -/
private def itemUpdate : Call := .update lifecycleCtx ⟨1⟩ lifecycleDraft none true

/-- A booking that asks for a reservation already completed. -/
private def completedRequest : BookingRequest :=
  { date := lifecycleDay, start := lifecycleTwo, status := "completed" }

private def canceledTable : Database :=
  (Call.setStatus lifecycleCtx ⟨1⟩ "canceled" (some "no longer needed")).after
    ((Call.create lifecycleCtx lifecycleDraft (some "UTC")).after emptyTable)

/-- The canceled reservation: stored at the first clock reading, canceled at the
second. -/
private def canceledRow : Reservation :=
  { newRow lifecycleCtx lifecycleDraft lifecycleCut .pending "UTC" ⟨lifecycleDay, lifecycleTwo⟩
      ⟨lifecycleDay, lifecycleThree⟩ ⟨1⟩ with
    subtotal := 5000, totalPrice := 5000, duration := 60, source := some "line",
    status := .canceled, canceledAt := some ⟨lifecycleDay, ⟨50400000002, by decide⟩⟩,
    cancelReason := some "no longer needed", createdAt := ⟨lifecycleDay, ⟨50400000001, by decide⟩⟩,
    updatedAt := ⟨lifecycleDay, ⟨50400000002, by decide⟩⟩ }

private theorem canceledTable_reachable : Reachable canceledTable :=
  .step _ (.step _ (.init _ rfl))

set_option maxRecDepth 10000 in
private theorem canceledTable_rows : canceledTable.reservations = [canceledRow] := rfl

private theorem completed_not_initial :
    ∀ s, parseStatus "completed" = .ok s → s.isInitial = false := by
  intro s h
  have hs : s = .completed := (Except.ok.inj (h.symm.trans rfl))
  subst hs
  rfl

set_option maxRecDepth 10000 in
/-- Reservation 1, booked and canceled: its statuses along the run, an update with
menus that keeps it as it is, a second reservation asked for as completed, and every
change to the canceled one refused. -/
theorem booked_then_canceled_lifecycle :
    (emptyTable.statusOf ⟨1⟩ = none ∧
      StatusHistory (bookThenCancel.map Call.effect)
        ((Call.trace emptyTable bookThenCancel).map (·.statusOf ⟨1⟩))) ∧
    (Reachable canceledTable ∧
      StatusMove itemUpdate.effect (canceledTable.statusOf ⟨1⟩)
        ((itemUpdate.after canceledTable).statusOf ⟨1⟩)) ∧
    (canceledRow ∈ canceledTable.reservations ∧ canceledRow.status.isTerminal = true ∧
      ((itemUpdate.after canceledTable).row ⟨1⟩ = some canceledRow ∨
        (itemUpdate.effect = .reminds ∧ ∃ stamp, (itemUpdate.after canceledTable).row ⟨1⟩ =
          some { canceledRow with reminderSentAt := some stamp, updatedAt := stamp }))) ∧
    (∃ v, (insertOrReplay lifecycleCtx { lifecycleDraft with status := "completed" }
        (some "UTC")).run emptyTable = .error (.invalid v) emptyTable) ∧
    (∃ v, (book lifecycleCtx completedRequest lifecycleStaff false false none).run emptyTable =
      match (bookingDraft lifecycleCtx completedRequest false false none).run emptyTable with
      | .ok _ db₁ => .error (.invalid v) db₁
      | .error e db₁ => .error e db₁) ∧
    (canceledTable.reservation? ⟨1⟩ ⟨1⟩ = some canceledRow ∧
      (replace lifecycleCtx ⟨1⟩ lifecycleDraft none true).run canceledTable =
        .error (.refused (.terminal .canceled none)) canceledTable ∧
      (updateStatus lifecycleCtx ⟨1⟩ "confirmed" none).run canceledTable =
        .error (.refused (.terminal .canceled (some .confirmed))) canceledTable ∧
      (changeStatus lifecycleCtx ⟨1⟩ "confirmed" lifecycleStaff none).run canceledTable =
        .error (.refused (.terminal .canceled (some .confirmed))) canceledTable ∧
      (reschedule lifecycleCtx ⟨1⟩ { date := lifecycleDay, start := lifecycleThree } lifecycleStaff
          true none false none).run canceledTable =
        .error (.refused (.terminal .canceled none)) canceledTable ∧
      (cancel lifecycleCtx ⟨1⟩ lifecycleStaff none false none none).run canceledTable =
        .error (.refused (.terminal .canceled (some .canceled))) canceledTable) ∧
    (∀ r ∈ canceledTable.reservations, r.Coupled) := by
  obtain ⟨hrun, hmove, hkept, hcreate, hbook, hrefuse, hcoupled⟩ := reservation_lifecycle
  have hmem : canceledRow ∈ canceledTable.reservations := by
    rw [canceledTable_rows]
    exact List.mem_singleton_self _
  have hfetch : canceledTable.reservation? ⟨1⟩ ⟨1⟩ = some canceledRow := by
    rw [reservation?, canceledTable_rows]
    rfl
  obtain ⟨hreplace, hupdate, hchange, hreschedule, hcancel⟩ :=
    hrefuse canceledTable lifecycleCtx ⟨1⟩ canceledRow hfetch rfl
  refine ⟨hrun emptyTable rfl bookThenCancel ⟨1⟩,
    ⟨canceledTable_reachable, hmove canceledTable canceledTable_reachable _ ⟨1⟩⟩,
    ⟨hmem, rfl, hkept canceledTable canceledTable_reachable _ canceledRow hmem rfl⟩,
    hcreate emptyTable lifecycleCtx _ (some "UTC") rfl completed_not_initial,
    hbook emptyTable lifecycleCtx _ lifecycleStaff false false none completed_not_initial,
    ⟨hfetch, hreplace lifecycleDraft none true (fun _ => rfl),
      hupdate "confirmed" .confirmed none rfl,
      hchange "confirmed" .confirmed lifecycleStaff none rfl,
      hreschedule _ lifecycleStaff true none false none rfl,
      hcancel lifecycleStaff none false none none rfl⟩,
    hcoupled canceledTable canceledTable_reachable⟩

set_option maxRecDepth 10000 in
/-- The canceled reservation 1, updated with its items replaced but no menu named, is
refused as invalid rather than as a change to a terminal reservation: the menu check
comes before the reservation is read. -/
theorem canceled_reservation_itemless_update_invalid :
    Reachable canceledTable ∧ canceledTable.statusOf ⟨1⟩ = some .canceled ∧
      (replace lifecycleCtx ⟨1⟩ { lifecycleDraft with items := none } none true).run canceledTable =
        .error (.invalid .menuRequired) canceledTable := by
  refine ⟨canceledTable_reachable, ?_, replace_refuses_missing_menus ⟨1⟩ none rfl⟩
  rw [statusOf, row, canceledTable_rows]
  rfl

end SalonBooking
