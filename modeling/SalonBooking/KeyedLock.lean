/-!
Locks by key, made on demand and dropped once no task holds or awaits them. Writers
of one practitioner's reservations, or issuers of one booking-link scope, take the
lock of their key, so that their checks and the write they guard run alone.

A task that holds the lock of a key goes through atomic steps, and other tasks may
take theirs in between: it enters (taking the key's lock, made if the key has none,
and counting itself as a user of the key), acquires the lock, releases it, and exits
(counting itself out; the last user drops the key's lock and count). A task waiting
to acquire may be cancelled, and then exits without ever having held the lock. Tasks
are known by number, and a step that its task is in no position to take changes
nothing, so every list of steps is a run.
-/

namespace SalonBooking.KeyedLock

/-- Where a task that entered stands. -/
inductive Stage where
  | waiting
  | inside
  | leaving
  deriving DecidableEq, Repr

/-- A task between entering and exiting: its key, the lock it took on entering, and its
stage. Locks are known by the order they were made in. -/
structure Holder (κ : Type) where
  key : κ
  lock : Nat
  stage : Stage

/-- The locks of a set of keys, their users, and the tasks using them. -/
structure Table (κ : Type) where
  /-- The lock of each key that has one. -/
  locks : κ → Option Nat
  /-- The count of users of each key that has one. -/
  users : κ → Option Int
  /-- How many locks were made so far. -/
  made : Nat
  /-- Whether a lock is held. -/
  held : Nat → Bool
  /-- The tasks between entering and exiting, by number. -/
  tasks : List (Nat × Holder κ)

/-- One atomic step of one task. -/
inductive Event (κ : Type) where
  | enter (task : Nat) (key : κ)
  | acquire (task : Nat)
  | cancel (task : Nat)
  | release (task : Nat)
  | exit (task : Nat)

namespace Table

variable {κ : Type} [DecidableEq κ]

/-- No locks, no users and no tasks. -/
def empty : Table κ := ⟨fun _ => none, fun _ => none, 0, fun _ => false, []⟩

/-- The task numbered `t`, if it entered and has not exited. -/
def task? (s : Table κ) (t : Nat) : Option (Holder κ) := (s.tasks.lookup t)

/-- The tasks with task `t` moved to stage `g`. -/
def moveTo (s : Table κ) (t : Nat) (g : Stage) : List (Nat × Holder κ) :=
  s.tasks.map fun (u, h) => if u = t then (u, { h with stage := g }) else (u, h)

/-- Task `t` enters for key `k`: it takes the key's lock, made now if the key has none,
and counts itself as one more user of the key. -/
def enter (s : Table κ) (t : Nat) (k : κ) : Table κ :=
  match s.task? t with
  | some _ => s
  | none =>
    let (lock, locks, made) : Nat × (κ → Option Nat) × Nat := match s.locks k with
      | some l => (l, s.locks, s.made)
      | none => (s.made, fun u => if u = k then some s.made else s.locks u, s.made + 1)
    { s with
      locks := locks
      made := made
      users := fun u => if u = k then some ((s.users k).getD 0 + 1) else s.users u
      tasks := s.tasks ++ [(t, ⟨k, lock, .waiting⟩)] }

/-- Task `t`, waiting, acquires its lock when no task holds it. -/
def acquire (s : Table κ) (t : Nat) : Table κ :=
  match s.task? t with
  | some h =>
    if h.stage = .waiting ∧ s.held h.lock = false then
      { s with held := fun l => l == h.lock || s.held l, tasks := s.moveTo t .inside }
    else s
  | none => s

/-- Task `t`, waiting, is cancelled and leaves without the lock. -/
def cancel (s : Table κ) (t : Nat) : Table κ :=
  match s.task? t with
  | some h => if h.stage = .waiting then { s with tasks := s.moveTo t .leaving } else s
  | none => s

/-- Task `t`, inside, releases its lock. -/
def release (s : Table κ) (t : Nat) : Table κ :=
  match s.task? t with
  | some h =>
    if h.stage = .inside then
      { s with held := fun l => l != h.lock && s.held l, tasks := s.moveTo t .leaving }
    else s
  | none => s

/-- Task `t`, leaving, exits: it counts itself out of its key's users, and when none
is left the key's lock and count are dropped. -/
def exit (s : Table κ) (t : Nat) : Table κ :=
  match s.task? t with
  | some h =>
    if h.stage = .leaving then
      let s := { s with tasks := s.tasks.filter (·.1 != t) }
      match s.users h.key with
      | some n =>
        if n - 1 = 0 then
          { s with
            users := fun u => if u = h.key then none else s.users u
            locks := fun u => if u = h.key then none else s.locks u }
        else { s with users := fun u => if u = h.key then some (n - 1) else s.users u }
      | none => s
    else s
  | none => s

/-- One step of one task. -/
def step (s : Table κ) : Event κ → Table κ
  | .enter t k => s.enter t k
  | .acquire t => s.acquire t
  | .cancel t => s.cancel t
  | .release t => s.release t
  | .exit t => s.exit t

/-- The table after the steps `events`, in order. -/
def run (s : Table κ) (events : List (Event κ)) : Table κ := events.foldl step s

/-- The numbers of the tasks of key `k`, from entering to exiting. -/
def usersOf (s : Table κ) (k : κ) : List Nat :=
  (s.tasks.filter fun (_, h) => h.key = k).map (·.1)

/-- The numbers of the tasks inside the section guarded by the lock of key `k`. -/
def insideOf (s : Table κ) (k : κ) : List Nat :=
  (s.tasks.filter fun (_, h) => h.key = k ∧ h.stage = .inside).map (·.1)

end Table

end SalonBooking.KeyedLock
