import SalonBooking.Uuid

/-!
Handles name the entities of a console session: a handle is capital letters then
digits (`T1`, `P404`, `R2`). Entities created by the session's script get the ids
their handles stand for; a handle that names nothing stands for an id of its own
that no entity has. Ids that appear in answers print as their handles: new
reservations and links take the next free `R` and `L` handle when first printed,
and any other id the next free `X` handle.
-/

namespace SalonBooking.Console

/-- Whether `s` has the form of a handle. -/
def isHandle (s : String) : Bool :=
  let cs := s.toList
  let letters := cs.takeWhile Char.isUpper
  let digits := cs.drop letters.length
  !letters.isEmpty && !digits.isEmpty && digits.all Char.isDigit

/-- The handles of a session. -/
structure Handles where
  /-- Handles bound to ids, in binding order. -/
  bound : List (String × Uuid) := []
  /-- Handles that name nothing, with the ids they stand for. -/
  unbound : List (String × Uuid) := []
  /-- How many ids have been made up for handles. -/
  made : Nat := 0

namespace Handles

/-- Ids made up for handles lie far above the ids the store gives out. -/
def madeBase : Nat := 0x5a1 * Nat.pow 2 100

/-- The id handle `h` stands for, making one up for a new handle. -/
def resolve (hs : Handles) (h : String) : Uuid × Handles :=
  match hs.bound.lookup h with
  | some u => (u, hs)
  | none =>
    match hs.unbound.lookup h with
    | some u => (u, hs)
    | none =>
      let u : Uuid := ⟨madeBase + hs.made⟩
      (u, { hs with unbound := hs.unbound ++ [(h, u)], made := hs.made + 1 })

/-- Binds handle `h` to a new id, for an entity the script creates. -/
def bindNew (hs : Handles) (h : String) : Uuid × Handles :=
  let u : Uuid := ⟨madeBase + hs.made⟩
  (u, { hs with bound := hs.bound ++ [(h, u)], made := hs.made + 1,
                unbound := hs.unbound.filter (·.1 != h) })

/-- The handle that names id `u`, if one does. -/
def nameOf? (hs : Handles) (u : Uuid) : Option String :=
  match hs.bound.find? (·.2 == u) with
  | some (h, _) => some h
  | none => (hs.unbound.find? (·.2 == u)).map (·.1)

/-- Whether handle `h` is taken. -/
def taken (hs : Handles) (h : String) : Bool :=
  (hs.bound.lookup h).isSome

/-- The first handle `prefix n`, from `n = 1`, that is not taken, within `fuel` tries. -/
def freeFrom (hs : Handles) (letter : String) (n : Nat) : Nat → String
  | 0 => letter ++ toString n
  | fuel + 1 =>
    let h := letter ++ toString n
    if hs.taken h then hs.freeFrom letter (n + 1) fuel else h

/-- Binds id `u` to the next free handle starting with `letter`. -/
def bindNext (hs : Handles) (letter : String) (u : Uuid) : String × Handles :=
  let h := hs.freeFrom letter 1 (hs.bound.length + 1)
  (h, { hs with bound := hs.bound ++ [(h, u)] })

end Handles

end SalonBooking.Console
