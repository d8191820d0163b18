import SalonBooking.Console.Handles
import SalonBooking.Json

/-!
Printing ids as handles. Every id written out in canonical text inside an answer,
also inside a message, is replaced by the handle that names it; an id no handle
names yet takes the next free handle of its kind.
-/

namespace SalonBooking.Console

/-- Whether `c` is a lowercase hex digit. -/
def isLowerHex (c : Char) : Bool := ('0' ≤ c && c ≤ '9') || ('a' ≤ c && c ≤ 'f')

/-- Whether the 36 characters `w` are a UUID in canonical text. -/
def isCanonical (w : List Char) : Bool :=
  w.length == 36 && w.zipIdx.all fun (c, i) =>
    if i == 8 || i == 13 || i == 18 || i == 23 then c == '-' else isLowerHex c

/-- The UUID that `cs` starts with, in canonical text. -/
def uuidPrefix? (cs : List Char) : Option Uuid :=
  let w := cs.take 36
  if isCanonical w then (Uuid.hexDigits? (w.filter (· != '-'))).map Uuid.mk else none

/-- The handle that names `u`, binding the next free one with letter `kind u` when
none does. -/
def handleOf (kind : Uuid → String) (u : Uuid) : StateM Handles String := do
  match (← get).nameOf? u with
  | some h => pure h
  | none => modifyGet fun hs => hs.bindNext (kind u) u

/-- A text with each id in it replaced by its handle. -/
def relabelChars (kind : Uuid → String) (cs : List Char) : StateM Handles (List Char) :=
  match cs with
  | [] => pure []
  | c :: rest =>
    match uuidPrefix? (c :: rest) with
    | some u => do
      let h ← handleOf kind u
      let tail ← relabelChars kind ((c :: rest).drop 36)
      pure (h.toList ++ tail)
    | none => do
      let tail ← relabelChars kind rest
      pure (c :: tail)
termination_by cs.length
decreasing_by
  all_goals
    simp only [List.length_drop, List.length_cons]
    omega

/-- A document with each id in its texts replaced by its handle. -/
def relabel (kind : Uuid → String) : Json → StateM Handles Json
  | .str s => do return .str (String.ofList (← relabelChars kind s.toList))
  | .arr xs => .arr <$> xs.attach.mapM fun ⟨x, _⟩ => relabel kind x
  | .obj fs => .obj <$> fs.attach.mapM fun ⟨(k, v), h⟩ => do
    have : sizeOf v < 1 + sizeOf fs := by
      have := List.sizeOf_lt_of_mem h
      simp only [Prod.mk.sizeOf_spec] at this
      omega
    return (k, ← relabel kind v)
  | other => pure other

end SalonBooking.Console
