import SalonBooking.Json
import SalonBooking.Calendar.Iso

/-!
Reading the fields of a command document. A field that is absent or `null` is
*not given*; a given field of the wrong kind, or a date or time that does not read,
makes the whole command unreadable, with a reason.
-/

namespace SalonBooking.Console

open SalonBooking.Calendar

/-- A reading that can fail with a reason. -/
abbrev Read := Except String

/-- The field `k`, if given and not `null`. -/
def given? (j : Json) (k : String) : Option Json :=
  match j.field? k with
  | some .null => none
  | other => other

/-- Whether field `k` is present at all, even as `null`. -/
def present (j : Json) (k : String) : Bool := (j.field? k).isSome

def need (j : Json) (k : String) : Read Json :=
  match given? j k with
  | some v => .ok v
  | none => .error ("missing field " ++ k)

def asText (v : Json) : Read String :=
  match v with
  | .str s => .ok s
  | _ => .error "expected a string"

def asInt (v : Json) : Read Int :=
  match v with
  | .int n => .ok n
  | _ => .error "expected an integer"

def asBool (v : Json) : Read Bool :=
  match v with
  | .bool b => .ok b
  | _ => .error "expected a boolean"

def asList (v : Json) : Read (List Json) :=
  match v with
  | .arr xs => .ok xs
  | _ => .error "expected a list"

def text (j : Json) (k : String) : Read String := do asText (← need j k)
def int (j : Json) (k : String) : Read Int := do asInt (← need j k)

def textOpt (j : Json) (k : String) : Read (Option String) :=
  match given? j k with
  | some v => some <$> asText v
  | none => .ok none

def intOpt (j : Json) (k : String) : Read (Option Int) :=
  match given? j k with
  | some v => some <$> asInt v
  | none => .ok none

def boolOpt (j : Json) (k : String) : Read (Option Bool) :=
  match given? j k with
  | some v => some <$> asBool v
  | none => .ok none

def listOpt (j : Json) (k : String) : Read (Option (List Json)) :=
  match given? j k with
  | some v => some <$> asList v
  | none => .ok none

def readDate (s : String) : Read Date :=
  match Date.ofIso? s with
  | some d => .ok d
  | none => .error ("bad date " ++ s)

def readTime (s : String) : Read TimeOfDay :=
  match TimeOfDay.ofIso? s with
  | some t => .ok t
  | none => .error ("bad time " ++ s)

def readStamp (s : String) : Read Stamp :=
  match Stamp.ofIso? s with
  | some t => .ok t
  | none => .error ("bad datetime " ++ s)

def date (j : Json) (k : String) : Read Date := do readDate (← text j k)
def time (j : Json) (k : String) : Read TimeOfDay := do readTime (← text j k)
def stamp (j : Json) (k : String) : Read Stamp := do readStamp (← text j k)

def dateOpt (j : Json) (k : String) : Read (Option Date) := do
  match ← textOpt j k with
  | some s => some <$> readDate s
  | none => pure none

def stampOpt (j : Json) (k : String) : Read (Option Stamp) := do
  match ← textOpt j k with
  | some s => some <$> readStamp s
  | none => pure none

end SalonBooking.Console
