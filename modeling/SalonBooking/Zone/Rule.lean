import SalonBooking.Zone.Basic

/-!
Reading the rule text that follows the listed changes of a zone, in the POSIX
form `std offset [dst [offset] , start [/time] , end [/time]]`. Offsets count
hours west of UTC, so `JST-9` is nine hours east. Without an explicit summer offset,
summer time is one hour ahead of standard time; without a time, a change happens at
02:00 local time.
-/

namespace SalonBooking.Zone.RuleText

/-- A run of ASCII digits at the front, at most `max` of them, with its value. -/
def number (max : Nat) (cs : List Char) : Option (Nat × List Char) :=
  let ds := (cs.takeWhile Char.isDigit).take max
  if ds.isEmpty then none
  else some (ds.foldl (fun n c => n * 10 + (c.toNat - '0'.toNat)) 0, cs.drop ds.length)

/-- `h[:mm[:ss]]` with one to three hour digits, as seconds. -/
def clock (cs : List Char) : Option (Nat × List Char) := do
  let (h, rest) ← number 3 cs
  match rest with
  | ':' :: rest => do
    let (m, rest) ← number 2 rest
    match rest with
    | ':' :: rest => do
      let (s, rest) ← number 2 rest
      pure (h * 3600 + m * 60 + s, rest)
    | _ => pure (h * 3600 + m * 60, rest)
  | _ => pure (h * 3600, rest)

/-- An optional sign and a clock value, as signed seconds. -/
def signedClock (cs : List Char) : Option (Int × List Char) :=
  match cs with
  | '-' :: rest => (clock rest).map fun (v, r) => (-(v : Int), r)
  | '+' :: rest => (clock rest).map fun (v, r) => ((v : Int), r)
  | _ => (clock cs).map fun (v, r) => ((v : Int), r)

/-- A zone abbreviation, `<...>` or a run of letters; returns what follows it. -/
def skipAbbreviation (cs : List Char) : Option (List Char) :=
  match cs with
  | '<' :: rest =>
    match rest.dropWhile (· ≠ '>') with
    | '>' :: after => some after
    | _ => none
  | _ =>
    let letters := cs.takeWhile Char.isAlpha
    if letters.isEmpty then none else some (cs.drop letters.length)

/-- The day part of a yearly change: `Mm.w.d`, `Jn` or `n`. -/
def dayRule (cs : List Char) : Option (DayRule × List Char) :=
  match cs with
  | 'M' :: rest => do
    let (m, rest) ← number 2 rest
    match rest with
    | '.' :: rest => do
      let (w, rest) ← number 1 rest
      match rest with
      | '.' :: rest => do
        let (d, rest) ← number 1 rest
        pure (.monthWeek m w d, rest)
      | _ => none
    | _ => none
  | 'J' :: rest => (number 3 rest).map fun (n, r) => (.julian n, r)
  | _ => (number 3 cs).map fun (n, r) => (.zeroBased n, r)

/-- A yearly change: a day and an optional `/time`, 02:00 by default. -/
def boundary (cs : List Char) : Option (Boundary × List Char) := do
  let (day, rest) ← dayRule cs
  match rest with
  | '/' :: rest => do
    let (t, rest) ← signedClock rest
    pure (⟨day, t⟩, rest)
  | _ => pure (⟨day, 7200⟩, rest)

/-- A rule read from its whole text. -/
def rule? (cs : List Char) : Option Rule := do
  let rest ← skipAbbreviation cs
  let (stdWest, rest) ← signedClock rest
  let std : LocalType := ⟨-stdWest, false⟩
  if rest.isEmpty then pure (.fixed std)
  else
    let rest ← skipAbbreviation rest
    let (dst, rest) ← match rest with
      | ',' :: _ => pure (⟨std.offset + 3600, true⟩, rest)
      | _ => (signedClock rest).map fun (w, r) => (⟨-w, true⟩, r)
    match rest with
    | ',' :: rest => do
      let (s, rest) ← boundary rest
      match rest with
      | ',' :: rest => do
        let (e, rest) ← boundary rest
        if rest.isEmpty then pure (.seasonal std dst s e) else none
      | _ => none
    | _ => none

end SalonBooking.Zone.RuleText

namespace SalonBooking.Zone

/-- The rule written as `text`, if it is well formed. -/
def Rule.ofText? (text : String) : Option Rule := RuleText.rule? text.toList

end SalonBooking.Zone
