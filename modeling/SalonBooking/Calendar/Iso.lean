import SalonBooking.Calendar.DateTime

/-!
Reading dates, times and clock readings written in the extended ISO 8601 forms:
`YYYY-MM-DD`, `HH:MM`, `HH:MM:SS`, `HH:MM:SS.f` with one or more fraction digits
(the first six count), and a date and a time joined by one separator character,
optionally followed by `Z` or an offset `±HH:MM[:SS[.ffffff]]`.
-/

namespace SalonBooking.Calendar.Iso

/-- The value of a nonempty run of ASCII digits. -/
def digitsValue? (cs : List Char) : Option Nat :=
  if cs.isEmpty || !cs.all Char.isDigit then none
  else some (cs.foldl (fun n c => n * 10 + (c.toNat - '0'.toNat)) 0)

/-- Microseconds of a fraction: its first six digits, padded on the right with zeros;
the digits after the sixth must still be digits. -/
def fractionMicros? (cs : List Char) : Option Nat :=
  if cs.isEmpty || !cs.all Char.isDigit then none
  else
    let six := cs.take 6
    digitsValue? (six ++ List.replicate (6 - six.length) '0')

/-- Hours, minutes, seconds and microseconds of `HH[:MM[:SS[.f]]]`, unchecked. -/
def clockParts? (cs : List Char) : Option (Nat × Nat × Nat × Nat) :=
  match cs with
  | [h1, h2] => do
    let h ← digitsValue? [h1, h2]
    pure (h, 0, 0, 0)
  | [h1, h2, ':', m1, m2] => do
    let h ← digitsValue? [h1, h2]
    let m ← digitsValue? [m1, m2]
    pure (h, m, 0, 0)
  | h1 :: h2 :: ':' :: m1 :: m2 :: ':' :: s1 :: s2 :: rest => do
    let h ← digitsValue? [h1, h2]
    let m ← digitsValue? [m1, m2]
    let s ← digitsValue? [s1, s2]
    match rest with
    | [] => pure (h, m, s, 0)
    | sep :: frac =>
      if sep = '.' ∨ sep = ',' then do
        let us ← fractionMicros? frac
        pure (h, m, s, us)
      else none
  | _ => none

/-- A wall-clock time read from `HH[:MM[:SS[.f]]]`. -/
def timeOfDay? (cs : List Char) : Option TimeOfDay := do
  let (h, m, s, us) ← clockParts? cs
  TimeOfDay.ofParts? h m s us

/-- A date read from `YYYY-MM-DD` or `YYYYMMDD`. -/
def date? (cs : List Char) : Option Date :=
  match cs with
  | [y1, y2, y3, y4, '-', m1, m2, '-', d1, d2] | [y1, y2, y3, y4, m1, m2, d1, d2] => do
    let y ← digitsValue? [y1, y2, y3, y4]
    let m ← digitsValue? [m1, m2]
    let d ← digitsValue? [d1, d2]
    Date.ofYmd? y m d
  | _ => none

/-- An offset east of UTC, in microseconds, read from `Z` or `±HH:MM[:SS[.f]]`;
it must be less than a day either way. -/
def offset? (cs : List Char) : Option Int :=
  match cs with
  | ['Z'] => some 0
  | sign :: rest =>
    if sign = '+' ∨ sign = '-' then do
      let (h, m, s, us) ← clockParts? rest
      if m < 60 ∧ s < 60 then
        let total : Nat := h * microsPerHour + m * microsPerMinute + s * microsPerSecond + us
        if total < microsPerDay then
          pure (if sign = '-' then -(total : Int) else total)
        else none
      else none
    else none
  | [] => none

/-- Splits a time text into the clock part and the offset part, at the first
`Z`, `+` or `-`. -/
def splitOffset (cs : List Char) : List Char × List Char :=
  (cs.takeWhile (fun c => c ≠ 'Z' ∧ c ≠ '+' ∧ c ≠ '-'),
   cs.dropWhile (fun c => c ≠ 'Z' ∧ c ≠ '+' ∧ c ≠ '-'))

/-- A clock reading: a date, one separator character, a time and an optional offset. -/
def stamp? (cs : List Char) : Option Stamp := do
  if cs.length ≤ 10 then
    let d ← date? cs
    pure ⟨⟨d, TimeOfDay.midnight⟩, none⟩
  else
    let d ← date? (cs.take 10)
    let (clock, off) := splitOffset (cs.drop 11)
    let t ← timeOfDay? clock
    if off.isEmpty then pure ⟨⟨d, t⟩, none⟩
    else do
      let o ← offset? off
      pure ⟨⟨d, t⟩, some o⟩

end SalonBooking.Calendar.Iso

namespace SalonBooking.Calendar

def Date.ofIso? (s : String) : Option Date := Iso.date? s.toList

def TimeOfDay.ofIso? (s : String) : Option TimeOfDay := Iso.timeOfDay? s.toList

def Stamp.ofIso? (s : String) : Option Stamp := Iso.stamp? s.toList

end SalonBooking.Calendar
