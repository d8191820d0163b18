import SalonBooking.Calendar.Iso

/-!
Dates, times and date-times in request fields. A date is `YYYY-MM-DD`; a time is
`HH:MM`, optionally `:SS` and a fraction after `.` or `,` (digits past the sixth are
dropped), and optionally a zone (`Z` or a signed `HH[:MM]` offset); a date-time is a date and a
time joined by `T`, `t`, `_` or a space. Each part is read left to right, and the
first part that does not read names the reason.
-/

namespace SalonBooking.Api

open SalonBooking.Calendar

/-- Why a text is not a date, time or date-time. -/
inductive TemporalError where
  | tooShort
  | extraCharacters
  | dateTimeSeparator
  | dateSeparator
  | yearChar
  | monthChar
  | dayChar
  | timeSeparator
  | hourChar
  | minuteChar
  | secondChar
  | fractionMissing
  | zoneSign
  | zoneHour
  | zoneMinute
  | zoneMinuteRange
  | monthRange
  | dayRange
  | hourRange
  | minuteRange
  | secondRange
  | zoneRange
  deriving DecidableEq, Repr

def TemporalError.message : TemporalError → String
  | .tooShort => "input is too short"
  | .extraCharacters => "unexpected extra characters at the end of the input"
  | .dateTimeSeparator => "invalid datetime separator, expected `T`, `t`, `_` or space"
  | .dateSeparator => "invalid date separator, expected `-`"
  | .yearChar => "invalid character in year"
  | .monthChar => "invalid character in month"
  | .dayChar => "invalid character in day"
  | .timeSeparator => "invalid time separator, expected `:`"
  | .hourChar => "invalid character in hour"
  | .minuteChar => "invalid character in minute"
  | .secondChar => "invalid character in second"
  | .fractionMissing => "second fraction digits missing after `.`"
  | .zoneSign => "invalid timezone sign"
  | .zoneHour => "invalid timezone hour"
  | .zoneMinute => "invalid timezone minute"
  | .zoneMinuteRange => "timezone minute value is outside expected range of 0-59"
  | .monthRange => "month value is outside expected range of 1-12"
  | .dayRange => "day value is outside expected range"
  | .hourRange => "hour value is outside expected range of 0-23"
  | .minuteRange => "minute value is outside expected range of 0-59"
  | .secondRange => "second value is outside expected range of 0-59"
  | .zoneRange => "timezone offset must be less than 24 hours"

namespace Temporal

/-- Reading a text from a position. -/
abbrev Scan := Except TemporalError

/-- The digit at position `i`, or the reason `e`. -/
def digit (cs : Array Char) (i : Nat) (e : TemporalError) : Scan Nat :=
  match cs[i]? with
  | some c => if c.isDigit then .ok (c.toNat - '0'.toNat) else .error e
  | none => .error e

/-- The two-digit number at position `i`. -/
def twoDigits (cs : Array Char) (i : Nat) (e : TemporalError) : Scan Nat := do
  pure ((← digit cs i e) * 10 + (← digit cs (i + 1) e))

/-- A date at the start of `cs`, with the position after it. -/
def datePart (cs : Array Char) : Scan (Date × Nat) := do
  if cs.size < 10 then throw .tooShort
  let y := (← twoDigits cs 0 .yearChar) * 100 + (← twoDigits cs 2 .yearChar)
  if cs[4]? != some '-' then throw .dateSeparator
  let m ← twoDigits cs 5 .monthChar
  if cs[7]? != some '-' then throw .dateSeparator
  let d ← twoDigits cs 8 .dayChar
  if m < 1 || m > 12 then throw .monthRange
  match Date.ofYmd? y m d with
  | some date => pure (date, 10)
  | none => throw .dayRange

/-- The number of the digits at positions `i` onwards, with how many there are. -/
def digitsFrom (cs : Array Char) (i : Nat) : Nat → Nat × Nat × Nat
  | 0 => (0, 0, i)
  | fuel + 1 =>
    match cs[i]? with
    | some c =>
      if c.isDigit then
        let (v, n, j) := digitsFrom cs (i + 1) fuel
        (v + (c.toNat - '0'.toNat) * Nat.pow 10 n, n + 1, j)
      else (0, 0, i)
    | none => (0, 0, i)

/-- A zone offset in seconds starting at position `i`, with the position after it. -/
def zonePart (cs : Array Char) (i : Nat) : Scan (Option Int × Nat) := do
  match cs[i]? with
  | none => pure (none, i)
  | some c =>
    if c == 'Z' || c == 'z' then pure (some 0, i + 1)
    else
      let sign : Int ← if c == '+' then pure 1 else if c == '-' then pure (-1) else throw .zoneSign
      let h ← twoDigits cs (i + 1) .zoneHour
      let (m, j) ← match cs[i + 3]? with
        | some ':' => do pure (← twoDigits cs (i + 4) .zoneMinute, i + 6)
        | some c' =>
          if c'.isDigit then do pure (← twoDigits cs (i + 3) .zoneMinute, i + 5) else pure (0, i + 3)
        | none => pure (0, i + 3)
      if m ≥ 60 then throw .zoneMinuteRange
      if h * 60 + m ≥ 24 * 60 then throw .zoneRange
      pure (some (sign * ((h * 60 + m) * 60 : Nat)), j)

/-- A time starting at position `i`, with its zone offset and the position after it. -/
def timePart (cs : Array Char) (i : Nat) : Scan (TimeOfDay × Option Int × Nat) := do
  if cs.size < i + 5 then throw .tooShort
  let h ← twoDigits cs i .hourChar
  if h > 23 then throw .hourRange
  if cs[i + 2]? != some ':' then throw .timeSeparator
  let m ← twoDigits cs (i + 3) .minuteChar
  if m > 59 then throw .minuteRange
  let (s, us, j) ← if cs[i + 5]? == some ':' then do
      let s ← twoDigits cs (i + 6) .secondChar
      if s > 59 then throw .secondRange
      if cs[i + 8]? == some '.' || cs[i + 8]? == some ',' then
        let (v, n, j) := digitsFrom cs (i + 9) (cs.size - (i + 9))
        if n == 0 then throw .fractionMissing
        let us := if n ≤ 6 then v * Nat.pow 10 (6 - n) else v / Nat.pow 10 (n - 6)
        pure (s, us, j)
      else pure (s, 0, i + 8)
    else pure (0, 0, i + 5)
  let (zone, k) ← zonePart cs j
  match TimeOfDay.ofParts? h m s us with
  | some t => pure (t, zone, k)
  | none => throw .hourRange

/-- Reads a date. -/
def date (s : String) : Scan Date := do
  let cs := s.toList.toArray
  let (d, n) ← datePart cs
  if n != cs.size then throw .extraCharacters
  pure d

/-- Reads a time, with its zone offset if it has one. -/
def time (s : String) : Scan (TimeOfDay × Option Int) := do
  let cs := s.toList.toArray
  let (t, z, n) ← timePart cs 0
  if n != cs.size then throw .extraCharacters
  pure (t, z)

/-- Reads a date-time, with its zone offset if it has one. -/
def dateTime (s : String) : Scan (DateTime × Option Int) := do
  let cs := s.toList.toArray
  let (d, n) ← datePart cs
  match cs[n]? with
  | some c =>
    if c == 'T' || c == 't' || c == '_' || c == ' ' then
      let (t, z, k) ← timePart cs (n + 1)
      if k != cs.size then throw .extraCharacters
      pure (⟨d, t⟩, z)
    else throw .dateTimeSeparator
  | none => throw .dateTimeSeparator

end Temporal

end SalonBooking.Api
