/-!
Calendar dates of the proleptic Gregorian calendar from 0001-01-01 to 9999-12-31,
held as their day number: 0001-01-01 is day 1. Comparing and shifting dates is then
arithmetic on day numbers, and year, month and day are computed when a date is
printed or read.
-/

namespace SalonBooking.Calendar

/-- Leap years are those divisible by 4, except centuries not divisible by 400. -/
def isLeapYear (y : Nat) : Bool :=
  y % 4 == 0 && (y % 100 != 0 || y % 400 == 0)

def daysInMonth (y m : Nat) : Nat :=
  match m with
  | 2 => if isLeapYear y then 29 else 28
  | 4 | 6 | 9 | 11 => 30
  | _ => 31

/-- Days of the years before year `y`, counting from year 1. -/
def daysBeforeYear (y : Nat) : Nat :=
  let p := y - 1
  p * 365 + p / 4 - p / 100 + p / 400

/-- Days of the months of year `y` before month `m`. -/
def daysBeforeMonth (y m : Nat) : Nat :=
  [0, 31, 59, 90, 120, 151, 181, 212, 243, 273, 304, 334].getD (m - 1) 0 +
    (if m > 2 && isLeapYear y then 1 else 0)

/-- Day number of year `y`, month `m`, day `d`; 0001-01-01 is day 1. -/
def dayNumberOf (y m d : Nat) : Nat :=
  daysBeforeYear y + daysBeforeMonth y m + d

/-- Day number of 9999-12-31, the last date of the calendar. -/
def lastDayNumber : Nat := 3652059

/-- Day number of 1970-01-01, where epoch seconds count from. -/
def epochDayNumber : Nat := 719163

/-- A date, as its day number within the calendar's range. -/
structure Date where
  dayNumber : Nat
  one_le : 1 ≤ dayNumber
  le_last : dayNumber ≤ lastDayNumber

instance : DecidableEq Date := fun a b =>
  if h : a.dayNumber = b.dayNumber then
    isTrue (by cases a; cases b; simp_all)
  else isFalse (fun e => h (e ▸ rfl))

instance : LT Date := ⟨fun a b => a.dayNumber < b.dayNumber⟩
instance : LE Date := ⟨fun a b => a.dayNumber ≤ b.dayNumber⟩
instance (a b : Date) : Decidable (a < b) := inferInstanceAs (Decidable (a.dayNumber < b.dayNumber))
instance (a b : Date) : Decidable (a ≤ b) := inferInstanceAs (Decidable (a.dayNumber ≤ b.dayNumber))

namespace Date

/-- The date with day number `n`, if `n` lies in the calendar. -/
def ofDayNumber? (n : Int) : Option Date :=
  if h : 1 ≤ n ∧ n ≤ (lastDayNumber : Int) then
    some ⟨n.toNat, by omega, by omega⟩
  else none

/-- The date of a year, month and day, if they name a real date of the calendar. -/
def ofYmd? (y m d : Nat) : Option Date :=
  if 1 ≤ y ∧ y ≤ 9999 ∧ 1 ≤ m ∧ m ≤ 12 ∧ 1 ≤ d ∧ d ≤ daysInMonth y m then
    ofDayNumber? (dayNumberOf y m d)
  else none

/-- Month and day of the zero-based day `r` of year `y`, scanning from month `m`. -/
def monthDay (y : Nat) (m r : Nat) : Nat × Nat :=
  if m ≥ 12 then (12, r + 1)
  else if r < daysInMonth y m then (m, r + 1)
  else monthDay y (m + 1) (r - daysInMonth y m)
termination_by 12 - m

/-- Year, month and day of day number `n`, by cycles of 400, 100, 4 and 1 years. -/
def civil (n : Nat) : Nat × Nat × Nat :=
  let k := n - 1
  let n400 := k / 146097
  let r := k % 146097
  let n100 := r / 36524
  let r := r % 36524
  let n4 := r / 1461
  let r := r % 1461
  let n1 := r / 365
  let r := r % 365
  let y := n400 * 400 + n100 * 100 + n4 * 4 + n1 + 1
  if n1 == 4 || n100 == 4 then (y - 1, 12, 31)
  else
    let md := monthDay y 1 r
    (y, md.1, md.2)

def year (d : Date) : Nat := (civil d.dayNumber).1
def month (d : Date) : Nat := (civil d.dayNumber).2.1
def day (d : Date) : Nat := (civil d.dayNumber).2.2

/-- Days since 1970-01-01, negative before it. -/
def epochDays (d : Date) : Int := (d.dayNumber : Int) - epochDayNumber

/-- Day of the week, Monday being 0 and Sunday 6. -/
def weekday (d : Date) : Nat := (d.dayNumber + 6) % 7

/-- The date `k` days later (earlier for negative `k`), if it stays in the calendar. -/
def addDays? (d : Date) (k : Int) : Option Date := ofDayNumber? (d.dayNumber + k)

end Date

/-- Decimal digits of `n`, padded with zeros on the left to at least `w` places. -/
def padNat (w n : Nat) : String :=
  let s := toString n
  String.ofList (List.replicate (w - s.length) '0') ++ s

namespace Date

/-- The ISO form `YYYY-MM-DD`. -/
def iso (d : Date) : String :=
  padNat 4 d.year ++ "-" ++ padNat 2 d.month ++ "-" ++ padNat 2 d.day

end Date

end SalonBooking.Calendar
