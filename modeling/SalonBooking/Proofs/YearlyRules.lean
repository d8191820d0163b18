import SalonBooking.Proofs.OffsetChanges
import SalonBooking.Proofs.Years

/-!
The yearly rule of a zone, year by year. Each year a seasonal rule changes twice: summer
time starts at its boundary less the standard offset and ends at its boundary less the
summer offset, in UTC seconds, and on the wall clock each change counts from its UTC
second plus the larger offset. Within a year the rule's type at a second is the one these
two changes set, so a run of years is one list of changes.

The day of a change depends on the year only through whether it is a leap year, up to its
place in the month; bounds read off a common and a leap year therefore hold in every year.
From them a rule is shown to change the same way every year (its changes inside the year,
in one order, and spaced), or to keep one offset for good.
-/

namespace SalonBooking.Zone

open SalonBooking.Calendar Changes

/-- Seconds since 1970-01-01 of the first second of year `y`. -/
def yearStart (y : Nat) : Int := (lastDayBefore y + 1) * 86400

/-- Seconds in year `y`. -/
def yearSeconds (y : Nat) : Int := (if isLeapYear y then 366 else 365) * 86400

theorem yearStart_succ {y : Nat} (hy : 1 ≤ y) : yearStart (y + 1) = yearStart y + yearSeconds y := by
  simp only [yearStart, yearSeconds, lastDayBefore, daysBeforeYear_succ y hy]
  split <;> omega

theorem yearStart_mono {y y' : Nat} (hy : 1 ≤ y) (h : y ≤ y') : yearStart y ≤ yearStart y' := by
  have := daysBeforeYear_mono hy h
  simp only [yearStart, lastDayBefore]
  omega

/-- Every date-time lies in the seconds of its year. -/
theorem epochSeconds_mem_year (x : DateTime) :
    yearStart x.year ≤ x.epochSeconds ∧ x.epochSeconds < yearStart (x.year + 1) := by
  obtain ⟨⟨n, h1, h2⟩, ⟨m, hm⟩⟩ := x
  have hb := Date.year_bounds ⟨n, h1, h2⟩
  simp only [DateTime.epochSeconds, DateTime.toMicros, DateTime.year, Date.epochDays, yearStart,
    lastDayBefore, microsPerDay, microsPerSecond] at hb hm ⊢
  omega

theorem daysBeforeMonth_of_isLeapYear {y y' : Nat} (h : isLeapYear y = isLeapYear y') (m : Nat) :
    daysBeforeMonth y m = daysBeforeMonth y' m := by
  simp only [daysBeforeMonth, h]

theorem daysInMonth_of_isLeapYear {y y' : Nat} (h : isLeapYear y = isLeapYear y') (m : Nat) :
    daysInMonth y m = daysInMonth y' m := by
  simp only [daysInMonth, h]

theorem yearSeconds_of_isLeapYear {y y' : Nat} (h : isLeapYear y = isLeapYear y') :
    yearSeconds y = yearSeconds y' := by
  simp only [yearSeconds, h]

namespace DayRule

/-- A month rule names a week from 0 to 5; its day then falls in its month. -/
def valid : DayRule → Bool
  | .monthWeek _ w _ => w ≤ 5
  | _ => true

/-- The least and the greatest day on which the change can fall in year `y`, counted from
the last day of the year before; both depend only on whether `y` is a leap year. -/
def dayRange (r : DayRule) (y : Nat) : Int × Int :=
  match r with
  | .monthWeek m _ _ => (daysBeforeMonth y m + 1, daysBeforeMonth y m + daysInMonth y m)
  | .julian n => let n := if n ≥ 59 ∧ isLeapYear y then n + 1 else n; (n, n)
  | .zeroBased n => (n, n)

theorem dayRange_of_isLeapYear {y y' : Nat} (h : isLeapYear y = isLeapYear y') (r : DayRule) :
    r.dayRange y = r.dayRange y' := by
  cases r <;> simp only [dayRange, daysBeforeMonth_of_isLeapYear h, daysInMonth_of_isLeapYear h, h]

/-- The day of a change lies in its range. -/
theorem epochDay_mem {r : DayRule} (hr : r.valid = true) (y : Nat) :
    (r.dayRange y).1 ≤ r.epochDay y - lastDayBefore y ∧ r.epochDay y - lastDayBefore y ≤ (r.dayRange y).2 := by
  cases r with
  | monthWeek m w wd =>
    simp only [valid, decide_eq_true_eq] at hr
    have hdim : 28 ≤ daysInMonth y m := by
      unfold daysInMonth
      split
      · split <;> omega
      all_goals omega
    simp only [epochDay, dayRange]
    split <;> omega
  | julian n =>
    simp only [epochDay, dayRange]
    split <;> omega
  | zeroBased n =>
    simp only [epochDay, dayRange]
    omega

end DayRule

namespace Boundary

/-- Seconds from the first of year `y` to the earliest and to the latest instant at which
the boundary, read in a local time of offset `off`, can fall in a year of the leap status
of `y`. -/
def span (b : Boundary) (off : Int) (y : Nat) : Int × Int :=
  (((b.day.dayRange y).1 - 1) * 86400 + b.seconds - off,
    ((b.day.dayRange y).2 - 1) * 86400 + b.seconds - off)

theorem span_of_isLeapYear {y y' : Nat} (h : isLeapYear y = isLeapYear y') (b : Boundary) (off : Int) :
    b.span off y = b.span off y' := by
  simp only [span, DayRule.dayRange_of_isLeapYear h]

/-- The instant of a boundary lies in its span. -/
theorem at_mem_span {b : Boundary} (hb : b.day.valid = true) (off : Int) (y : Nat) :
    (b.span off y).1 ≤ b.at y - off - yearStart y ∧ b.at y - off - yearStart y ≤ (b.span off y).2 := by
  have h := DayRule.epochDay_mem hb y
  simp only [span, Boundary.at, yearStart]
  omega

end Boundary

/-- The changes of a season from `start` to `stop`, in time order: summer time with offset
`dst` starts at `start` and standard time with offset `std` returns at `stop`; when `stop`
comes first the season wraps past the end of the year. -/
def seasonChanges (std dst start stop : Int) : List (Int × Int) :=
  if start < stop then [(start, dst), (stop, std)] else [(stop, std), (start, dst)]

/-- The offset before both changes of a season. -/
def seasonStart (std dst start stop : Int) : Int := if start < stop then std else dst

/-- A season's type at `t` has the offset that its changes set. -/
theorem inSeason_offset (std dst : LocalType) (start stop t : Int) :
    (if inSeason start stop t then dst else std).offset =
      offsetAt (seasonStart std.offset dst.offset start stop)
        (seasonChanges std.offset dst.offset start stop) t := by
  unfold inSeason seasonStart seasonChanges
  by_cases h : start < stop
  · simp only [h, if_true, offsetAt]
    by_cases h₁ : start ≤ t
    · by_cases h₂ : stop ≤ t
      · have h₃ : ¬ t < stop := by omega
        simp [h₁, h₂, h₃]
      · have h₃ : t < stop := by omega
        simp [h₁, h₂, h₃]
    · simp [h₁]
  · simp only [h, if_false, offsetAt]
    by_cases h₁ : stop ≤ t
    · by_cases h₂ : start ≤ t
      · have h₃ : ¬ t < start := by omega
        simp [h₁, h₂, h₃]
      · have h₃ : t < start := by omega
        simp [h₁, h₂, h₃]
    · simp [h₁]

theorem mem_seasonChanges (std dst start stop : Int) :
    (start, dst) ∈ seasonChanges std dst start stop ∧ (stop, std) ∈ seasonChanges std dst start stop := by
  unfold seasonChanges
  split <;> simp

/-- The two changes of a season, followed by the first of the next season, ascend when
both seasons start with the same offset, the changes are spaced, and the next season's come
after this one's. -/
theorem ascending_seasonChanges {std dst a b a' b' : Int}
    (hst : seasonStart std dst a b = seasonStart std dst a' b')
    (hs : spaced (seasonStart std dst a b)
      (seasonChanges std dst a b ++ (seasonChanges std dst a' b').take 1) = true)
    (hle : max a b ≤ min a' b') :
    ascending (seasonChanges std dst a b ++ (seasonChanges std dst a' b').take 1) = true := by
  unfold seasonStart at hst hs
  unfold seasonChanges at hs ⊢
  -- two seasons in different orders start with different offsets unless the two are equal
  by_cases h : a < b <;> by_cases h' : a' < b' <;>
    simp only [h, h', ↓reduceIte, List.take_succ_cons, List.take_zero, List.cons_append,
      List.nil_append, spaced, ascending, Bool.and_true, Bool.and_eq_true, decide_eq_true_eq]
      at hst hs ⊢ <;> omega

theorem lastOffset_seasonChanges (std dst start stop : Int) :
    lastOffset (seasonStart std dst start stop) (seasonChanges std dst start stop) =
      seasonStart std dst start stop := by
  unfold seasonStart seasonChanges
  split <;> rfl

/-- On the wall clock each change of a season counts from its UTC second plus the larger
offset. -/
theorem wallPlaces_seasonChanges (std dst start stop : Int) :
    wallPlaces (seasonStart std dst start stop) (seasonChanges std dst start stop) =
      seasonChanges std dst (start + max std dst) (stop + max std dst) := by
  unfold seasonStart seasonChanges
  by_cases h : start < stop
  · rw [if_pos h, if_pos h, if_pos (by omega)]
    simp only [wallPlaces, Int.max_comm dst std]
  · rw [if_neg h, if_neg h, if_neg (by omega)]
    simp only [wallPlaces, Int.max_comm dst std]

namespace Rule

/-- The larger of a rule's offsets. -/
def high : Rule → Int
  | .fixed std => std.offset
  | .seasonal std dst _ _ => max std.offset dst.offset

/-- The changes of a rule in year `y`, each at its UTC second moved by `σ`: summer time
starts at its boundary less the standard offset and ends at its boundary less the summer
offset. -/
def yearChanges (r : Rule) (σ : Int) (y : Nat) : List (Int × Int) :=
  match r with
  | .fixed _ => []
  | .seasonal std dst s e =>
    seasonChanges std.offset dst.offset (s.at y - std.offset + σ) (e.at y - dst.offset + σ)

/-- The offset in force at the start of year `y`. -/
def startOffset (r : Rule) (y : Nat) : Int :=
  match r with
  | .fixed std => std.offset
  | .seasonal std dst s e =>
    seasonStart std.offset dst.offset (s.at y - std.offset) (e.at y - dst.offset)

/-- The changes of the `n` years from year `y` on. -/
def changesFrom (r : Rule) (σ : Int) (y : Nat) : Nat → List (Int × Int)
  | 0 => []
  | n + 1 => r.yearChanges σ y ++ r.changesFrom σ (y + 1) n

/-- The rule's type at a UTC second has the offset its changes of the year set. -/
theorem atUtc_offset (r : Rule) (t : Int) (y : Nat) :
    (r.atUtc t y).offset = offsetAt (r.startOffset y) (r.yearChanges 0 y) t := by
  cases r with
  | fixed std => rfl
  | seasonal std dst s e =>
    simp only [atUtc, yearChanges, startOffset, Int.add_zero]
    exact inSeason_offset std dst _ _ t

/-- The rule's type at a wall-clock second has the offset its changes of the year set,
each placed at its UTC second plus the larger offset. -/
theorem atLocal_offset (r : Rule) (t : Int) (y : Nat) :
    (r.atLocal t y).offset = offsetAt (r.startOffset y) (r.yearChanges r.high y) t := by
  cases r with
  | fixed std => rfl
  | seasonal std dst s e =>
    simp only [atLocal, yearChanges, startOffset, high]
    have hstart : seasonStart std.offset dst.offset (s.at y - std.offset) (e.at y - dst.offset) =
        seasonStart std.offset dst.offset (s.at y - std.offset + max std.offset dst.offset)
          (e.at y - dst.offset + max std.offset dst.offset) := by
      simp only [seasonStart]
      split <;> split <;> first | rfl | omega
    rw [hstart, ← inSeason_offset std dst]
    by_cases hs : dst.offset - std.offset ≥ 0
    · rw [if_pos hs]
      dsimp only
      rw [show s.at y - std.offset + max std.offset dst.offset = s.at y + (dst.offset - std.offset) by omega,
        show e.at y - dst.offset + max std.offset dst.offset = e.at y by omega]
    · rw [if_neg hs]
      dsimp only
      rw [show s.at y - std.offset + max std.offset dst.offset = s.at y by omega,
        show e.at y - dst.offset + max std.offset dst.offset = e.at y - (dst.offset - std.offset) by omega]

theorem lastOffset_yearChanges (r : Rule) (σ : Int) (y : Nat) :
    lastOffset (r.startOffset y) (r.yearChanges σ y) = r.startOffset y := by
  cases r with
  | fixed std => rfl
  | seasonal std dst s e =>
    simp only [yearChanges, startOffset]
    have hstart : seasonStart std.offset dst.offset (s.at y - std.offset) (e.at y - dst.offset) =
        seasonStart std.offset dst.offset (s.at y - std.offset + σ) (e.at y - dst.offset + σ) := by
      simp only [seasonStart]
      split <;> split <;> first | rfl | omega
    rw [hstart]
    exact lastOffset_seasonChanges _ _ _ _

theorem wallPlaces_yearChanges (r : Rule) (y : Nat) :
    wallPlaces (r.startOffset y) (r.yearChanges 0 y) = r.yearChanges r.high y := by
  cases r with
  | fixed std => rfl
  | seasonal std dst s e =>
    simp only [yearChanges, startOffset, high, Int.add_zero]
    exact wallPlaces_seasonChanges _ _ _ _

/-- The changes of every year from 1 on, at UTC seconds moved by `σ`, fall inside
their year. -/
def Inside (r : Rule) (σ : Int) : Prop :=
  ∀ y, 1 ≤ y → ∀ x ∈ r.yearChanges σ y, yearStart y ≤ x.1 ∧ x.1 < yearStart (y + 1)

/-- A rule that changes the same way every year: each year starts with offset `st`, its
changes fall inside the year on both clocks, and no change comes sooner after a change
forward than the time it skips, also across the end of the year. -/
structure Yearly (r : Rule) (st : Int) : Prop where
  start : ∀ y, 1 ≤ y → r.startOffset y = st
  utc : r.Inside 0
  wall : r.Inside r.high
  spacing : ∀ y, 1 ≤ y → spaced st (r.yearChanges 0 y ++ (r.yearChanges 0 (y + 1)).take 1) = true

variable {r : Rule} {σ st t : Int} {y₁ y : Nat}

theorem mem_changesFrom (hin : r.Inside σ) (hy : 1 ≤ y₁) {n : Nat} {x : Int × Int}
    (hx : x ∈ r.changesFrom σ y₁ n) : yearStart y₁ ≤ x.1 ∧ x.1 < yearStart (y₁ + n) := by
  induction n generalizing y₁ with
  | zero => simp [changesFrom] at hx
  | succ n ih =>
    rw [changesFrom, List.mem_append] at hx
    rcases hx with hx | hx
    · have h := hin y₁ hy x hx
      have := yearStart_mono (Nat.le_add_right_of_le hy) (show y₁ + 1 ≤ y₁ + (n + 1) by omega)
      omega
    · have h := ih (by omega) hx
      have := yearStart_mono hy (Nat.le_add_right y₁ 1)
      rw [show y₁ + 1 + n = y₁ + (n + 1) by omega] at h
      omega

/-- Within the years of a run of yearly changes, the offset at a second is the one that
the changes of its own year set. -/
theorem offsetAt_changesFrom (hin : r.Inside σ) (hst : ∀ y, 1 ≤ y → r.startOffset y = st)
    (hy : 1 ≤ y₁) {n : Nat} (hY : y₁ ≤ y) (hYn : y < y₁ + n) (ht₁ : yearStart y ≤ t)
    (ht₂ : t < yearStart (y + 1)) :
    offsetAt st (r.changesFrom σ y₁ n) t = offsetAt st (r.yearChanges σ y) t := by
  induction n generalizing y₁ with
  | zero => omega
  | succ n ih =>
    rw [changesFrom]
    by_cases hfirst : y = y₁
    · -- the later years' changes all come after the second
      subst hfirst
      refine offsetAt_append_of_lt fun x hx => ?_
      have := (mem_changesFrom hin (Nat.le_add_right_of_le hy) hx).1
      omega
    · -- the first year's changes all came before, and leave the year's first offset
      have hbefore : ∀ x ∈ r.yearChanges σ y₁, x.1 ≤ t := by
        intro x hx
        have h := (hin y₁ hy x hx).2
        have := yearStart_mono (Nat.le_add_right_of_le hy) (show y₁ + 1 ≤ y by omega)
        omega
      rw [offsetAt_append_of_le hbefore]
      have hlast := r.lastOffset_yearChanges σ y₁
      rw [hst y₁ hy] at hlast
      rw [hlast]
      exact ih (by omega) (by omega) (by omega)

theorem wallPlaces_changesFrom (hst : ∀ y, 1 ≤ y → r.startOffset y = st) (hy : 1 ≤ y₁) {n : Nat} :
    wallPlaces st (r.changesFrom 0 y₁ n) = r.changesFrom r.high y₁ n := by
  induction n generalizing y₁ with
  | zero => rfl
  | succ n ih =>
    have hlast := r.lastOffset_yearChanges 0 y₁
    have hwall := r.wallPlaces_yearChanges y₁
    rw [hst y₁ hy] at hlast hwall
    rw [changesFrom, changesFrom, wallPlaces_append, hlast, hwall, ih (by omega)]

theorem length_yearChanges_seasonal (std dst : LocalType) (s e : Boundary) (σ : Int) (y : Nat) :
    ((Rule.seasonal std dst s e).yearChanges σ y).length = 2 := by
  simp only [yearChanges, seasonChanges]
  split <;> rfl

theorem changesFrom_fixed (std : LocalType) (σ : Int) (y n : Nat) :
    (Rule.fixed std).changesFrom σ y n = [] := by
  induction n generalizing y with
  | zero => rfl
  | succ n ih => simp only [changesFrom, yearChanges, List.nil_append, ih]

/-- A yearly rule's changes over any run of years are spaced. -/
theorem Yearly.spaced_changesFrom (h : r.Yearly st) (hy : 1 ≤ y₁) {n : Nat} :
    spaced st (r.changesFrom 0 y₁ n) = true := by
  induction n generalizing y₁ with
  | zero => rfl
  | succ n ih =>
    rw [changesFrom, spaced_append, Bool.and_eq_true]
    have hlast := r.lastOffset_yearChanges 0 y₁
    rw [h.start y₁ hy] at hlast
    refine ⟨?_, by rw [hlast]; exact ih (by omega)⟩
    -- the first year with the first change of the next
    cases n with
    | zero => simpa [changesFrom] using spaced_of_append (h.spacing y₁ hy)
    | succ m =>
      cases r with
      | fixed std => simp [changesFrom_fixed, yearChanges, spaced]
      | seasonal std dst s e =>
        rw [changesFrom, List.take_append_of_le_length
          (by rw [length_yearChanges_seasonal]; omega)]
        exact h.spacing y₁ hy

/-- A change of a run of years is a change of one of its years. -/
theorem exists_year_of_mem_changesFrom {n : Nat} {x : Int × Int} (hx : x ∈ r.changesFrom σ y₁ n) :
    ∃ y, y₁ ≤ y ∧ y < y₁ + n ∧ x ∈ r.yearChanges σ y := by
  induction n generalizing y₁ with
  | zero => simp [changesFrom] at hx
  | succ n ih =>
    rw [changesFrom, List.mem_append] at hx
    rcases hx with hx | hx
    · exact ⟨y₁, Nat.le_refl y₁, by omega, hx⟩
    · obtain ⟨y, h₁, h₂, hy⟩ := ih hx
      exact ⟨y, by omega, by omega, hy⟩

/-- The changes of a year of a yearly rule, followed by the first of the next year, ascend. -/
theorem Yearly.ascending_year (h : r.Yearly st) (hy : 1 ≤ y) :
    ascending (r.yearChanges 0 y ++ (r.yearChanges 0 (y + 1)).take 1) = true := by
  cases r with
  | fixed std => rfl
  | seasonal std dst s e =>
    have hs₁ := h.start y hy
    have hs₂ := h.start (y + 1) (by omega)
    have hsp := h.spacing y hy
    -- the changes of the year come before the next year, and those of the next year in it
    have hbefore := fun x hx => (h.utc y hy x hx).2
    have hafter := fun x hx => (h.utc (y + 1) (by omega) x hx).1
    simp only [yearChanges, startOffset, Int.add_zero] at hs₁ hs₂ hsp hbefore hafter ⊢
    obtain ⟨ha, hb⟩ := mem_seasonChanges std.offset dst.offset (s.at y - std.offset) (e.at y - dst.offset)
    obtain ⟨ha', hb'⟩ := mem_seasonChanges std.offset dst.offset (s.at (y + 1) - std.offset)
      (e.at (y + 1) - dst.offset)
    refine ascending_seasonChanges (hs₁.trans hs₂.symm) (by rw [hs₁]; exact hsp) ?_
    have h₁ := hbefore _ ha
    have h₂ := hbefore _ hb
    have h₃ := hafter _ ha'
    have h₄ := hafter _ hb'
    dsimp only at h₁ h₂ h₃ h₄
    omega

/-- A yearly rule's changes over any run of years ascend. -/
theorem Yearly.ascending_changesFrom (h : r.Yearly st) (hy : 1 ≤ y₁) {n : Nat} :
    ascending (r.changesFrom 0 y₁ n) = true := by
  induction n generalizing y₁ with
  | zero => rfl
  | succ n ih =>
    rw [changesFrom, ascending_append, Bool.and_eq_true]
    refine ⟨?_, ih (by omega)⟩
    -- the first year with the first change of the next
    cases n with
    | zero => simpa [changesFrom] using ascending_of_append (h.ascending_year hy)
    | succ m =>
      cases r with
      | fixed std => simp [changesFrom_fixed, yearChanges, ascending]
      | seasonal std dst s e =>
        rw [changesFrom, List.take_append_of_le_length
          (by rw [length_yearChanges_seasonal]; omega)]
        exact h.ascending_year hy

end Rule

/-- The common year 2001 and the leap year 2004: the span of a change depends only on
whether its year is a leap year. -/
def sampleYears : List Nat := [2001, 2004]

theorem exists_sampleYear (y : Nat) : ∃ y₀ ∈ sampleYears, isLeapYear y₀ = isLeapYear y := by
  cases h : isLeapYear y
  · exact ⟨2001, by simp [sampleYears], by decide⟩
  · exact ⟨2004, by simp [sampleYears], by decide⟩

/-- Two changes of a year fit it, the first within span `x` setting offset `p` and the
second within span `x'` setting offset `p'`: they come in that order inside the year of
`len` seconds on both clocks (the wall clock `hi` seconds ahead), and no change comes
sooner after a change forward than the time it skips, up to the next year's first change
within span `x₁`. -/
def seasonFits (x x' x₁ : Int × Int) (p p' hi len : Int) : Bool :=
  decide (x.2 < x'.1) && decide (0 ≤ x.1 + min 0 hi) && decide (x'.2 + max 0 hi < len) &&
    decide (x.2 + (p - p') ≤ x'.1) && decide (x'.2 + (p' - p) ≤ len + x₁.1)

/-- What fitting spans say of the instants in them. -/
theorem seasonFits_instants {x x' x₁ : Int × Int} {p p' hi len : Int}
    (hfit : seasonFits x x' x₁ p p' hi len = true) {X X' X₁ start : Int}
    (hX : x.1 ≤ X - start ∧ X - start ≤ x.2) (hX' : x'.1 ≤ X' - start ∧ X' - start ≤ x'.2)
    (hX₁ : x₁.1 ≤ X₁ - (start + len) ∧ X₁ - (start + len) ≤ x₁.2) :
    X < X' ∧ start ≤ X + min 0 hi ∧ X' + max 0 hi < start + len ∧ X + (p - p') ≤ X' ∧
      X' + (p' - p) ≤ X₁ := by
  simp only [seasonFits, Bool.and_eq_true, decide_eq_true_eq] at hfit
  omega

namespace Rule

/-- The offset that starts every year of a rule whose two changes fit every year, found
from the spans of its changes in a common and in a leap year: summer time inside the year,
or, wrapping past its end, standard time inside the year. -/
def yearlyStart? : Rule → Option Int
  | .fixed std => some std.offset
  | .seasonal std dst s e =>
    let hi := max std.offset dst.offset
    if !(s.day.valid && e.day.valid) then none
    else if sampleYears.all (fun y => sampleYears.all fun y' =>
        seasonFits (s.span std.offset y) (e.span dst.offset y) (s.span std.offset y')
          dst.offset std.offset hi (yearSeconds y)) then some std.offset
    else if sampleYears.all (fun y => sampleYears.all fun y' =>
        seasonFits (e.span dst.offset y) (s.span std.offset y) (e.span dst.offset y')
          std.offset dst.offset hi (yearSeconds y)) then some dst.offset
    else none

/-- A season whose two changes, at `X y` setting `P` and at `X' y` setting `P'`, come in
that order inside every year on both clocks and are spaced, changes yearly. -/
theorem yearly_of_instants {std dst : LocalType} {s e : Boundary} (X X' : Nat → Int) (P P' : Int)
    (horder : ∀ y, 1 ≤ y → ∀ σ,
      (Rule.seasonal std dst s e).yearChanges σ y = [(X y + σ, P), (X' y + σ, P')])
    (hst : ∀ y, 1 ≤ y → (Rule.seasonal std dst s e).startOffset y = P')
    (hfacts : ∀ y, 1 ≤ y → X y < X' y ∧ yearStart y ≤ X y + min 0 (max std.offset dst.offset) ∧
      X' y + max 0 (max std.offset dst.offset) < yearStart (y + 1) ∧
      X y + (P - P') ≤ X' y ∧ X' y + (P' - P) ≤ X (y + 1)) :
    (Rule.seasonal std dst s e).Yearly P' := by
  refine ⟨hst, ?_, ?_, ?_⟩
  · intro y hy x hx
    rw [horder y hy] at hx
    have h := hfacts y hy
    simp only [List.mem_cons, List.not_mem_nil, or_false] at hx
    rcases hx with rfl | rfl <;> dsimp only <;> omega
  · intro y hy x hx
    rw [horder y hy] at hx
    have h := hfacts y hy
    simp only [high, List.mem_cons, List.not_mem_nil, or_false] at hx
    rcases hx with rfl | rfl <;> dsimp only <;> omega
  · intro y hy
    have h := hfacts y hy
    rw [horder y hy, horder (y + 1) (by omega)]
    simp only [List.take_succ_cons, List.take_zero, List.cons_append, List.nil_append, spaced,
      Bool.and_true, Bool.and_eq_true, decide_eq_true_eq]
    omega

/-- Where the changes of a seasonal rule fall in year `y`, read off the spans of the
sample years of the same leap status. -/
theorem span_facts {b b' : Boundary} (hb : b.day.valid = true) (hb' : b'.day.valid = true)
    {off off' p p' hi : Int}
    (hall : sampleYears.all (fun y => sampleYears.all fun y' =>
      seasonFits (b.span off y) (b'.span off' y) (b.span off y') p p' hi (yearSeconds y)) = true)
    (y : Nat) (hy : 1 ≤ y) :
    b.at y - off < b'.at y - off' ∧ yearStart y ≤ b.at y - off + min 0 hi ∧
      b'.at y - off' + max 0 hi < yearStart (y + 1) ∧
      b.at y - off + (p - p') ≤ b'.at y - off' ∧ b'.at y - off' + (p' - p) ≤ b.at (y + 1) - off := by
  obtain ⟨y₀, hy₀, hl₀⟩ := exists_sampleYear y
  obtain ⟨y₁, hy₁, hl₁⟩ := exists_sampleYear (y + 1)
  have hfit := List.all_eq_true.mp (List.all_eq_true.mp hall y₀ hy₀) y₁ hy₁
  rw [Boundary.span_of_isLeapYear hl₀, Boundary.span_of_isLeapYear hl₀,
    Boundary.span_of_isLeapYear hl₁, yearSeconds_of_isLeapYear hl₀] at hfit
  have h₂ := Boundary.at_mem_span hb off (y + 1)
  rw [yearStart_succ hy] at h₂ ⊢
  exact seasonFits_instants hfit (Boundary.at_mem_span hb off y) (Boundary.at_mem_span hb' off' y) h₂

theorem seasonChanges_of_lt {std dst start stop : Int} (h : start < stop) :
    seasonChanges std dst start stop = [(start, dst), (stop, std)] := if_pos h

theorem seasonChanges_of_le {std dst start stop : Int} (h : stop ≤ start) :
    seasonChanges std dst start stop = [(stop, std), (start, dst)] := if_neg (by omega)

/-- A rule whose changes fit both sample years changes the same way every year. -/
theorem yearly_of_yearlyStart? {r : Rule} {st : Int} (h : r.yearlyStart? = some st) : r.Yearly st := by
  cases r with
  | fixed std =>
    obtain rfl : std.offset = st := by simpa [yearlyStart?] using h
    refine ⟨fun _ _ => rfl, ?_, ?_, fun _ _ => rfl⟩ <;> intro y _ x hx <;> simp [yearChanges] at hx
  | seasonal std dst s e =>
    simp only [yearlyStart?] at h
    split at h
    · cases h
    · next hvalid =>
      simp only [Bool.not_eq_true', Bool.and_eq_false_iff, not_or, Bool.not_eq_false] at hvalid
      split at h
      · next hnorth =>
        -- summer time starts and ends inside every year
        obtain rfl := (Option.some.injEq _ _).mp h
        have hf := span_facts hvalid.1 hvalid.2 hnorth
        refine yearly_of_instants (fun y => s.at y - std.offset) (fun y => e.at y - dst.offset)
          dst.offset std.offset (fun y hy σ => ?_) (fun y hy => ?_) fun y hy => ?_
        · exact seasonChanges_of_lt (by have := (hf y hy).1; omega)
        · exact if_pos (hf y hy).1
        · have := hf y hy
          omega
      · split at h
        · next hsouth =>
          -- summer time wraps past the end of every year
          obtain rfl := (Option.some.injEq _ _).mp h
          have hf := span_facts hvalid.2 hvalid.1 hsouth
          refine yearly_of_instants (fun y => e.at y - dst.offset) (fun y => s.at y - std.offset)
            std.offset dst.offset (fun y hy σ => ?_) (fun y hy => ?_) fun y hy => ?_
          · exact seasonChanges_of_le (by have := (hf y hy).1; omega)
          · exact if_neg (by have := (hf y hy).1; omega)
          · have := hf y hy
            omega
        · cases h

/-- The offset of a rule that never changes: a fixed rule's, or the summer offset of a
seasonal rule whose season covers every year on both clocks. -/
def steadyOffset? : Rule → Option Int
  | .fixed std => some std.offset
  | .seasonal std dst s e =>
    let hi := max std.offset dst.offset
    if s.day.valid && e.day.valid && sampleYears.all (fun y =>
        decide ((s.span std.offset y).2 < (e.span dst.offset y).1) &&
          decide ((s.span std.offset y).2 + max 0 hi ≤ 0) &&
          decide (yearSeconds y ≤ (e.span dst.offset y).1 + min 0 hi))
    then some dst.offset else none

/-- A rule that keeps offset `v` at every second of every year, on both clocks. -/
structure Steady (r : Rule) (v : Int) : Prop where
  utc : ∀ y t, 1 ≤ y → yearStart y ≤ t → t < yearStart (y + 1) → (r.atUtc t y).offset = v
  wall : ∀ y t, 1 ≤ y → yearStart y ≤ t → t < yearStart (y + 1) → (r.atLocal t y).offset = v

theorem steady_of_steadyOffset? {r : Rule} {v : Int} (h : r.steadyOffset? = some v) : r.Steady v := by
  cases r with
  | fixed std =>
    obtain rfl : std.offset = v := by simpa [steadyOffset?] using h
    exact ⟨fun _ _ _ _ _ => rfl, fun _ _ _ _ _ => rfl⟩
  | seasonal std dst s e =>
    simp only [steadyOffset?] at h
    split at h
    · next hcover =>
      obtain rfl := (Option.some.injEq _ _).mp h
      simp only [Bool.and_eq_true] at hcover
      obtain ⟨⟨hs, he⟩, hall⟩ := hcover
      -- the season starts before the year on both clocks and ends after it
      have hyear : ∀ y, 1 ≤ y → s.at y - std.offset < e.at y - dst.offset ∧
          s.at y - std.offset + max 0 (max std.offset dst.offset) ≤ yearStart y ∧
          yearStart (y + 1) ≤ e.at y - dst.offset + min 0 (max std.offset dst.offset) := by
        intro y hy
        obtain ⟨y₀, hy₀, hl₀⟩ := exists_sampleYear y
        have hfit := List.all_eq_true.mp hall y₀ hy₀
        simp only [Bool.and_eq_true, decide_eq_true_eq] at hfit
        rw [Boundary.span_of_isLeapYear hl₀, Boundary.span_of_isLeapYear hl₀,
          yearSeconds_of_isLeapYear hl₀] at hfit
        have ha := Boundary.at_mem_span hs std.offset y
        have hz := Boundary.at_mem_span he dst.offset y
        rw [yearStart_succ hy]
        omega
      refine ⟨fun y t hy ht₁ ht₂ => ?_, fun y t hy ht₁ ht₂ => ?_⟩
      · have h := hyear y hy
        rw [atUtc_offset]
        simp only [yearChanges, startOffset, seasonStart, Int.add_zero, if_pos h.1,
          seasonChanges_of_lt h.1]
        rw [offsetAt_cons_of_le (by omega), offsetAt_cons_of_lt (by omega)]
      · have h := hyear y hy
        rw [atLocal_offset]
        simp only [yearChanges, startOffset, seasonStart, high, if_pos h.1,
          seasonChanges_of_lt (show s.at y - std.offset + max std.offset dst.offset <
            e.at y - dst.offset + max std.offset dst.offset by omega)]
        rw [offsetAt_cons_of_le (by omega), offsetAt_cons_of_lt (by omega)]
    · cases h

end Rule

end SalonBooking.Zone
