import SalonBooking.Calendar.DateTime

/-!
Years of the calendar. The days before a year grow by 365 or 366 from one year to the
next, as the year is a common or a leap year, and the year computed for a day number by
cycles of 400, 100, 4 and 1 years is the one whose days hold it: the day comes after the
days of the years before and no later than the last day of its own year. Every date
lies in a year from 1 to 9999.
-/

namespace SalonBooking.Calendar

/-- The days before year `400a + 100b + 4c + d + 1`, read off its cycles. -/
theorem daysBeforeYear_cycles (a b c d : Nat) (hb : b < 4) (hc : c < 25) (hd : d < 4) :
    daysBeforeYear (400 * a + 100 * b + 4 * c + d + 1) =
      146097 * a + 36524 * b + 1461 * c + 365 * d := by
  unfold daysBeforeYear
  have h4 : (400 * a + 100 * b + 4 * c + d) / 4 = 100 * a + 25 * b + c := by omega
  have h100 : (400 * a + 100 * b + 4 * c + d) / 100 = 4 * a + b := by omega
  have h400 : (400 * a + 100 * b + 4 * c + d) / 400 = a := by omega
  simp only [Nat.add_sub_cancel, h4, h100, h400]
  omega

/-- From one year to the next the days before grow by 365, and by the counts of four,
hundred and four hundred years that the year completes. -/
theorem daysBeforeYear_succ_eq (y : Nat) (hy : 1 ≤ y) :
    daysBeforeYear (y + 1) = daysBeforeYear y + 365 + (y / 4 - (y - 1) / 4) -
      (y / 100 - (y - 1) / 100) + (y / 400 - (y - 1) / 400) := by
  dsimp only [daysBeforeYear]
  have h4 : (y - 1) / 4 ≤ y / 4 := Nat.div_le_div_right (by omega)
  have h100 : (y - 1) / 100 ≤ y / 100 := Nat.div_le_div_right (by omega)
  have h400 : (y - 1) / 400 ≤ y / 400 := Nat.div_le_div_right (by omega)
  have h1 : (y - 1) / 100 ≤ (y - 1) / 4 := Nat.div_le_div_left (by omega) (by omega)
  have h2 : y / 100 ≤ y / 4 := Nat.div_le_div_left (by omega) (by omega)
  have h3 : y / 100 - (y - 1) / 100 ≤ y / 4 - (y - 1) / 4 := by omega
  rw [Nat.add_sub_cancel]
  omega

/-- A leap year has 366 days, any other 365. -/
theorem daysBeforeYear_succ (y : Nat) (hy : 1 ≤ y) :
    daysBeforeYear (y + 1) = daysBeforeYear y + if isLeapYear y then 366 else 365 := by
  rw [daysBeforeYear_succ_eq y hy]
  by_cases h : isLeapYear y = true
  · rw [if_pos h]
    simp only [isLeapYear, Bool.and_eq_true, beq_iff_eq, Bool.or_eq_true, bne_iff_ne, ne_eq] at h
    omega
  · rw [if_neg h]
    simp only [isLeapYear, Bool.and_eq_true, beq_iff_eq, Bool.or_eq_true, bne_iff_ne, ne_eq] at h
    omega

theorem daysBeforeYear_succ_ge (y : Nat) (hy : 1 ≤ y) :
    daysBeforeYear y + 365 ≤ daysBeforeYear (y + 1) := by
  rw [daysBeforeYear_succ y hy]
  split <;> omega

theorem daysBeforeYear_mono {y y' : Nat} (hy : 1 ≤ y) (h : y ≤ y') :
    daysBeforeYear y ≤ daysBeforeYear y' := by
  induction h with
  | refl => exact Nat.le_refl _
  | step h ih => exact Nat.le_trans ih (Nat.le_trans (Nat.le_add_right _ 365)
      (daysBeforeYear_succ_ge _ (Nat.le_trans hy h)))

namespace Date

/-- The year of a day number holds it: the day comes after the days of the years before
and no later than the last day of the year. -/
theorem civil_year_bounds (n : Nat) (h1 : 1 ≤ n) :
    daysBeforeYear (civil n).1 < n ∧ n ≤ daysBeforeYear ((civil n).1 + 1) := by
  dsimp only [civil]
  -- the day splits into cycles of 400, 100, 4 and 1 years and a day of its year
  generalize ha : (n - 1) / 146097 = a
  generalize hb : (n - 1) % 146097 / 36524 = b
  generalize hc : (n - 1) % 146097 % 36524 / 1461 = c
  generalize hd : (n - 1) % 146097 % 36524 % 1461 / 365 = d
  have hb4 : b ≤ 4 := by omega
  have hc25 : c < 25 := by omega
  have hd4 : d ≤ 4 := by omega
  split
  · next h =>
    simp only [Bool.or_eq_true, beq_iff_eq] at h
    dsimp only
    rcases h with rfl | rfl
    · -- the last day of the leap year that ends a four-year cycle
      have hy := daysBeforeYear_cycles a b c 3 (by omega) hc25 (by omega)
      have hy' := daysBeforeYear_cycles a b (c + 1) 0 (by omega) (by omega) (by omega)
      rw [show a * 400 + b * 100 + c * 4 + 4 + 1 - 1 = 400 * a + 100 * b + 4 * c + 3 + 1 by omega, hy,
        show 400 * a + 100 * b + 4 * c + 3 + 1 + 1 = 400 * a + 100 * b + 4 * (c + 1) + 0 + 1 by omega,
        hy']
      omega
    · -- the last day of a four-hundred-year cycle
      have hy := daysBeforeYear_cycles a 3 24 3 (by omega) (by omega) (by omega)
      have hy' := daysBeforeYear_cycles (a + 1) 0 0 0 (by omega) (by omega) (by omega)
      rw [show a * 400 + 4 * 100 + c * 4 + d + 1 - 1 = 400 * a + 100 * 3 + 4 * 24 + 3 + 1 by omega, hy,
        show 400 * a + 100 * 3 + 4 * 24 + 3 + 1 + 1 = 400 * (a + 1) + 100 * 0 + 4 * 0 + 0 + 1 by omega,
        hy']
      omega
  · next h =>
    simp only [Bool.or_eq_true, beq_iff_eq, not_or] at h
    dsimp only
    have hy := daysBeforeYear_cycles a b c d (by omega) hc25 (by omega)
    have hy' := daysBeforeYear_succ_ge (400 * a + 100 * b + 4 * c + d + 1) (by omega)
    rw [show a * 400 + b * 100 + c * 4 + d + 1 = 400 * a + 100 * b + 4 * c + d + 1 by omega]
    rw [hy] at hy' ⊢
    omega

theorem year_bounds (d : Date) :
    daysBeforeYear d.year < d.dayNumber ∧ d.dayNumber ≤ daysBeforeYear (d.year + 1) :=
  civil_year_bounds d.dayNumber d.one_le

/-- Every date lies in a year from 1 to 9999. -/
theorem year_mem (d : Date) : 1 ≤ d.year ∧ d.year ≤ 9999 := by
  have hb := d.year_bounds
  have hlast := d.le_last
  refine ⟨Nat.pos_of_ne_zero fun h0 => ?_, Nat.le_of_not_lt fun hbig => ?_⟩
  · rw [h0, Nat.zero_add] at hb
    have : daysBeforeYear 1 = 0 := by decide
    omega
  · have hmono := daysBeforeYear_mono (by decide : 1 ≤ 10000) hbig
    have : daysBeforeYear 10000 = 3652059 := by decide
    simp only [lastDayNumber] at hlast
    omega

end Date

end SalonBooking.Calendar
